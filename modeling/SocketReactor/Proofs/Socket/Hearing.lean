import SocketReactor.Proofs.Host.Inflow
import SocketReactor.Proofs.Owner.Roles
import SocketReactor.Proofs.Socket.Calls
import SocketReactor.Proofs.Socket.Intake
import SocketReactor.Proofs.Socket.Running

/-!
# Hearing the end of a stream

A stream is told of its end when the host has given out all and the peer has ended, and also, once
it has shut its own reading half, whatever the peer does.  The host says the same in both cases,
the socket remembers which half it has shut, and nobody asks it.  What the host gives out is heard,
unless it comes to one who asks for the sender as well.
-/

namespace SocketReactor

variable {σ : Type} {answers : Answering σ} {state after : σ} {socket now later : Socket}
  {capacity : Nat}

theorem Errno.ioKind_eq_wouldBlock_iff (errno : Errno) :
    errno.ioKind = .wouldBlock ↔ errno = .tryAgain := by
  constructor
  · intro blocks
    have otherwise : ∀ {condition : Prop} [Decidable condition] {kind rest : IoKind},
        kind ≠ .wouldBlock → (if condition then kind else rest) = .wouldBlock →
          rest = .wouldBlock := by
      intro condition _ kind rest apart same
      split at same
      · exact absurd same apart
      · exact same
    by_contra other
    rw [ioKind, if_neg other] at blocks
    repeat replace blocks := otherwise (by decide) blocks
    cases blocks
  · rintro rfl
    decide

theorem Fault.ioKind_of_isWrongState {fault : Fault} (wrong : fault.IsWrongState) :
    fault.ioKind = .other := by
  cases fault <;> first | rfl | exact wrong.elim

namespace Socket

/-! ## What the host replies and what callers are told -/

/-- What receiving from a stream gives by what the host replies, as an outcome of a transfer and
to one who knows only octets and errors. -/
inductive Hears (answers : Answering σ) (socket : Socket) (capacity : Nat) (state : σ) :
    Except Fault (Transfer (List UInt8)) → Except StreamFault (List UInt8) → σ → Prop where
  /-- The socket is not in the state to receive, and no call is made. -/
  | misplaced {fault : Fault} (wrong : fault.IsWrongState) :
      Hears answers socket capacity state (.error fault)
        (.error ⟨.other, fault.message, some fault⟩) state
  | heard {data : List UInt8} {after : σ} (opened : socket.state = .opened)
      (fed : data ≠ [] ∨ capacity = 0)
      (asked : answers (.receive socket.descriptor capacity) state (.ok data) after) :
      Hears answers socket capacity state (.ok (.done data)) (.ok data) after
  /-- There was room, and nothing has come. -/
  | ended {after : σ} (opened : socket.state = .opened) (room : capacity ≠ 0)
      (asked : answers (.receive socket.descriptor capacity) state (.ok []) after) :
      Hears answers socket capacity state (.ok .peerClosed) (.ok []) after
  | blocked {after : σ} (opened : socket.state = .opened)
      (asked : answers (.receive socket.descriptor capacity) state (.error .tryAgain) after) :
      Hears answers socket capacity state (.ok .wouldBlock)
        (.error ⟨.wouldBlock, "operation would block", none⟩) after
  | failed {errno : Errno} {after : σ} (opened : socket.state = .opened)
      (other : errno ≠ .tryAgain) (kind : errno.ioKind ≠ .wouldBlock)
      (asked : answers (.receive socket.descriptor capacity) state (.error errno) after) :
      Hears answers socket capacity state (.error (.transferFailed errno "recv"))
        (.error ⟨errno.ioKind, (Fault.transferFailed errno "recv").message,
          some (.transferFailed errno "recv")⟩) after

theorem hears_of_runs {outcome : Except Fault (Transfer (List UInt8))}
    (stream : socket.isStream = true)
    (run : (socket.receive capacity).run.Runs answers state outcome after) :
    socket.Hears answers capacity state outcome (Transfer.plain [] outcome) after := by
  rw [receive_eq] at run
  rcases Attempt.runs_bind.mp run with ⟨fault, refused, rfl⟩ | ⟨parts, between, passed, rest⟩
  · obtain ⟨refused, rfl⟩ := refused
    have wrong : fault.IsWrongState := by
      unfold require at refused
      split at refused
      · split at refused <;> cases refused
        trivial
      · cases refused
        trivial
    rw [Transfer.plain, Fault.ioKind_of_isWrongState wrong]
    exact .misplaced wrong
  · obtain ⟨passed, rfl⟩ := passed
    obtain ⟨rfl, allowed⟩ := eq_live_of_require passed.symm
    have opened : (live parts).state = .opened := List.mem_singleton.mp allowed
    have kind : parts.protocol.kind = .stream := of_decide_eq_true stream
    obtain ⟨reply, between, asked, rest⟩ := Attempt.runs_request_bind.mp rest
    cases reply with
    | error errno =>
        dsimp only at rest
        by_cases blocked : errno = .tryAgain
        · rw [if_pos blocked] at rest
          obtain ⟨rfl, rfl⟩ := rest
          exact .blocked opened (blocked ▸ asked)
        · rw [if_neg blocked] at rest
          obtain ⟨rfl, rfl⟩ := rest
          exact .failed opened blocked (mt errno.ioKind_eq_wouldBlock_iff.mp blocked) asked
    | ok data =>
        dsimp only at rest
        -- Nothing may also be read because there was no room for it.
        by_cases silent : data = [] ∧ capacity ≠ 0
        · rw [if_pos ⟨silent.1, silent.2, kind⟩] at rest
          obtain ⟨rfl, rfl⟩ := rest
          exact .ended opened silent.2 (silent.1 ▸ asked)
        · rw [if_neg fun all => silent ⟨all.1, all.2.1⟩] at rest
          obtain ⟨rfl, rfl⟩ := rest
          refine .heard opened ?_ asked
          by_cases roomless : capacity = 0
          · exact .inr roomless
          · exact .inl fun nothing => silent ⟨nothing, roomless⟩

/-- An open stream that is given nothing by the host says that the peer has closed. -/
theorem runs_receive_nothing (stream : socket.isStream = true) (opened : socket.state = .opened)
    (room : capacity ≠ 0)
    (asked : answers (.receive socket.descriptor capacity) state (.ok []) after) :
    (socket.receive capacity).run.Runs answers state (.ok .peerClosed) after := by
  cases socket with
  | closed former => cases opened
  | live parts =>
      have shown : parts.stage.state = .opened := opened
      have kind : parts.protocol.kind = .stream := of_decide_eq_true stream
      rw [receive_eq]
      refine Attempt.runs_bind.mpr (.inr ⟨parts, state, ?_, ?_⟩)
      · refine Attempt.runs_ofExcept.mpr ⟨?_, rfl⟩
        simp [require, shown]
      · refine Attempt.runs_request_bind.mpr ⟨.ok [], after, asked, ?_⟩
        dsimp only
        rw [if_pos ⟨rfl, room, kind⟩]
        exact ⟨rfl, rfl⟩

/-- Who reads octets is told what the transfer has come to. -/
theorem runs_readOctets {plain : Except StreamFault (List UInt8)} :
    (socket.readOctets capacity).Runs answers state plain after ↔
      ∃ outcome, (socket.receive capacity).run.Runs answers state outcome after ∧
        plain = Transfer.plain [] outcome := by
  constructor
  · intro run
    obtain ⟨outcome, between, received, rfl, rfl⟩ := Program.runs_bind.mp run
    exact ⟨outcome, received, rfl⟩
  · rintro ⟨outcome, received, rfl⟩
    exact Program.runs_bind.mpr ⟨_, _, received, rfl, rfl⟩

/-- What shutting a half gives, by what the host replies. -/
inductive Shutting (answers : Answering σ) (socket : Socket) (half : Half) (state : σ) :
    Socket → σ → Prop where
  /-- The socket is not in the state for it, or the half is down already.  No call is made. -/
  | uncalled : Shutting answers socket half state socket state
  | failed {parts : LiveSocket} {errno : Errno} {after : σ} (here : socket = .live parts)
      (asked : answers (.shutdown parts.descriptor half) state (.error errno) after) :
      Shutting answers socket half state socket after
  | shut {parts : LiveSocket} {after : σ} (here : socket = .live parts)
      (asked : answers (.shutdown parts.descriptor half) state (.ok ()) after) :
      Shutting answers socket half state (.live (parts.shut half)) after

theorem shutting_of_runs {half : Half} {outcome : Except Failure Reply}
    (run : (socket.perform (.shutdown half)).Runs answers state (outcome, later) after) :
    socket.Shutting answers half state later after := by
  rw [perform_eq] at run
  obtain ⟨tried, ran, -⟩ := runs_replying.mp run
  rw [shutdown_eq] at ran
  obtain ⟨made, attempted, -, rfl⟩ := runs_commit.mp ran
  rcases Attempt.runs_bind.mp attempted with ⟨fault, refused, rfl⟩ | ⟨parts, between, passed, rest⟩
  · obtain ⟨-, rfl⟩ := refused
    exact .uncalled
  · obtain ⟨passed, rfl⟩ := passed
    obtain ⟨rfl, -⟩ := eq_live_of_require passed.symm
    cases half <;>
    · dsimp only at rest
      split at rest
      · obtain ⟨rfl, rfl⟩ := rest
        exact .uncalled
      · rcases Attempt.runs_bind.mp rest with ⟨fault, called, rfl⟩ | ⟨done, last, called, given⟩
        · obtain ⟨reply, asked, failed⟩ := Attempt.runs_ofCall.mp called
          cases reply with
          | ok done => cases failed
          | error errno => exact .failed rfl (Program.runs_request.mp asked)
        · obtain ⟨reply, asked, shut⟩ := Attempt.runs_ofCall.mp called
          obtain ⟨rfl, rfl⟩ := given
          cases reply with
          | ok done => exact .shut rfl (Program.runs_request.mp asked)
          | error errno => cases shut

end Socket

/-! ## A stream and what it has heard -/

/-- A stream that has just been made, or that has just been taken from a listener. -/
inductive StreamBorn : Socket → Prop where
  | made {σ : Type} {answers : Answering σ} {recipe : Recipe} {owner : Owner} {before after : σ}
      (run : recipe.make.run.Runs answers before (.ok owner) after)
      (carries : owner.use? = some .stream) : StreamBorn owner.socket
  | taken {σ : Type} {answers : Answering σ} {listener connection : Owner} {peer : Endpoint}
      {before after : σ} (role : listener.InRole) (serves : listener.use? = some .server)
      (run : listener.accept.run.Runs answers before (.ok (.accepted connection peer)) after) :
      StreamBorn connection.socket

theorem StreamBorn.keeps (born : StreamBorn socket) : Use.stream.Keeps socket := by
  cases born with
  | @made σ answers recipe owner before after run carries =>
      exact (recipe.yields_make.of_runs run).1 owner rfl .stream carries
  | taken role serves run =>
      obtain ⟨parts, descriptor, live, -, -, given⟩ := Owner.connection_of_runs_accept run
      have keeps : Use.server.Keeps (.live parts) := live ▸ role .server serves
      rw [given]
      exact ⟨keeps.1, trivial⟩

/-- The octets that a caller is given who asks for a transfer. -/
def Transfer.heard : Except Fault (Transfer (List UInt8)) → List UInt8
  | .ok (.done data) => data
  | _ => []

/-- The octets that a caller is given in reply to a command that receives. -/
def Command.heard : Command → Except Failure Reply → List UInt8
  | .receive _, .ok (.received (.done data)) => data
  | .readOctets _, .ok (.octets data) => data
  | .receiveFrom _, .ok (.message (.done (data, _))) => data
  | _, _ => []

/-- Octets that the host has given out. -/
inductive Share where
  | heard (data : List UInt8)
  /-- They came with the endpoint of a sender, which could not be read. -/
  | lost (data : List UInt8)

def Share.data : Share → List UInt8
  | heard data | lost data => data

/-- What becomes of the octets that the host gives out while a command is carried out. -/
def Command.share (given : List UInt8) : Command → Except Failure Reply → Share
  | .receiveFrom _, .error _ => .lost given
  | command, outcome => .heard (command.heard outcome)

/-- All that was given out, as it was given. -/
def outflow (shares : List Share) : List UInt8 := shares.flatMap Share.data

theorem outflow_snoc (shares : List Share) (share : Share) :
    outflow (shares ++ [share]) = outflow shares ++ share.data := by
  simp [outflow]

/-- A stream is asked for anything that it grants, itself or by its handle, while octets flow in at
its descriptor.  What it is now, how the octets stand, and what has become of those that the host
has given out. -/
inductive Hearing (descriptor : Descriptor) (socket : Socket) :
    Socket → Inflow → List Share → Prop where
  | begun : Hearing descriptor socket socket .begun []
  | moved {now : Socket} {inflow moment : Inflow} {shares : List Share}
      (hearing : Hearing descriptor socket now inflow shares) (moves : inflow.Moves moment) :
      Hearing descriptor socket now moment shares
  | asked {now later : Socket} {inflow after : Inflow} {shares : List Share} {access : Access}
      {command : Command} {outcome : Except Failure Reply}
      (hearing : Hearing descriptor socket now inflow shares)
      (granted : (Owner.typed .stream now).grants access command = true)
      (run : (now.perform command).Runs (Inflow.Answers descriptor) inflow (outcome, later)
        after) :
      Hearing descriptor socket later after
        (shares ++ [command.share (after.received.drop inflow.received.length) outcome])
  /-- The handle is asked for a connection. -/
  | accepted {now later : Socket} {inflow after : Inflow} {shares : List Share}
      {outcome : Except Fault (Accepted Socket)}
      (hearing : Hearing descriptor socket now inflow shares)
      (run : now.accept.Runs (Inflow.Answers descriptor) inflow (outcome, later) after) :
      Hearing descriptor socket later after shares

def Command.Hearkens : Command → Prop
  | receive _ | receiveFrom _ | readOctets _ => True
  | shutdown half => half = .read
  | _ => False

/-- A call that serves another command leaves the octets and the reading half alone. -/
theorem Call.sparesInflow_of_serves {command : Command} {call : Call}
    (other : ¬command.Hearkens) (serves : Call.Serves command call) : call.SparesInflow := by
  cases call with
  | receive descriptor capacity =>
      rcases serves with rfl | rfl
      · exact absurd trivial other
      · exact absurd trivial other
  | receiveFrom descriptor capacity =>
      obtain rfl : command = .receiveFrom capacity := serves
      exact absurd trivial other
  | shutdown descriptor half =>
      obtain rfl : command = .shutdown half := serves
      exact other
  | _ => trivial

variable {inflow moment final : Inflow} {shares : List Share} {descriptor : Descriptor}
  {outcome : Except Fault (Transfer (List UInt8))} {plain : Except StreamFault (List UInt8)}

/-- What a caller hears is what the host gives out. -/
theorem Socket.Hears.received
    (hears : socket.Hears (Inflow.Answers socket.descriptor) capacity inflow outcome plain final) :
    final.received = inflow.received ++ Transfer.heard outcome ∧
      (final.deaf = true → inflow.deaf = true) := by
  have replied : ∀ {reply}, Inflow.Answers socket.descriptor
      (.receive socket.descriptor capacity) inflow reply final →
      final.received = inflow.received ++ reply.toOption.getD [] ∧
        (final.deaf = true → inflow.deaf = true) := by
    intro reply asked
    obtain ⟨moment, moves, gives⟩ := Inflow.answers_receive.mp asked
    obtain ⟨received, deaf⟩ := gives.received
    exact ⟨received.trans (congrArg (· ++ _) moves.undisturbed.received),
      fun now => moves.undisturbed.deaf (deaf.symm.trans now)⟩
  cases hears with
  | misplaced wrong => exact ⟨(List.append_nil _).symm, id⟩
  | heard opened fed asked | ended opened room asked | blocked opened asked
  | failed opened other kind asked => exact replied asked

/-- What the octets of a stream and the stream itself have to do with each other: the shares are
what the host has given out, and it does not hear at this side only if the stream knows that its
reading half is shut. -/
structure Attuned (descriptor : Descriptor) (now : Socket) (inflow : Inflow)
    (shares : List Share) : Prop where
  books : inflow.Books
  keeps : Use.stream.Keeps now
  given : inflow.received = outflow shares
  deaf : ∀ parts, now = .live parts →
    parts.descriptor = descriptor ∧ (inflow.deaf = true → parts.readShut = true)

namespace Attuned

theorem born (keeps : Use.stream.Keeps socket) : Attuned socket.descriptor socket .begun [] where
  books := Inflow.books_begun
  keeps := keeps
  given := rfl
  deaf := by
    rintro parts rfl
    exact ⟨rfl, nofun⟩

theorem moves (attuned : Attuned descriptor now inflow shares) (moves : inflow.Moves moment) :
    Attuned descriptor now moment shares where
  books := moves.books attuned.books
  keeps := attuned.keeps
  given := moves.undisturbed.received.trans attuned.given
  deaf := fun parts live => ⟨(attuned.deaf parts live).1, fun deaf =>
    (attuned.deaf parts live).2 (moves.undisturbed.deaf deaf)⟩

theorem isStream (attuned : Attuned descriptor now inflow shares) : now.isStream = true := by
  have kind := attuned.keeps.kind
  obtain ⟨protocol, speaks, streams⟩ := Option.map_eq_some_iff.mp kind
  rw [Socket.isStream, speaks]
  exact decide_eq_true streams

/-- Whoever is open is asked about its own descriptor. -/
theorem descriptor_eq (attuned : Attuned descriptor now inflow shares)
    (opened : now.state = .opened) : now.descriptor = descriptor := by
  cases now with
  | closed former => cases opened
  | live parts => exact (attuned.deaf parts rfl).1

/-- Receiving on a stream, as the host answers it. -/
theorem hears (attuned : Attuned descriptor now inflow shares)
    (run : (now.receive capacity).run.Runs (Inflow.Answers descriptor) inflow outcome final) :
    now.Hears (Inflow.Answers descriptor) capacity inflow outcome (Transfer.plain [] outcome)
      final := Socket.hears_of_runs attuned.isStream run

/-- The same stream, when more has been given out. -/
theorem given_out {share : Share} (attuned : Attuned descriptor now inflow shares)
    (books : final.Books) (received : final.received = inflow.received ++ share.data)
    (deaf : final.deaf = true → inflow.deaf = true) :
    Attuned descriptor now final (shares ++ [share]) where
  books := books
  keeps := attuned.keeps
  given := by rw [received, attuned.given, outflow_snoc]
  deaf parts live := ⟨(attuned.deaf parts live).1, fun now => (attuned.deaf parts live).2 (deaf now)⟩

/-- A command that receives. -/
theorem received (attuned : Attuned descriptor now inflow shares)
    (run : (now.receive capacity).run.Runs (Inflow.Answers descriptor) inflow outcome final) :
    Attuned descriptor now final (shares ++ [.heard (Transfer.heard outcome)]) := by
  have books := Inflow.books_of_runs attuned.books run
  have hears := attuned.hears run
  generalize Transfer.plain [] outcome = plain at hears
  by_cases opened : now.state = .opened
  · obtain rfl := attuned.descriptor_eq opened
    obtain ⟨received, deaf⟩ := hears.received
    exact attuned.given_out books received deaf
  · cases hears with
    | misplaced wrong => exact attuned.given_out books (List.append_nil _).symm id
    | heard shown | ended shown | blocked shown | failed shown => exact absurd shown opened

/-- A command that receives and asks for the sender. -/
theorem receivedFrom {outcome : Except Fault (Transfer (List UInt8 × Endpoint))}
    (attuned : Attuned descriptor now inflow shares)
    (run : (now.receiveFrom capacity).run.Runs (Inflow.Answers descriptor) inflow outcome final) :
    Attuned descriptor now final (shares ++ [(Command.receiveFrom capacity).share
      (final.received.drop inflow.received.length)
      ((outcome.map Reply.message).mapError .fault)]) := by
  have books := Inflow.books_of_runs attuned.books run
  have lost : ∀ given, final.received = inflow.received ++ given →
      (final.deaf = true → inflow.deaf = true) → Attuned descriptor now final
        (shares ++ [.lost (final.received.drop inflow.received.length)]) := by
    intro given received deaf
    refine attuned.given_out books ?_ deaf
    rw [Share.data, received, List.drop_left]
  cases now with
  | closed former =>
      rw [Socket.receiveFrom_eq] at run
      obtain ⟨rfl, rfl⟩ := run
      exact lost [] (List.append_nil _).symm id
  | live parts =>
      obtain rfl := (attuned.deaf parts rfl).1
      have replied : ∀ {reply}, Inflow.Answers parts.descriptor
          (.receiveFrom parts.descriptor capacity) inflow reply final →
          final.received = inflow.received ++ (reply.map Prod.fst).toOption.getD [] ∧
            (final.deaf = true → inflow.deaf = true) := by
        intro reply asked
        obtain ⟨moment, moves, gives⟩ := Inflow.answers_receiveFrom.mp asked
        obtain ⟨received, deaf⟩ := gives.received
        exact ⟨received.trans (congrArg (· ++ _) moves.undisturbed.received),
          fun now => moves.undisturbed.deaf (deaf.symm.trans now)⟩
      cases Socket.receiving_of_runs run with
      | misplaced fault => exact lost [] (List.append_nil _).symm id
      | failed asked | unread asked unread => exact lost _ (replied asked).1 (replied asked).2
      | blocked asked | received asked read =>
          exact attuned.given_out books (replied asked).1 (replied asked).2

/-- A command that neither receives nor shuts the reading half. -/
theorem undisturbed {access : Access} {command : Command} {result : Except Failure Reply}
    (attuned : Attuned descriptor now inflow shares)
    (granted : (Owner.typed .stream now).grants access command = true)
    (other : ¬command.Hearkens)
    (run : (now.perform command).Runs (Inflow.Answers descriptor) inflow (result, later) final) :
    Attuned descriptor later final (shares ++ [.heard []]) := by
  obtain ⟨hand, last, turned⟩ := Socket.turned_of_runs run
  have spares : (now.perform command).Ensures Call.SparesInflow fun _ => True :=
    (now.serves_perform command).allows fun _ => Call.sparesInflow_of_serves other
  have still := Inflow.undisturbed_of_runs spares run
  have keeps : Use.stream.Keeps (Owner.typed .stream now).socket := attuned.keeps
  refine ⟨Inflow.books_of_runs attuned.books run, keeps.granted rfl granted turned, ?_, ?_⟩
  · rw [outflow_snoc]
    exact (still.received.trans attuned.given).trans (List.append_nil _).symm
  rintro parts rfl
  obtain ⟨former, rfl, same, stays⟩ := turned.of_live fun protocol impossible => by
    subst impossible
    cases (Owner.eq_own_of_grants granted rfl).2
  obtain ⟨names, deaf⟩ := attuned.deaf former rfl
  exact ⟨same.trans names, fun now => stays (deaf (still.deaf now))⟩

/-- Shutting the reading half. -/
theorem shut {result : Except Failure Reply} (attuned : Attuned descriptor now inflow shares)
    (run : (now.perform (.shutdown .read)).Runs (Inflow.Answers descriptor) inflow (result, later)
      final) :
    Attuned descriptor later final (shares ++ [.heard []]) := by
  have books := Inflow.books_of_runs attuned.books run
  have nothing : outflow (shares ++ [.heard []]) = outflow shares :=
    (outflow_snoc shares _).trans (List.append_nil _)
  cases Socket.shutting_of_runs run with
  | uncalled => exact attuned.given_out books (List.append_nil _).symm id
  | failed here asked =>
      subst here
      obtain rfl := (attuned.deaf _ rfl).1
      obtain ⟨moment, moves, ⟨impossible, -⟩ | ⟨-, rfl⟩⟩ := Inflow.answers_shutdown_read.mp asked
      · cases impossible
      · exact (attuned.moves moves).given_out books (List.append_nil _).symm id
  | @shut parts final here asked =>
      subst here
      obtain rfl := (attuned.deaf _ rfl).1
      obtain ⟨moment, moves, ⟨-, rfl⟩ | ⟨⟨errno, impossible⟩, -⟩⟩ :=
        Inflow.answers_shutdown_read.mp asked
      · refine ⟨books, attuned.keeps, ?_, ?_⟩
        · exact (moves.undisturbed.received.trans attuned.given).trans nothing.symm
        · rintro _ ⟨⟩
          exact ⟨rfl, fun _ => rfl⟩
      · cases impossible

/-- What is so of a stream, one more command preserves. -/
theorem asked {access : Access} {command : Command} {result : Except Failure Reply}
    (attuned : Attuned descriptor now inflow shares)
    (granted : (Owner.typed .stream now).grants access command = true)
    (run : (now.perform command).Runs (Inflow.Answers descriptor) inflow (result, later) final) :
    Attuned descriptor later final
      (shares ++ [command.share (final.received.drop inflow.received.length) result]) := by
  by_cases hearkens : command.Hearkens
  · rw [Socket.perform_eq] at run
    cases command with
    | receive capacity =>
        obtain ⟨tried, ran, rfl⟩ := Socket.runs_replying.mp run
        obtain ⟨received, rfl⟩ := Socket.runs_observe.mp ran
        have told : Command.heard (.receive capacity) ((tried.map Reply.received).mapError .fault) =
            Transfer.heard tried := by
          rcases tried with fault | (data | - | -) <;> rfl
        rw [Command.share, told]
        · exact attuned.received received
        · exact fun _ _ impossible => by cases impossible
    | readOctets capacity =>
        obtain ⟨plain, between, ran, same, rfl⟩ := Program.runs_bind.mp run
        cases same
        obtain ⟨outcome, received, rfl⟩ := Socket.runs_readOctets.mp ran
        have told : Command.heard (.readOctets capacity)
            (((Transfer.plain [] outcome).map Reply.octets).mapError .stream) =
              Transfer.heard outcome := by
          rcases outcome with fault | (data | - | -) <;> rfl
        rw [Command.share, told]
        · exact attuned.received received
        · exact fun _ _ impossible => by cases impossible
    | receiveFrom capacity =>
        obtain ⟨tried, ran, rfl⟩ := Socket.runs_replying.mp run
        obtain ⟨received, rfl⟩ := Socket.runs_observe.mp ran
        exact attuned.receivedFrom received
    | shutdown half =>
        obtain rfl : half = .read := hearkens
        rw [← Socket.perform_eq] at run
        exact attuned.shut run
    | _ => exact hearkens.elim
  -- Every other command gives nothing of the stream out.
  · have silent : command.share (final.received.drop inflow.received.length) result =
        .heard [] := by
      cases command with
      | receive | readOctets | receiveFrom => exact absurd trivial hearkens
      | _ => rfl
    rw [silent]
    exact attuned.undisturbed granted hearkens run

/-- No stream takes connections. -/
theorem accepted {outcome : Except Fault (Accepted Socket)}
    (attuned : Attuned descriptor now inflow shares)
    (run : now.accept.Runs (Inflow.Answers descriptor) inflow (outcome, later) final) :
    Attuned descriptor later final shares := by
  have bare : now.isListening = false := attuned.keeps.shows
  rw [Socket.accept_of_not_listening bare] at run
  obtain ⟨same, rfl⟩ := run
  cases same
  exact attuned

end Attuned

/-- What is so of every stream, from its birth on. -/
theorem Hearing.attuned (hearing : Hearing socket.descriptor socket now inflow shares)
    (born : StreamBorn socket) : Attuned socket.descriptor now inflow shares := by
  induction hearing with
  | begun => exact .born born.keeps
  | moved _ moves ih => exact ih.moves moves
  | asked _ granted run ih => exact ih.asked granted run
  | accepted _ run ih => exact ih.accepted run

/-- Nothing waits for the stream, and this is either the end of what the peer has sent, all of which
has been given out, or the stream has shut its own reading half. -/
def Socket.HearsEnd (now : Socket) (shares : List Share) (final : Inflow) : Prop :=
  final.queue = [] ∧
    (final.ended = true ∧ outflow shares = final.sent ∨ now.isReadShut = true ∧ final.deaf = true)

/-- Who is given nothing though there was room is at the end, or has shut the reading half. -/
theorem Attuned.hearsEnd (attuned : Attuned descriptor now inflow shares) (room : capacity ≠ 0)
    (opened : now.state = .opened)
    (asked : Inflow.Answers descriptor (.receive now.descriptor capacity) inflow (.ok []) final) :
    now.HearsEnd shares final := by
  obtain rfl := attuned.descriptor_eq opened
  obtain ⟨moment, moves, gives⟩ := Inflow.answers_receive.mp asked
  have there := attuned.moves moves
  cases gives with
  | data waits some fits => exact absurd rfl some
  | unasked roomless => exact absurd roomless room
  | nothing empty final =>
      refine ⟨empty, final.imp (fun finished => ?_) fun deaf => ⟨?_, deaf⟩⟩
      · obtain ⟨ended, all⟩ := there.books.isOver finished empty
        exact ⟨ended, there.given.symm.trans all⟩
      · cases now with
        | closed former => cases opened
        | live parts => exact (there.deaf parts rfl).2 deaf

/-- A stream is told that its peer has closed when the host has given out all that the peer has sent
and the peer has ended, or after it has shut its own reading half, and then it is told so whenever nothing
waits, whatever the peer does.  One who reads octets is told "none" in the same cases, and without
room for any.  A call that would have had to wait is told as such, and every other failure with its
error number. -/
theorem stream_end_is_told_at_end_or_after_own_shutdown (born : StreamBorn socket)
    (hearing : Hearing socket.descriptor socket now inflow shares) (capacity : Nat) :
    (∀ outcome final,
      (now.receive capacity).run.Runs (Inflow.Answers socket.descriptor) inflow outcome final →
      now.Hears (Inflow.Answers socket.descriptor) capacity inflow outcome
        (Transfer.plain [] outcome) final ∧
      (outcome = .ok .peerClosed → capacity ≠ 0 ∧ now.HearsEnd shares final)) ∧
    (∀ plain final,
      (now.readOctets capacity).Runs (Inflow.Answers socket.descriptor) inflow plain final →
      ∃ outcome,
        now.Hears (Inflow.Answers socket.descriptor) capacity inflow outcome plain final ∧
        (plain = .ok [] → capacity ≠ 0 → now.HearsEnd shares final)) ∧
    (now.state = .opened → inflow.deaf = true → inflow.queue = [] → capacity ≠ 0 →
      (now.receive capacity).run.Runs (Inflow.Answers socket.descriptor) inflow
        (.ok .peerClosed) inflow ∧
      (now.readOctets capacity).Runs (Inflow.Answers socket.descriptor) inflow (.ok []) inflow) := by
  have attuned := hearing.attuned born
  refine ⟨?_, ?_, ?_⟩
  · intro outcome final run
    have hears := attuned.hears run
    refine ⟨hears, ?_⟩
    rintro rfl
    cases hears with
    | ended opened room asked => exact ⟨room, attuned.hearsEnd room opened asked⟩
  · intro plain final run
    obtain ⟨outcome, received, rfl⟩ := Socket.runs_readOctets.mp run
    have hears := attuned.hears received
    refine ⟨outcome, hears, fun nothing room => ?_⟩
    rw [nothing] at hears
    cases hears with
    | heard opened fed asked => exact absurd rfl (fed.resolve_right room)
    | ended opened _ asked => exact attuned.hearsEnd room opened asked
  · intro opened deaf empty room
    have asked : Inflow.Answers socket.descriptor (.receive now.descriptor capacity) inflow
        (.ok []) inflow := by
      rw [attuned.descriptor_eq opened]
      exact Inflow.answers_receive.mpr ⟨inflow, .refl, .nothing empty (.inr deaf)⟩
    have told := Socket.runs_receive_nothing attuned.isStream opened room asked
    exact ⟨told, Socket.runs_readOctets.mpr ⟨_, told, rfl⟩⟩

def anyHost : Answering Unit := fun _ _ _ _ => True

/-- A stream that has connected and shut its reading half is told that its peer has closed, though
the peer is there and has ended nothing. -/
theorem stream_is_told_of_end_after_own_shutdown :
    ∃ socket now inflow shares, StreamBorn socket ∧
      Hearing socket.descriptor socket now inflow shares ∧ inflow.ended = false ∧
      (now.receive 4).run.Runs (Inflow.Answers socket.descriptor) inflow (.ok .peerClosed)
        inflow ∧
      (now.readOctets 4).Runs (Inflow.Answers socket.descriptor) inflow (.ok []) inflow := by
  have born : StreamBorn (.live (.new ⟨3⟩ .tcp4)) := by
    have made : (Recipe.typed .stream .tcp4).make.run.Runs anyHost ()
        (.ok (.typed .stream (.live (.new ⟨3⟩ .tcp4)))) () :=
      ⟨.ok ⟨3⟩, (), trivial, rfl, rfl⟩
    exact .made made rfl
  have connected : ((Socket.live (.new ⟨3⟩ .tcp4)).perform
      (.connectEndpoint (.new .loopbackV4 80))).Runs (Inflow.Answers ⟨3⟩) .begun
        (.ok (.connection .connected), .live ⟨⟨3⟩, .tcp4, false, false, false, .connected⟩)
        .begun :=
    ⟨.ok (), .begun, ⟨.begun, .refl, .inl rfl⟩, rfl, rfl⟩
  have shut : ((Socket.live ⟨⟨3⟩, .tcp4, false, false, false, .connected⟩).perform
      (.shutdown .read)).Runs (Inflow.Answers ⟨3⟩) .begun
        (.ok .nothing, .live ⟨⟨3⟩, .tcp4, false, true, false, .connected⟩)
        { Inflow.begun with deaf := true } :=
    ⟨.ok (), _, Inflow.answers_shutdown_read.mpr ⟨_, .refl, .inl ⟨rfl, rfl⟩⟩, rfl, rfl⟩
  have offersConnect : (Owner.typed .stream (.live (.new ⟨3⟩ .tcp4))).grants .own
      (.connectEndpoint (.new .loopbackV4 80)) = true := rfl
  have offersShut : (Owner.typed .stream
      (.live ⟨⟨3⟩, .tcp4, false, false, false, .connected⟩)).grants .own (.shutdown .read) = true :=
    rfl
  have hearing : Hearing ⟨3⟩ (.live (.new ⟨3⟩ .tcp4))
      (.live ⟨⟨3⟩, .tcp4, false, true, false, .connected⟩) { Inflow.begun with deaf := true }
      [.heard [], .heard []] :=
    (Hearing.begun.asked offersConnect connected).asked offersShut shut
  obtain ⟨-, -, whenever⟩ := stream_end_is_told_at_end_or_after_own_shutdown born hearing 4
  obtain ⟨received, octets⟩ := whenever rfl rfl rfl (by decide)
  exact ⟨_, _, _, _, born, hearing, rfl, received, octets⟩

end SocketReactor
