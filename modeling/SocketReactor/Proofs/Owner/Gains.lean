import SocketReactor.Owner.Recipe
import SocketReactor.Proofs.Socket.Standing

/-!
# Gaining descriptors

A new owner comes to be by at most one call that gives a descriptor.  Whatever
the host answers, the descriptor ends up with the owner or is closed again.
`Gained` follows the descriptor that is held on the way.
-/

namespace SocketReactor

variable {σ α β : Type} {answers : Answering σ} {hand : List Hold} {lent : List Descriptor}

/-- The reply to a call may give a descriptor. -/
inductive Call.Gives : (call : Call) → call.Reply → Option Descriptor → Prop where
  | socket (family : Family) (kind : Kind) (number : Int32)
      (outcome : Except Errno Descriptor) :
      Gives (.socket family kind number) outcome outcome.toOption
  | accept (listener : Descriptor) (outcome : Except Errno (Descriptor × RawAddress)) :
      Gives (.accept listener) outcome (outcome.toOption.map Prod.fst)

/-- The host may have come to a state in which this descriptor is held, if any. -/
inductive Gained (answers : Answering σ) (origin : σ) : Option Descriptor → σ → Prop where
  | refl : Gained answers origin none origin
  | quiet {held : Option Descriptor} {between after : σ}
      (gained : Gained answers origin held between) (quietly : answers.Quietly between after) :
      Gained answers origin held after
  | gain {given : Option Descriptor} {between after : σ} {call : Call} {reply : call.Reply}
      (gained : Gained answers origin none between) (gives : call.Gives reply given)
      (answered : answers call between reply after) : Gained answers origin given after
  | lose {descriptor : Descriptor} {between after : σ} {reply : Except Errno Unit}
      (gained : Gained answers origin (some descriptor) between)
      (answered : answers (.close descriptor) between reply after) :
      Gained answers origin none after

def InHand (answers : Answering σ) (origin : σ) (hand : List Hold) (state : σ) : Prop :=
  ∃ held : Option Descriptor, hand.map Hold.descriptor = held.toList ∧
    Gained answers origin held state

namespace InHand

variable {origin state after : σ} {call : Call} {reply : call.Reply}

theorem gain {given : Option Descriptor} (gives : call.Gives reply given)
    (answered : answers call state reply after) (held : InHand answers origin [] state) :
    InHand answers origin (settle [] ⟨call, reply⟩) after := by
  obtain ⟨former, same, gained⟩ := held
  obtain rfl : former = none := Option.toList_eq_nil_iff.mp same.symm
  have gives' : Exchange.given ⟨call, reply⟩ = given.toList := by
    cases gives with
    | socket family kind number outcome => cases outcome <;> rfl
    | accept listener outcome => cases outcome <;> rfl
  refine ⟨given, ?_, gained.gain gives answered⟩
  simp [map_descriptor_settle, gives']

theorem steadily (steadily : call.Steadily hand) (answered : answers call state reply after)
    (held : InHand answers origin hand state) :
    InHand answers origin (settle hand ⟨call, reply⟩) after := by
  obtain ⟨given, same, gained⟩ := held
  have gives := steadily.given_eq reply
  have closes : Exchange.closed? ⟨call, reply⟩ = none := by
    cases call <;> first | exact steadily.1.elim | rfl
  refine ⟨given, ?_, gained.quiet ?_⟩
  · simp [map_descriptor_settle, closes, gives, same]
  · exact ⟨_, .request call, reply, ⟨steadily.1, fun _ => trivial⟩,
      Program.runs_request.mpr answered⟩

/-- What a careful call leaves in hand has been gained. -/
theorem carefully (carefully : call.Carefully lent hand)
    (answered : answers call state reply after) (held : InHand answers origin hand state) :
    InHand answers origin (settle hand ⟨call, reply⟩) after := by
  cases call with
  | socket family kind number =>
      obtain rfl : hand = [] := carefully
      exact gain (.socket family kind number reply) answered held
  | accept listener =>
      obtain ⟨rfl, -⟩ := carefully
      exact gain (.accept listener reply) answered held
  | close descriptor =>
      obtain ⟨hold, rfl, rfl⟩ := carefully
      obtain ⟨given, same, gained⟩ := held
      obtain rfl : given = some hold.descriptor := (Option.toList_eq_singleton_iff.mp same.symm)
      refine ⟨none, ?_, gained.lose answered⟩
      simp [map_descriptor_settle, Exchange.closed?, Exchange.given]
  | _ => exact steadily carefully answered held

end InHand

/-- What careful calls leave in hand has been gained. -/
theorem Answering.Tended.gained {post : List Hold → Prop} {origin state after : σ}
    (tended : answers.Tended (Call.Carefully lent) hand post state after)
    (held : InHand answers origin hand state) :
    ∃ last, post last ∧ InHand answers origin last after :=
  tended.keeps (InHand answers origin)
    (fun _ _ _ reply _ carefully answered held =>
      ⟨carefully.apart reply, held.carefully carefully answered⟩) held

theorem InHand.nil (origin : σ) : InHand answers origin [] origin := ⟨none, rfl, .refl⟩

/-- What is in hand after an attempt to take a connection: what `born` says of a connection that
was taken, nothing otherwise. -/
def Accepted.Leaves (born : α → List Hold → Prop) (taken : Accepted α) (last : List Hold) : Prop :=
  match taken with
  | .accepted value _ => born value last
  | _ => last = []

/-! ## New sockets -/

namespace Socket

def Born (socket : Socket) (hand : List Hold) : Prop := socket.Tells (fun _ => False) hand

theorem Turned.born {socket later : Socket} {last : List Hold} {command : Command}
    (turned : Turned socket hand command later last) (clear : command ≠ .finishConnect)
    (born : socket.Born hand) : later.Born last :=
  (turned.tells born).mono fun _ stale => stale.elim id fun refused => clear refused.1

theorem born_openNew (protocol : Protocol) :
    (openNew protocol).Tends (Call.Carefully lent) Born (· = []) [] := by
  refine (tends_openNew protocol).mono (fun _ _ => id) ?_ fun _ => id
  rintro socket last ⟨descriptor, rfl, rfl⟩
  exact ⟨_, rfl, rfl, fun half _ => by cases half <;> rfl⟩

/-- A step that fails leaves nothing in hand. -/
theorem tends_orDiscard (turn : Socket → List Hold → Prop)
    {step : Program (Except Fault α × Socket)}
    (fits : ∀ later last, turn later last → later.Fits last)
    (tends : step.Tends Call.Steadily (fun result last => turn result.2 last) hand) :
    (orDiscard step).Tends (Call.Carefully lent) (fun result last => turn result.2 last)
      (· = []) hand := by
  refine Program.Tends.bind (tends.mono (fun _ _ steadily => steadily.carefully)
    fun _ _ => id) ?_
  rintro ⟨outcome, later⟩ last right
  cases outcome with
  | ok value => exact right
  | error fault => exact (tends_discard (fits later last right)).bind fun _ _ => id

/-- A new socket that an attempt is made with is kept, unless the attempt fails. -/
theorem tends_orDiscard_observe {socket : Socket} {attempt : Attempt α} (fits : socket.Fits hand)
    (within : attempt.Within socket.descriptor) :
    (orDiscard (socket.observe attempt)).Tends (Call.Carefully lent)
      (fun _ last => last = hand) (· = []) hand := by
  have kept : (socket.observe attempt).Tends Call.Steadily
      (fun result last => result.2 = socket ∧ last = hand) hand := by
    refine Program.Tends.bind (within.tends fits.held) ?_
    rintro outcome last same
    refine ⟨rfl, ?_⟩
    cases outcome <;> exact same
  refine (tends_orDiscard (fun later last => later = socket ∧ last = hand) ?_ kept).mono
    (fun _ _ => id) (fun _ _ => And.right) fun _ => id
  rintro later last ⟨rfl, rfl⟩
  exact fits

/-- A new socket takes a turn. -/
theorem born_orDiscard {socket : Socket} {command : Command}
    {step : Program (Except Fault α × Socket)} (born : socket.Born hand)
    (clear : command ≠ .finishConnect) (turns : socket.Turns command step) :
    (orDiscard step).Tends (Call.Carefully lent) (fun result last => result.2.Born last)
      (· = []) hand :=
  tends_orDiscard Born (fun _ _ born => born.fits) ((turns hand born.fits).mono
    (fun _ _ => id) fun _ _ turned => turned.born clear born)

theorem born_takeConnection (socket : Socket) :
    socket.takeConnection.Tends (Call.Carefully socket.owned?.toList)
      (Accepted.Leaves Born) (· = []) [] := by
  have checked : (Attempt.ofExcept (socket.require "accept" [.opened])).Tends
      (Call.Carefully socket.owned?.toList) (fun parts last => socket = live parts ∧ last = [])
      (· = []) [] :=
    Attempt.tends_ofExcept (fun _ passed => ⟨(eq_live_of_require passed).1, rfl⟩) rfl
  rw [takeConnection_eq]
  refine checked.bind ?_
  rintro parts last ⟨rfl, rfl⟩
  split
  · exact Attempt.tends_throw _ rfl
  · have asked : (Program.request (.accept parts.descriptor)).Tends
        (Call.Carefully (live parts).owned?.toList)
        (fun reply last => last = settle [] ⟨.accept parts.descriptor, reply⟩) [] :=
      Program.tends_request ⟨rfl, List.mem_cons_self⟩ fun _ _ => rfl
    refine (Attempt.tends_ofProgram asked).bind ?_
    rintro reply last rfl
    match reply with
    | .error errno =>
        dsimp only
        split
        · exact Attempt.tends_pure rfl
        · split
          · exact Attempt.tends_pure rfl
          · exact Attempt.tends_throw _ rfl
    | .ok (descriptor, peer) =>
        have given : settle [] ⟨.accept parts.descriptor, .ok (descriptor, peer)⟩ =
            [(Hold.new descriptor).led .connection] :=
          congrArg (fun hold => [hold]) (Hold.note_of_leads .connection rfl)
        rw [given]
        dsimp only
        cases peer.endpoint with
        | ok endpoint =>
            refine Attempt.tends_pure ⟨_, rfl, rfl, rfl, ?_⟩
            intro half _
            cases half <;> rfl
        | error fault =>
            have closed : (Program.request (.close descriptor)).Tends
                (Call.Carefully (live parts).owned?.toList) (fun _ last => last = [])
                [(Hold.new descriptor).led .connection] := by
              refine Program.tends_request ⟨_, rfl, rfl⟩ fun _ _ => ?_
              simp [settle, Exchange.closed?, Exchange.given, Hold.new]
            refine (Attempt.tends_ofProgram closed).bind ?_
            rintro reply last rfl
            exact Attempt.tends_throw fault rfl

end Socket

namespace Setup

theorem born_openKind (kind : Kind) (protocol : Protocol) :
    (openKind kind protocol).Tends (Call.Carefully lent) Socket.Born (· = []) [] := by
  have checked : (Attempt.ofExcept (protocol.requireKind kind)).Tends (Call.Carefully lent)
      (fun _ last => last = []) (· = []) [] := Attempt.tends_ofExcept (fun _ _ => rfl) rfl
  refine checked.bind ?_
  rintro value last rfl
  exact Socket.born_openNew protocol

theorem within_writeAll (descriptor : Descriptor) (writes : List OptionWrite) :
    (writeAll descriptor writes).Within descriptor := by
  induction writes with
  | nil => exact Attempt.only_pure _
  | cons write rest ih => exact (Socket.within_apply descriptor write).bind fun _ => ih

theorem born_prepare (kind : Kind) (protocol : Protocol) (options : Options) :
    (prepare kind protocol options).Tends (Call.Carefully lent) Socket.Born (· = []) [] := by
  refine (born_openKind kind protocol).bind ?_
  intro socket last born
  have within : (do
      writeAll socket.descriptor options.writes
      if options.nonblocking then socket.setNonblocking true).Within socket.descriptor := by
    refine (within_writeAll _ _).bind ?_
    intro _
    split
    · exact socket.within_setNonblocking true
    · exact Attempt.only_pure _
  refine (Socket.tends_orDiscard_observe born.fits within).bind ?_
  rintro result other rfl
  exact Attempt.tends_pure born

/-- A new socket takes a turn. -/
theorem born_step {attempt : Attempt Socket} {command : Command}
    {step : Socket → Program (Except Fault α × Socket)}
    (made : attempt.Tends (Call.Carefully lent) Socket.Born (· = []) [])
    (clear : command ≠ .finishConnect)
    (turns : ∀ socket : Socket, socket.Turns command (step socket)) :
    (do
      let socket ← attempt
      let (_, after) ← Socket.orDiscard (step socket)
      return after : Attempt Socket).Tends (Call.Carefully lent) Socket.Born (· = []) [] := by
  refine made.bind ?_
  intro socket last born
  refine (Socket.born_orDiscard born clear (turns socket)).bind ?_
  rintro ⟨value, after⟩ last' born'
  exact Attempt.tends_pure born'

theorem ServerBuilder.born_listenAfter (builder : ServerBuilder) {command : Command}
    {bind : Socket → Program (Except Fault Unit × Socket)} (clear : command ≠ .finishConnect)
    (turns : ∀ socket : Socket, socket.Turns command (bind socket)) :
    (builder.listenAfter bind).Tends (Call.Carefully lent) Socket.Born (· = []) [] := by
  refine (born_prepare _ _ _).bind ?_
  intro socket last born
  refine (Socket.born_orDiscard born clear (turns socket)).bind ?_
  rintro ⟨⟨⟩, bound⟩ last' born'
  refine (Socket.born_orDiscard born' (by simp) (Socket.turns_listen builder.backlog)).bind ?_
  rintro ⟨⟨⟩, listener⟩ last'' born''
  exact Attempt.tends_pure born''

end Setup

/-- A channel has the socket that it is made of and no key. -/
theorem Channel.tends_ofSocket (use : Use) {socket : Socket} (fits : socket.Fits hand) :
    (Channel.ofSocket use socket).Tends (Call.Carefully lent)
      (fun channel last => channel = ⟨use, socket, none⟩ ∧ last = hand) (· = []) hand := by
  refine (Socket.tends_orDiscard_observe fits (socket.within_setNonblocking true)).bind ?_
  rintro result last rfl
  exact Attempt.tends_pure ⟨rfl, rfl⟩

namespace Owner

def Born (owner : Owner) (hand : List Hold) : Prop :=
  owner.socket.Born hand ∧ owner.key? = none

theorem born_empty : (handle .empty).Born [] := ⟨rfl, rfl⟩

theorem born_ofConnection (listener : Owner) {connection : Socket} (born : connection.Born hand) :
    (listener.ofConnection connection).Tends (Call.Carefully lent) Born (· = []) hand := by
  cases listener with
  | handle socket => exact Attempt.tends_pure ⟨born, rfl⟩
  | typed use socket => exact Attempt.tends_pure ⟨born, rfl⟩
  | watchable channel =>
      refine Attempt.Tends.map ((Channel.tends_ofSocket .stream born.fits).mono
        (fun _ _ => id) ?_ fun _ => id)
      rintro channel last ⟨rfl, rfl⟩
      exact ⟨born, rfl⟩

/-- A connection that is taken gets an owner. -/
theorem born_accept (listener : Owner) :
    listener.accept.Tends (Call.Carefully listener.socket.owned?.toList)
      (Accepted.Leaves Born) (· = []) [] := by
  have taken : listener.socket.accept.Tends (Call.Carefully listener.socket.owned?.toList)
      (fun result last => Ends (Accepted.Leaves Socket.Born) (· = []) result.1 last) [] :=
    Program.Tends.bind (listener.socket.born_takeConnection) fun _ _ => id
  refine (Attempt.tends_ofProgram taken).bind ?_
  rintro ⟨outcome, socket⟩ last right
  match outcome with
  | .error fault => exact Attempt.tends_throw fault right
  | .ok .wouldBlock => exact Attempt.tends_pure right
  | .ok .interrupted => exact Attempt.tends_pure right
  | .ok (.accepted connection peer) =>
      refine (listener.born_ofConnection right).bind ?_
      intro owner last born
      exact Attempt.tends_pure born

end Owner

theorem Recipe.born_make (recipe : Recipe) :
    recipe.make.Tends (Call.Carefully lent) Owner.Born (· = []) [] := by
  have plain : ∀ {attempt : Attempt Socket} {wrap : Socket → Owner},
      (∀ socket, (wrap socket).socket = socket ∧ (wrap socket).key? = none) →
      attempt.Tends (Call.Carefully lent) Socket.Born (· = []) [] →
      (wrap <$> attempt).Tends (Call.Carefully lent) Owner.Born (· = []) [] := by
    intro attempt wrap wraps made
    refine Attempt.Tends.map (made.mono (fun _ _ => id) ?_ fun _ => id)
    intro socket last born
    refine ⟨?_, (wraps socket).2⟩
    rw [(wraps socket).1]
    exact born
  cases recipe with
  | emptyHandle => exact Attempt.tends_pure Owner.born_empty
  | handle protocol => exact plain (fun _ => ⟨rfl, rfl⟩) (Socket.born_openNew protocol)
  | typed use protocol => exact plain (fun _ => ⟨rfl, rfl⟩) (Setup.born_openKind _ protocol)
  | channel use protocol =>
      refine (Setup.born_openKind use.kind protocol).bind ?_
      intro socket last born
      refine (Channel.tends_ofSocket use born.fits).bind ?_
      rintro channel last' ⟨rfl, rfl⟩
      exact Attempt.tends_pure ⟨born, rfl⟩
  | server builder host port =>
      exact plain (fun _ => ⟨rfl, rfl⟩)
        (builder.born_listenAfter (by simp) fun _ => Socket.turns_bind host port)
  | serverAt builder endpoint =>
      have binds : (Command.bindEndpoint endpoint).Binds := trivial
      exact plain (fun _ => ⟨rfl, rfl⟩)
        (builder.born_listenAfter (by simp) fun _ => Socket.turns_bindEndpoint binds endpoint)
  | stream builder => exact plain (fun _ => ⟨rfl, rfl⟩) (Setup.born_prepare _ _ _)
  | connected builder host port =>
      exact plain (fun _ => ⟨rfl, rfl⟩) (Setup.born_step (Setup.born_prepare _ _ _) (by simp)
        fun _ => Socket.turns_connect host port)
  | datagram builder host port =>
      exact plain (fun _ => ⟨rfl, rfl⟩) (Setup.born_step (Setup.born_prepare _ _ _) (by simp)
        fun _ => Socket.turns_bind host port)

section Owners

variable {state after : σ}

theorem Answering.Tended.gained_born {owner : Owner}
    (tended : answers.Tended (Call.Carefully lent) [] owner.Born state after) :
    Gained answers state owner.socket.owned? after := by
  obtain ⟨last, born, held, same, gained⟩ := tended.gained (.nil state)
  have owned : owner.socket.owned? = held := by
    simpa using congrArg List.head? (born.1.fits.symm.trans same)
  rw [owned]
  exact gained

theorem Answering.Tended.gained_none
    (tended : answers.Tended (Call.Carefully lent) [] (· = []) state after) :
    Gained answers state none after := by
  obtain ⟨last, rfl, held, same, gained⟩ := tended.gained (.nil state)
  obtain rfl : held = none := Option.toList_eq_nil_iff.mp same.symm
  exact gained

end Owners

namespace Socket

inductive Performed (answers : Answering σ) (socket : Socket) :
    Command → σ → Socket → σ → Prop where
  | steady {command : Command} {state after : σ} {later : Socket}
      (quietly : answers.Quietly state after) (same : later.owned? = socket.owned?) :
      Performed answers socket command state later after
  | created {protocol : Protocol} {state after : σ} {later : Socket}
      (bare : socket.owned? = none) (gained : Gained answers state later.owned? after) :
      Performed answers socket (.create protocol) state later after
  | closed {state after : σ} {later : Socket} (bare : later.owned? = none)
      (discarded : socket.discard.Runs answers state () after) :
      Performed answers socket .close state later after

theorem performed_of_runs_create {socket later : Socket} {protocol : Protocol}
    {state after : σ} {outcome : Except Failure Reply}
    (run : (socket.perform (.create protocol)).Runs answers state (outcome, later) after) :
    Performed answers socket (.create protocol) state later after := by
  cases socket with
  | live parts =>
      obtain ⟨same, rfl⟩ := run
      cases same
      exact .steady .refl rfl
  | closed former =>
      have fits : (closed former).Fits [] := rfl
      have tends : ((closed former).perform (.create protocol)).Tends (Call.Carefully []) _ [] :=
        tends_perform _ fits
      obtain ⟨last, turned, held, same, gained⟩ := (tends.tended run).gained (.nil state)
      have owned : later.owned? = held := by
        simpa using congrArg List.head? ((turned.fits fits).symm.trans same)
      rw [← owned] at gained
      exact .created rfl gained

theorem performed_of_runs_close {socket later : Socket} {state after : σ}
    {outcome : Except Failure Reply}
    (run : (socket.perform .close).Runs answers state (outcome, later) after) :
    Performed answers socket .close state later after := by
  rw [perform_eq] at run
  obtain ⟨⟨reply, settled⟩, between, closed, same, rfl⟩ := Program.runs_bind.mp run
  cases same
  refine .closed ?_ (Program.runs_bind.mpr ⟨_, _, closed, rfl, rfl⟩)
  rw [close_eq] at closed
  cases socket with
  | closed last =>
      obtain ⟨same, -⟩ := closed
      cases same
      rfl
  | live parts =>
      obtain ⟨answer, middle, asked, rest⟩ := Program.runs_bind.mp closed
      cases answer <;>
      · obtain ⟨same, -⟩ := rest
        cases same
        rfl

theorem performed_of_runs {socket later : Socket} {command : Command} {state after : σ}
    {outcome : Except Failure Reply}
    (run : (socket.perform command).Runs answers state (outcome, later) after) :
    Performed answers socket command state later after := by
  by_cases settles : Settles command
  · obtain ⟨quietly, same⟩ := (socket.steady_perform settles).quietly run
    exact .steady quietly same
  · cases command with
    | create protocol => exact performed_of_runs_create run
    | close => exact performed_of_runs_close run
    | _ => exact absurd trivial settles

end Socket

end SocketReactor
