import SocketReactor.Proofs.Handle.Turns
import SocketReactor.Proofs.Socket.Footprint

/-!
# What commands do to a socket

Every turn that a command may give to a socket, together with what becomes of the
descriptor in its hands.  All that is said later of the life of a socket is read off
`Socket.Turned`, so that no other proof opens the operations.
-/

namespace SocketReactor

variable {α : Type} {hand last : List Hold}

def LiveSocket.shut (parts : LiveSocket) : Half → LiveSocket
  | .read => { parts with readShut := true }
  | .write => { parts with writeShut := true }

def LiveSocket.isShut (parts : LiveSocket) : Half → Bool
  | .read => parts.readShut
  | .write => parts.writeShut

def Stage.IsConnection : Stage → Prop
  | connected | connecting _ => True
  | fresh | listening => False

namespace Socket

theorem exists_owned {socket : Socket} (alive : socket.state ≠ .closed) :
    ∃ descriptor, socket.owned? = some descriptor := by
  cases socket with
  | closed former => exact absurd rfl alive
  | live parts => exact ⟨_, rfl⟩

theorem eq_live_of_owned {socket : Socket} {descriptor : Descriptor}
    (owned : socket.owned? = some descriptor) :
    ∃ parts, socket = live parts ∧ parts.descriptor = descriptor := by
  cases socket with
  | closed former => cases owned
  | live parts => exact ⟨parts, rfl, Option.some.inj owned⟩

def Fits (socket : Socket) (hand : List Hold) : Prop :=
  hand.map Hold.descriptor = socket.owned?.toList

/-- What a command may make of a socket and of what it has in hand. -/
inductive Turned : Socket → List Hold → Command → Socket → List Hold → Prop where
  | kept {socket : Socket} {hand : List Hold} {command : Command} :
      Turned socket hand command socket hand
  | created {former : Option Protocol} {protocol : Protocol} {descriptor : Descriptor} :
      Turned (closed former) [] (.create protocol)
        (live ⟨descriptor, protocol, false, false, false, .fresh⟩) [.new descriptor]
  | bound {parts : LiveSocket} {hand : List Hold} {command : Command} (binds : command.Binds)
      (fresh : parts.stage = .fresh) :
      Turned (live parts) hand command (live { parts with bound := true }) hand
  | listening {parts : LiveSocket} {hold : Hold} {backlog : Int32}
      (fresh : parts.stage = .fresh) (bound : parts.bound = true) :
      Turned (live parts) [hold] (.listen backlog) (live { parts with stage := .listening })
        [hold.led .listener]
  | connected {parts : LiveSocket} {hold : Hold} {command : Command} {stage : Stage}
      (connects : command.Connects) (fresh : parts.stage = .fresh)
      (connection : stage.IsConnection) :
      Turned (live parts) [hold] command (live { parts with stage := stage })
        [hold.led .connection]
  | finished {parts : LiveSocket} {hand : List Hold} {target : Endpoint}
      (pending : parts.stage = .connecting target) :
      Turned (live parts) hand .finishConnect (live { parts with stage := .connected }) hand
  /-- The connection was refused. -/
  | refused {parts : LiveSocket} {hand : List Hold} {target : Endpoint}
      (pending : parts.stage = .connecting target) :
      Turned (live parts) hand .finishConnect (live { parts with stage := .fresh }) hand
  | shut {parts : LiveSocket} {hold : Hold} {half : Half} (begun : parts.stage ≠ .fresh) :
      Turned (live parts) [hold] (.shutdown half) (live (parts.shut half)) [hold.shut half]
  | closed {parts : LiveSocket} {hand : List Hold} :
      Turned (live parts) hand .close (closed (some parts.protocol)) []

/-- The step makes a turn of the command, gets and closes nothing, and names nothing but what
is in hand. -/
def Turns (socket : Socket) (command : Command) (step : Program (Except Fault α × Socket)) :
    Prop :=
  ∀ hand, socket.Fits hand → step.Tends Call.Steadily
    (fun result last => Turned socket hand command result.2 last) hand

theorem Fits.eq_nil {former : Option Protocol} (fits : (closed former).Fits hand) :
    hand = [] := List.map_eq_nil_iff.mp fits

theorem Fits.eq_singleton {parts : LiveSocket} (fits : (live parts).Fits hand) :
    ∃ hold : Hold, hand = [hold] ∧ hold.descriptor = parts.descriptor := by
  obtain ⟨hold, rfl, same⟩ := List.map_eq_singleton_iff.mp fits
  exact ⟨hold, rfl, same⟩

/-- A call on the socket's descriptor names nothing but what is in hand. -/
theorem Fits.held {socket : Socket} (fits : socket.Fits hand) :
    socket.descriptor = .absent ∨ socket.descriptor ∈ hand.map Hold.descriptor := by
  rw [fits]
  cases socket with
  | closed former => exact .inl rfl
  | live parts => exact .inr List.mem_cons_self

theorem Turned.fits {socket later : Socket} {command : Command}
    (turned : Turned socket hand command later last) (fits : socket.Fits hand) :
    later.Fits last := by
  cases turned with
  | kept | bound | finished | refused | listening | connected => exact fits
  | created | closed => rfl
  | @shut parts hold half begun =>
      have same : hold.descriptor = parts.descriptor := List.singleton_inj.mp fits
      cases half <;> exact congrArg (fun descriptor => [descriptor]) same

/-- Who is live after a command on a socket was live before it, with the same descriptor, and what
was shut stays shut. -/
theorem Turned.of_live {socket : Socket} {command : Command} {parts : LiveSocket}
    (turned : Turned socket hand command (.live parts) last)
    (old : ∀ protocol, command ≠ .create protocol) :
    ∃ former, socket = .live former ∧ parts.descriptor = former.descriptor ∧
      (former.readShut = true → parts.readShut = true) := by
  cases turned with
  | created => exact absurd rfl (old _)
  | @shut former hold half begun =>
      cases half with
      | read => exact ⟨former, rfl, rfl, fun _ => rfl⟩
      | write => exact ⟨former, rfl, rfl, id⟩
  | kept | bound | listening | connected | finished | refused => exact ⟨_, rfl, rfl, id⟩

/-! ## Steps -/

variable {socket : Socket} {command : Command} {post : α → List Hold → Prop}
  {failed : List Hold → Prop}

theorem turns_observe {attempt : Attempt α} (within : attempt.Within socket.descriptor) :
    socket.Turns command (socket.observe attempt) := by
  intro hand fits
  refine Program.Tends.bind (within.tends fits.held) ?_
  intro outcome last same
  have kept : last = hand := by
    cases outcome <;> exact same
  exact kept ▸ Turned.kept

theorem turns_commit {attempt : Attempt (α × Socket)}
    (tends : ∀ hand, socket.Fits hand → attempt.Tends Call.Steadily
      (fun result last => Turned socket hand command result.2 last) (· = hand) hand) :
    socket.Turns command (socket.commit attempt) := by
  intro hand fits
  refine Program.Tends.bind (tends hand fits) ?_
  intro outcome last right
  cases outcome with
  | ok result => exact right
  | error fault =>
      obtain rfl : last = hand := right
      exact Turned.kept

/-- A step that finds an endpoint first. -/
theorem turns_at {attempt : Attempt Endpoint}
    {next : Endpoint → Program (Except Fault α × Socket)}
    (within : attempt.Within socket.descriptor)
    (turns : ∀ endpoint, socket.Turns command (next endpoint)) :
    socket.Turns command do
      match ← attempt.run with
      | .ok endpoint => next endpoint
      | .error fault => return (.error fault, socket) := by
  intro hand fits
  refine Program.Tends.bind (within.tends fits.held) ?_
  intro outcome last same
  cases outcome with
  | ok endpoint =>
      obtain rfl : last = hand := same
      exact turns endpoint last fits
  | error fault =>
      obtain rfl : last = hand := same
      exact Turned.kept

/-- An attempt that begins with a check of the socket goes on with the parts of the socket. -/
theorem tends_require {operation : String} {allowed : List SocketState}
    {next : LiveSocket → Attempt α}
    (rest : ∀ parts, socket = .live parts → parts.stage.state ∈ allowed →
      (next parts).Tends Call.Steadily post (· = hand) hand) :
    (Attempt.ofExcept (socket.require operation allowed) >>= next).Tends Call.Steadily
      post (· = hand) hand := by
  have passes : (Attempt.ofExcept (socket.require operation allowed)).Tends Call.Steadily
      (fun parts last => (socket = .live parts ∧ parts.stage.state ∈ allowed) ∧ last = hand)
      (· = hand) hand :=
    Attempt.tends_ofExcept (fun _ passed => ⟨eq_live_of_require passed, rfl⟩) rfl
  refine passes.bind ?_
  rintro parts last ⟨⟨same, state⟩, rfl⟩
  exact rest parts same state

/-- A quiet call on the descriptor in hand is noted. -/
theorem tends_ask {call : Call} {hold : Hold} (quiet : call.IsQuiet)
    (names : call.names = [hold.descriptor]) :
    (Program.request call).Tends Call.Steadily
      (fun reply last => last = [hold.note ⟨call, reply⟩]) [hold] := by
  have steadily : call.Steadily [hold] := by
    refine ⟨quiet, ?_⟩
    rw [names]
    exact fun named mem => .inr mem
  refine Program.tends_request steadily ?_
  intro reply _
  refine settle_singleton ?_ (steadily.given_eq reply)
  cases call <;> first | exact quiet.elim | rfl

/-- A check keeps what is in hand. -/
theorem tends_check (outcome : Except Fault α) :
    (Attempt.ofExcept outcome).Tends Call.Steadily (fun _ last => last = hand) (· = hand) hand :=
  Attempt.tends_ofExcept (fun _ _ => rfl) rfl

theorem turns_bindEndpoint (binds : command.Binds) (endpoint : Endpoint) :
    socket.Turns command (socket.bindEndpoint endpoint) := by
  rw [bindEndpoint_eq]
  refine turns_commit ?_
  intro hand fits
  refine tends_require ?_
  rintro parts rfl state
  refine (tends_check _).bind ?_
  rintro _ last rfl
  have within : (Attempt.ofCall (Program.request (.bind parts.descriptor endpoint.wire))
      (.bindFailed · endpoint.toText)).Within parts.descriptor :=
    Attempt.only_ofCall (Program.only_request ⟨trivial, trivial, .inr rfl⟩)
  refine (within.tends fits.held).bind ?_
  rintro _ last rfl
  exact Attempt.tends_pure (.bound binds (Stage.eq_fresh state))

theorem turns_bind (host : String) (port : UInt16) :
    socket.Turns (.bind host port) (socket.bind host port) := by
  rw [bind_eq]
  exact turns_at (within_endpointOf _ _ _ _) (turns_bindEndpoint trivial)

theorem turns_listen (backlog : Int32) :
    socket.Turns (.listen backlog) (socket.listen backlog) := by
  rw [listen_eq]
  refine turns_commit ?_
  intro hand fits
  refine tends_require ?_
  rintro parts rfl state
  obtain ⟨hold, rfl, same⟩ := fits.eq_singleton
  have names : (Call.listen parts.descriptor backlog).names = [hold.descriptor] := by
    rw [same]
    rfl
  split
  · exact Attempt.tends_throw _ rfl
  · rename_i bound
    have listened : (Attempt.ofCall (Program.request (.listen parts.descriptor backlog))
        (.listenFailed · backlog)).Tends Call.Steadily
          (fun _ last => last = [hold.led .listener]) (· = [hold]) [hold] := by
      refine Attempt.tends_ofCall
        (Program.Tends.mono (tends_ask trivial names) (fun _ _ => id) ?_)
      rintro reply last rfl
      cases reply with
      | ok value =>
          rw [Hold.note_of_leads .listener]
          · rfl
          · rw [same]
            rfl
      | error errno => rfl
    refine listened.bind ?_
    rintro _ last rfl
    exact Attempt.tends_pure (.listening (Stage.eq_fresh state) (by simpa using bound))

theorem turns_connectEndpoint (connects : command.Connects) (endpoint : Endpoint) :
    socket.Turns command (socket.connectEndpoint endpoint) := by
  rw [connectEndpoint_eq]
  refine turns_commit ?_
  intro hand fits
  refine tends_require ?_
  rintro parts rfl state
  obtain ⟨hold, rfl, same⟩ := fits.eq_singleton
  refine (tends_check _).bind ?_
  rintro _ last rfl
  have names : (Call.connect parts.descriptor endpoint.wire).names = [hold.descriptor] := by
    rw [same]
    rfl
  have fresh := Stage.eq_fresh state
  refine Attempt.Tends.bind (Attempt.tends_ofProgram (tends_ask trivial names)) ?_
  rintro reply last rfl
  cases reply with
  | ok value =>
      rw [Hold.note_of_leads .connection]
      · exact Attempt.tends_pure (.connected connects fresh trivial)
      · rw [same]
        rfl
  | error errno =>
      dsimp only
      split
      · rename_i begun
        rw [Hold.note_of_leads .connection]
        · exact Attempt.tends_pure (.connected connects fresh trivial)
        · rw [same]
          exact if_pos begun
      · rename_i failed
        rw [Hold.note_eq_self]
        · exact Attempt.tends_throw _ rfl
        · exact if_neg failed
        · rfl

theorem turns_connect (host : String) (port : UInt16) :
    socket.Turns (.connect host port) (socket.connect host port) := by
  rw [connect_eq]
  exact turns_at (within_endpointOf _ _ _ _) (turns_connectEndpoint trivial)

theorem turns_finishConnect : socket.Turns .finishConnect socket.finishConnect := by
  intro hand fits
  rw [finishConnect_eq]
  cases socket with
  | closed former => exact Turned.kept
  | live parts =>
      have ask : ∀ call : Call, call.Within parts.descriptor →
          (Program.request call).Tends Call.Steadily (fun _ last => True ∧ last = hand) hand :=
        fun call within => (Program.only_request within).tends
          fun _ within => ⟨within.2.1, within.steadily fits.held⟩
      dsimp only
      split
      · exact Turned.kept
      · exact Turned.kept
      · exact Turned.kept
      · rename_i target pending
        refine Program.Tends.bind (ask _ ⟨trivial, trivial, .inr rfl⟩) ?_
        rintro reply last ⟨-, rfl⟩
        cases reply with
        | error errno => exact Turned.kept
        | ok number =>
            dsimp only
            split
            · exact Turned.refused pending
            · refine (ask (.peerName _) ⟨trivial, trivial, .inr rfl⟩).bind ?_
              rintro named last ⟨-, rfl⟩
              cases named with
              | ok name => exact Turned.finished pending
              | error errno =>
                  dsimp only
                  split <;> exact Turned.kept

theorem turns_shutdown (half : Half) :
    socket.Turns (.shutdown half) (socket.shutdown half) := by
  rw [shutdown_eq]
  refine turns_commit ?_
  intro hand fits
  refine tends_require ?_
  rintro parts rfl state
  obtain ⟨hold, rfl, same⟩ := fits.eq_singleton
  have begun : parts.stage ≠ .fresh := by
    intro fresh
    simp [fresh, Stage.state] at state
  have names : (Call.shutdown parts.descriptor half).names = [hold.descriptor] := by
    rw [same]
    rfl
  have ended : (Attempt.ofCall (Program.request (.shutdown parts.descriptor half))
      (.transferFailed · "shutdown")).Tends Call.Steadily
        (fun _ last => last = [hold.shut half]) (· = [hold]) [hold] := by
    refine Attempt.tends_ofCall (Program.Tends.mono (tends_ask trivial names) (fun _ _ => id) ?_)
    rintro reply last rfl
    cases reply with
    | ok value =>
        rw [Hold.note_of_shuts half rfl]
        · rfl
        · rw [same]
          rfl
    | error errno => rfl
  cases half <;> dsimp only <;>
  · split
    · exact Attempt.tends_pure Turned.kept
    · refine ended.bind ?_
      rintro _ last rfl
      exact Attempt.tends_pure (Turned.shut begun)

/-! ## Commands -/

/-- Whether a command gets or gives back a descriptor. -/
def Settles : Command → Prop
  | .create _ | .close => False
  | _ => True

/-- The command makes a turn. -/
theorem tends_replying {permits : List Hold → Call → Prop} {reply : α → Reply}
    {step : Program (Except Fault α × Socket)} {turn : Socket → List Hold → Prop}
    (tends : step.Tends permits (fun result last => turn result.2 last) hand) :
    (replying reply step).Tends permits (fun result last => turn result.2 last) hand :=
  tends.bind fun _ _ right => right

theorem turns_replyingTo {reply : α → Reply} {attempt : Attempt α}
    (within : attempt.Within socket.descriptor) (fits : socket.Fits hand) :
    (socket.replyingTo reply attempt).Tends Call.Steadily
      (fun result last => Turned socket hand command result.2 last) hand :=
  tends_replying (turns_observe within hand fits)

theorem turns_readOption (option : OptionRead) (fits : socket.Fits hand) :
    (socket.readOption option).Tends Call.Steadily
      (fun result last => Turned socket hand command result.2 last) hand := by
  have number : ∀ option, (socket.descriptor.intOption option).Within socket.descriptor :=
    within_intOption socket.descriptor
  cases option with
  | flag option =>
      exact turns_replyingTo ((number option).bind fun _ => Attempt.ensures_pure trivial) fits
  | size option =>
      exact turns_replyingTo ((number option).bind fun _ => Attempt.ensures_pure trivial) fits
  | timeout option => exact turns_replyingTo (within_timeoutOption _ option) fits
  | linger => exact turns_replyingTo (within_lingerOption _) fits
  | pendingError =>
      exact turns_replyingTo ((number .error).bind fun _ => Attempt.ensures_pure trivial) fits

/-- Every command but creating and closing makes a turn by calls that get and close nothing. -/
theorem turns_perform (settles : Settles command) (fits : socket.Fits hand) :
    (socket.perform command).Tends Call.Steadily
      (fun result last => Turned socket hand command result.2 last) hand := by
  -- What goes through as octets only is a transfer that the socket makes anyway.
  have plain : ∀ {β : Type} {program : Program β} {outcome : β → Except Failure Reply},
      (program.Ensures (Call.Within socket.descriptor) fun _ => True) →
      (program >>= fun value => return (outcome value, socket)).Tends Call.Steadily
        (fun result last => Turned socket hand command result.2 last) hand := by
    intro β program outcome within
    refine Program.Tends.bind (within.tends
      fun _ within => ⟨within.2.1, within.steadily fits.held⟩) ?_
    rintro value last ⟨-, rfl⟩
    exact Turned.kept
  rw [perform_eq]
  cases command with
  | create protocol => exact settles.elim
  | close => exact settles.elim
  | bind host port => exact tends_replying (turns_bind host port hand fits)
  | bindEndpoint endpoint =>
      exact tends_replying (turns_bindEndpoint (by trivial) endpoint hand fits)
  | listen backlog => exact tends_replying (turns_listen backlog hand fits)
  | connect host port => exact tends_replying (turns_connect host port hand fits)
  | connectEndpoint endpoint =>
      exact tends_replying (turns_connectEndpoint (by trivial) endpoint hand fits)
  | finishConnect => exact tends_replying (turns_finishConnect hand fits)
  | send data => exact turns_replyingTo (socket.within_send data) fits
  | receive capacity => exact turns_replyingTo (socket.within_receive capacity) fits
  | sendTo data endpoint => exact turns_replyingTo (socket.within_sendTo data endpoint) fits
  | receiveFrom capacity => exact turns_replyingTo (socket.within_receiveFrom capacity) fits
  | readOctets capacity => exact plain (socket.within_readOctets capacity)
  | writeOctets data => exact plain (socket.within_writeOctets data)
  | shutdown half => exact tends_replying (turns_shutdown half hand fits)
  | localEndpoint => exact turns_replyingTo socket.within_localEndpoint fits
  | remoteEndpoint => exact turns_replyingTo socket.within_remoteEndpoint fits
  | localPort => exact turns_replyingTo socket.within_localPort fits
  | setNonblocking enabled => exact turns_replyingTo (socket.within_setNonblocking enabled) fits
  | isNonblocking => exact turns_replyingTo socket.within_isNonblocking fits
  | readOption option => exact turns_readOption option fits
  | writeOption write => exact turns_replyingTo (within_apply socket.descriptor write) fits

/-- The descriptor of a socket of which nothing has been made yet. -/
theorem fits_new (socket : Socket) : socket.Fits (socket.owned?.toList.map Hold.new) := by
  have given : Hold.descriptor ∘ Hold.new = id := rfl
  rw [Fits, List.map_map, given, List.map_id]

/-- Every command but creating and closing makes quiet calls alone and leaves the socket with
the descriptor that it had, if it had one. -/
theorem steady_perform (socket : Socket) {command : Command} (settles : Settles command) :
    (socket.perform command).Ensures Call.IsQuiet fun result =>
      result.2.owned? = socket.owned? := by
  refine (turns_perform settles socket.fits_new).quiet.mono ?_
  rintro ⟨outcome, later⟩ ⟨last, turned⟩
  generalize socket.owned?.toList.map Hold.new = hand at turned
  cases turned with
  | created | closed => exact settles.elim
  | @shut parts hold half begun => cases half <;> rfl
  | _ => rfl

/-! ## Getting and giving back -/

variable {lent : List Descriptor}

theorem tends_openNew (protocol : Protocol) :
    (openNew protocol).Tends (Call.Carefully lent)
      (fun socket last => ∃ descriptor, last = [.new descriptor] ∧
        socket = live ⟨descriptor, protocol, false, false, false, .fresh⟩) (· = []) [] := by
  have opened : (Attempt.ofCall (Program.request
      (.socket protocol.family protocol.kind protocol.number))
        (.socketFailed · protocol.text)).Tends (Call.Carefully lent)
          (fun descriptor last => last = [.new descriptor]) (· = []) [] := by
    refine Attempt.tends_ofCall (Program.tends_request rfl ?_)
    intro reply _
    cases reply with
    | ok descriptor => exact congrArg (fun hold => [hold]) (Hold.note_eq_self rfl rfl)
    | error errno => rfl
  rw [openNew_eq]
  refine opened.bind ?_
  rintro descriptor last rfl
  exact Attempt.tends_pure ⟨descriptor, rfl, rfl⟩

theorem tends_create {protocol : Protocol} {step : Program (Except Fault Unit × Socket)}
    (allowed : socket.create protocol = .ok step) (fits : socket.Fits hand) :
    step.Tends (Call.Carefully lent)
      (fun result last => Turned socket hand (.create protocol) result.2 last) hand := by
  cases socket with
  | live parts => cases allowed
  | closed former =>
      rw [create_eq] at allowed
      cases allowed
      obtain rfl := fits.eq_nil
      have made : (do return ((), ← openNew protocol) : Attempt (Unit × Socket)).Tends
          (Call.Carefully lent)
          (fun result last => Turned (closed former) [] (.create protocol) result.2 last)
          (· = []) [] := by
        refine (tends_openNew protocol).bind ?_
        rintro socket last ⟨descriptor, rfl, rfl⟩
        exact Attempt.tends_pure Turned.created
      refine Program.Tends.bind made ?_
      intro outcome last right
      cases outcome with
      | ok result => exact right
      | error fault =>
          obtain rfl : last = [] := right
          exact Turned.kept

theorem tends_close (fits : socket.Fits hand) :
    socket.close.Tends (Call.Carefully lent)
      (fun result last => Turned socket hand .close result.2 last ∧ last = []) hand := by
  rw [close_eq]
  cases socket with
  | closed former =>
      obtain rfl := fits.eq_nil
      exact ⟨Turned.kept, rfl⟩
  | live parts =>
      obtain ⟨hold, rfl, same⟩ := fits.eq_singleton
      refine Program.Tends.bind (Program.tends_request ⟨hold, rfl, same⟩ fun _ _ => rfl) ?_
      rintro reply last rfl
      have gone : settle [hold] ⟨.close parts.descriptor, reply⟩ = [] := by
        simp [settle, Exchange.closed?, Exchange.given, same]
      rw [gone]
      cases reply <;> exact ⟨Turned.closed, rfl⟩

/-- Letting a socket go leaves nothing in hand. -/
theorem tends_discard (fits : socket.Fits hand) :
    socket.discard.Tends (Call.Carefully lent) (fun _ last => last = []) hand :=
  Program.Tends.bind (tends_close fits) fun _ _ right => right.2

/-- Every command makes a turn. -/
theorem tends_perform (command : Command) (fits : socket.Fits hand) :
    (socket.perform command).Tends (Call.Carefully lent)
      (fun result last => Turned socket hand command result.2 last) hand := by
  by_cases settles : Settles command
  · exact (turns_perform settles fits).mono (fun _ _ steadily => steadily.carefully)
      fun _ _ => id
  · rw [perform_eq]
    cases command with
    | create protocol =>
        cases allowed : socket.create protocol with
        | ok step =>
            simp only [respond, allowed]
            exact tends_replying (tends_create allowed fits)
        | error misuse =>
            simp only [respond, allowed]
            exact Turned.kept
    | close =>
        have closes : socket.close.Tends (Call.Carefully lent)
            (fun result last => Turned socket hand .close result.2 last) hand :=
          (tends_close fits).mono (fun _ _ => id) fun _ _ => And.left
        exact tends_replying closes
    | _ => exact absurd trivial settles

/-- What a run makes of a socket is a turn of the command. -/
theorem turned_of_runs {σ : Type} {answers : Answering σ} {state after : σ}
    {outcome : Except Failure Reply} {later : Socket}
    (run : (socket.perform command).Runs answers state (outcome, later) after) :
    ∃ hand last, Turned socket hand command later last := by
  have tends : (socket.perform command).Tends (Call.Carefully []) _ _ :=
    tends_perform command socket.fits_new
  obtain ⟨last, turned⟩ := (tends.tended run).ends
  exact ⟨_, last, turned⟩

end Socket

end SocketReactor
