import SocketReactor.Proofs.Host.Yields
import SocketReactor.Proofs.Owner.Gains
import SocketReactor.Proofs.Socket.Refinement

/-!
# The parts that sockets play

A socket that is used for one purpose only is of one kind and reaches only the stages of
that purpose: a listener never connects, a stream never listens, and a socket for messages
does neither.  Nothing checks this while a program runs.  It follows from the kind that a
new socket is made with, from the commands that a use offers, and from what a listener
gives the connections that it takes.
-/

namespace SocketReactor

variable {σ α β : Type} {answers : Answering σ}

/-- The fault tells that a socket is not in the state for an operation. -/
def Fault.IsWrongState : Fault → Prop
  | .wrongState _ _ => True
  | _ => False

/-! ## Uses and their stages -/

/-- What a socket holds that has just been opened. -/
def LiveSocket.new (descriptor : Descriptor) (protocol : Protocol) : LiveSocket :=
  ⟨descriptor, protocol, false, false, false, .fresh⟩

namespace Use

def Reaches : Use → Stage → Prop
  | _, .fresh => True
  | .server, .listening => True
  | .stream, .connected => True
  | .stream, .connecting _ => True
  | _, _ => False

/-- The socket is of the kind of a use, and at one of its stages as long as it is live. -/
def Keeps (use : Use) : Socket → Prop
  | .closed last => last.map Protocol.kind = some use.kind
  | .live parts => parts.protocol.kind = use.kind ∧ use.Reaches parts.stage

theorem reaches_fresh (use : Use) : use.Reaches .fresh := by
  cases use <;> trivial

theorem keeps_new {protocol : Protocol} (use : Use) (descriptor : Descriptor)
    (kind : protocol.kind = use.kind) : use.Keeps (.live (.new descriptor protocol)) :=
  ⟨kind, use.reaches_fresh⟩

variable {use : Use} {socket later : Socket} {command : Command} {hand last : List Hold}

theorem eq_stream_of_connects (offered : use.offers command = true) (connects : command.Connects) :
    use = .stream := by
  cases command with
  | connect host port => exact of_decide_eq_true offered
  | connectEndpoint endpoint => exact of_decide_eq_true offered
  | _ => exact connects.elim

/-- No command that a use offers leads away from it. -/
theorem Keeps.turned (keeps : use.Keeps socket) (offered : use.offers command = true)
    (turned : Socket.Turned socket hand command later last) : use.Keeps later := by
  -- The turns that begin another stage belong to commands that one use alone offers.
  cases turned with
  | kept => exact keeps
  | created => cases offered
  | bound binds fresh => exact keeps
  | listening fresh bound =>
      obtain rfl : use = .server := of_decide_eq_true offered
      exact ⟨keeps.1, trivial⟩
  | @connected parts hold command stage connects fresh connection =>
      obtain rfl := eq_stream_of_connects offered connects
      refine ⟨keeps.1, ?_⟩
      cases stage with
      | fresh | listening => exact connection.elim
      | connected | connecting => trivial
  | finished pending =>
      obtain rfl : use = .stream := of_decide_eq_true offered
      exact ⟨keeps.1, trivial⟩
  | refused pending => exact ⟨keeps.1, use.reaches_fresh⟩
  | @shut parts hold half begun => cases half <;> exact keeps
  | closed => exact congrArg some keeps.1

/-! ## What callers see -/

def Shows : Use → Socket → Prop
  | .server, socket => socket.state = .created ∨
      (socket.state = .opened ∧ socket.isListening = true) ∨ socket.state = .closed
  | .stream, socket => socket.isListening = false
  | .datagram, socket =>
      (socket.state = .created ∨ socket.state = .closed) ∧ socket.isListening = false

theorem Keeps.kind (keeps : use.Keeps socket) :
    socket.protocol?.map Protocol.kind = some use.kind := by
  cases socket with
  | closed former => exact keeps
  | live parts => exact congrArg some keeps.1

theorem Keeps.shows (keeps : use.Keeps socket) : use.Shows socket := by
  cases socket with
  | closed former =>
      cases use with
      | server => exact .inr (.inr rfl)
      | stream => rfl
      | datagram => exact ⟨.inr rfl, rfl⟩
  | live parts =>
      obtain ⟨-, reached⟩ := keeps
      cases use <;> cases stage : parts.stage <;> rw [stage] at reached <;>
        first
        | exact reached.elim
        | simp [Shows, Socket.state, Socket.isListening, Socket.live?, stage, Stage.state]

/-- An open socket listens or is connected, as its use has it. -/
theorem Keeps.opened (keeps : use.Keeps socket) (opened : socket.state = .opened) :
    ∃ parts, socket = .live parts ∧
      (use = .server ∧ parts.stage = .listening ∨ use = .stream ∧ parts.stage = .connected) := by
  cases socket with
  | closed former => cases opened
  | live parts =>
      obtain ⟨-, reached⟩ := keeps
      have shown : parts.stage.state = .opened := opened
      refine ⟨parts, rfl, ?_⟩
      cases stage : parts.stage <;> rw [stage] at reached shown
      case fresh | connecting => cases shown
      case listening =>
        cases use with
        | server => exact .inl ⟨rfl, rfl⟩
        | stream | datagram => exact reached.elim
      case connected =>
        cases use with
        | stream => exact .inr ⟨rfl, rfl⟩
        | server | datagram => exact reached.elim

end Use

/-- A shared command leaves every socket as it is. -/
theorem Socket.Turned.eq_of_isShared {socket later : Socket} {command : Command}
    {hand last : List Hold} (shared : command.isShared = true)
    (turned : Socket.Turned socket hand command later last) : later = socket := by
  cases turned with
  | kept => rfl
  | bound binds fresh => cases command <;> first | exact binds.elim | cases shared
  | connected connects fresh connection =>
      cases command <;> first | exact connects.elim | cases shared
  | created | listening | finished | refused | shut | closed => cases shared

namespace Owner

/-- The use that an owner has for its socket. A plain handle serves every use. -/
def use? : Owner → Option Use
  | handle _ => none
  | typed use _ => some use
  | watchable channel => some channel.use

def InRole (owner : Owner) : Prop := ∀ use, owner.use? = some use → use.Keeps owner.socket

/-- A plain handle plays no role that it could leave. -/
theorem inRole_handle (socket : Socket) : (handle socket).InRole := nofun

@[simp] theorem use?_withSocket (owner : Owner) (socket : Socket) :
    (owner.withSocket socket).use? = owner.use? := by
  cases owner <;> rfl

/-- What an owner of some use offers, the use offers. -/
theorem offers_of_use? {owner : Owner} {use : Use} {command : Command}
    (used : owner.use? = some use) (offered : owner.offers command = true) :
    use.offers command = true := by
  cases owner with
  | handle socket => cases used
  | typed _ socket =>
      cases used
      exact offered
  | watchable channel =>
      cases used
      cases command with
      | readOctets | writeOctets | setNonblocking | isNonblocking => cases offered
      | _ => exact offered

theorem socket_of_lend {owner lent : Owner} {access : Access}
    (lends : owner.lend access = some lent) : lent.socket = owner.socket := by
  cases owner <;> cases access <;> cases lends <;> rfl

/-- What is lent is used as its owner is, or by a plain handle. -/
theorem use?_of_lend {owner lent : Owner} {access : Access} {use : Use}
    (lends : owner.lend access = some lent) (used : lent.use? = some use) :
    owner.use? = some use := by
  cases owner <;> cases access <;> cases lends <;> first | exact used | cases used

theorem InRole.lend {owner lent : Owner} {access : Access} (role : owner.InRole)
    (lends : owner.lend access = some lent) : lent.InRole := by
  intro use used
  rw [socket_of_lend lends]
  exact role use (use?_of_lend lends used)

theorem takesConnections_of_use? {owner : Owner} (serves : owner.use? = some .server) :
    owner.takesConnections = true := by
  cases owner with
  | handle socket => rfl
  | typed use socket => exact decide_eq_true (Option.some.inj serves)
  | watchable channel => exact decide_eq_true (Option.some.inj serves)

theorem offers_finishConnect {owner : Owner} (carries : owner.use? = some .stream) :
    owner.offers .finishConnect = true := by
  cases owner with
  | handle socket => rfl
  | typed use socket => exact decide_eq_true (Option.some.inj carries)
  | watchable channel => exact decide_eq_true (Option.some.inj carries)

end Owner

/-- Nothing that an owner of some use grants leads away from it. -/
theorem Use.Keeps.granted {use : Use} {owner : Owner} {access : Access} {command : Command}
    {later : Socket} {hand last : List Hold} (keeps : use.Keeps owner.socket)
    (used : owner.use? = some use) (granted : owner.grants access command = true)
    (turned : Socket.Turned owner.socket hand command later last) : use.Keeps later := by
  rcases Owner.offers_or_isShared granted with offered | shared
  · exact keeps.turned (Owner.offers_of_use? used offered) turned
  · exact turned.eq_of_isShared shared ▸ keeps

/-! ## New owners -/

section Making

variable {use : Use}

/-- A new socket that is turned by a command keeps to its use. -/
theorem Socket.yields_orDiscard {socket : Socket} {command : Command}
    {step : Program (Except Fault α × Socket)} (keeps : use.Keeps socket)
    (offered : use.offers command = true) (turns : socket.Turns command step) :
    (Socket.orDiscard step).Yields (fun result => use.Keeps result.2) fun _ => True := by
  refine (turns _ socket.fits_new).quiet.freely.bind ?_
  rintro ⟨outcome, later⟩ ⟨last, turned⟩
  cases outcome with
  | ok value => exact keeps.turned offered turned
  | error fault => exact later.discard.ensures_anything.bind fun _ _ => trivial

theorem Socket.ensures_observe (socket : Socket) {attempt : Attempt α} {post : α → Prop}
    {failed : Fault → Prop} (yields : attempt.Yields post failed) :
    (socket.observe attempt).Ensures (fun _ => True) fun result =>
      Attempt.Right post failed result.1 := Program.Ensures.bind yields fun _ right => right

/-- A new socket that an attempt is made with is discarded if that fails. -/
theorem Socket.yields_orDiscard_observe {socket : Socket} {attempt : Attempt α} {post : α → Prop}
    {failed : Fault → Prop} (yields : attempt.Yields post failed) :
    (Socket.orDiscard (socket.observe attempt)).Yields (fun result => post result.1) failed := by
  refine (socket.ensures_observe yields).bind ?_
  rintro ⟨outcome, later⟩ right
  cases outcome with
  | ok value => exact right
  | error fault => exact later.discard.ensures_anything.bind fun _ _ => right

namespace Setup

/-- A socket is opened only for a protocol of the kind that is asked for. -/
theorem yields_openKind (kind : Kind) (protocol : Protocol) :
    (openKind kind protocol).Yields
      (fun socket => protocol.kind = kind ∧
        ∃ descriptor, socket = .live (.new descriptor protocol)) fun _ => True := by
  have checked : (Attempt.ofExcept (protocol.requireKind kind)).Yields
      (fun _ => protocol.kind = kind) fun _ => True := by
    refine Attempt.yields_ofExcept ?_ fun _ _ => trivial
    intro value passed
    unfold Protocol.requireKind at passed
    split at passed
    · assumption
    · cases passed
  refine checked.bind ?_
  intro _ right
  rw [Socket.openNew_eq]
  refine (Attempt.yields_ofCall fun _ => trivial).bind ?_
  intro descriptor _
  exact Attempt.yields_pure ⟨right, descriptor, rfl⟩

/-- A prepared socket has just been opened, whatever was written to it. -/
theorem yields_prepare (kind : Kind) (protocol : Protocol) (options : Options) :
    (prepare kind protocol options).Yields
      (fun socket => protocol.kind = kind ∧
        ∃ descriptor, socket = .live (.new descriptor protocol)) fun _ => True := by
  refine (yields_openKind kind protocol).bind ?_
  intro socket new
  exact (Attempt.yields_anything _).bind fun _ _ => Attempt.yields_pure new

theorem keeps_openKind (use : Use) (protocol : Protocol) :
    (openKind use.kind protocol).Yields use.Keeps fun _ => True := by
  refine (yields_openKind use.kind protocol).mono ?_
  rintro _ ⟨kind, descriptor, rfl⟩
  exact use.keeps_new descriptor kind

theorem keeps_prepare (use : Use) (protocol : Protocol) (options : Options) :
    (prepare use.kind protocol options).Yields use.Keeps fun _ => True := by
  refine (yields_prepare use.kind protocol options).mono ?_
  rintro _ ⟨kind, descriptor, rfl⟩
  exact use.keeps_new descriptor kind

/-- A new socket that takes one turn. -/
theorem keeps_step {attempt : Attempt Socket} {command : Command}
    {step : Socket → Program (Except Fault α × Socket)}
    (made : attempt.Yields use.Keeps fun _ => True) (offered : use.offers command = true)
    (turns : ∀ socket : Socket, socket.Turns command (step socket)) :
    (do
      let socket ← attempt
      let (_, after) ← Socket.orDiscard (step socket)
      return after : Attempt Socket).Yields use.Keeps fun _ => True := by
  refine made.bind ?_
  intro socket keeps
  refine (Socket.yields_orDiscard keeps offered (turns socket)).bind ?_
  intro result keeps'
  exact Attempt.yields_pure keeps'

theorem ServerBuilder.keeps_listenAfter (builder : ServerBuilder) {command : Command}
    {bind : Socket → Program (Except Fault Unit × Socket)}
    (offered : Use.server.offers command = true)
    (turns : ∀ socket : Socket, socket.Turns command (bind socket)) :
    (builder.listenAfter bind).Yields Use.server.Keeps fun _ => True := by
  refine (keeps_prepare .server builder.protocol builder.options).bind ?_
  intro socket keeps
  refine (Socket.yields_orDiscard keeps offered (turns socket)).bind ?_
  rintro ⟨⟨⟩, bound⟩ keeps'
  have listens : Use.server.offers (.listen builder.backlog) = true := rfl
  refine (Socket.yields_orDiscard keeps' listens (Socket.turns_listen builder.backlog)).bind ?_
  rintro ⟨⟨⟩, listener⟩ keeps''
  exact Attempt.yields_pure keeps''

end Setup

/-- A channel has the use and the socket that it is made of. -/
theorem Channel.yields_ofSocket (use : Use) (parts : LiveSocket) :
    (Channel.ofSocket use (.live parts)).Yields
      (fun channel => channel = ⟨use, .live parts, none⟩) fun fault => ¬fault.IsWrongState := by
  have tried : ((Socket.live parts).setNonblocking true).Yields (fun _ => True)
      fun fault => ¬fault.IsWrongState := by
    rw [Socket.setNonblocking_eq]
    refine (Attempt.yields_ofExcept_ok (Socket.require_anyLive parts "set_nonblocking")).bind ?_
    rintro parts rfl
    refine (Attempt.yields_ofCall fun _ => id).bind ?_
    intro flags _
    simp only [if_true]
    split
    · exact Attempt.yields_ofCall fun _ => id
    · exact Attempt.yields_pure trivial
  exact (Socket.yields_orDiscard_observe tried).bind fun _ _ => Attempt.yields_pure rfl

theorem Recipe.yields_make (recipe : Recipe) :
    recipe.make.Yields Owner.InRole fun _ => True := by
  have typed : ∀ {use : Use} {attempt : Attempt Socket},
      attempt.Yields use.Keeps (fun _ => True) →
      (Owner.typed use <$> attempt).Yields Owner.InRole fun _ => True := by
    intro use attempt yields
    refine Attempt.Yields.map (yields.mono ?_)
    rintro socket keeps _ ⟨⟩
    exact keeps
  cases recipe with
  | emptyHandle => exact Attempt.yields_pure (Owner.inRole_handle .empty)
  | handle protocol =>
      exact Attempt.Yields.map ((Attempt.yields_anything _).mono fun socket _ =>
        Owner.inRole_handle socket)
  | typed use protocol => exact typed (Setup.keeps_openKind use protocol)
  | channel use protocol =>
      refine (Setup.keeps_openKind use protocol).bind ?_
      intro socket keeps
      have wrapped : (Channel.ofSocket use socket).Yields
          (fun channel => channel = ⟨use, socket, none⟩) fun _ => True :=
        (Attempt.yields_anything _).bind fun _ _ => Attempt.yields_pure rfl
      refine wrapped.bind ?_
      rintro channel rfl
      refine Attempt.yields_pure ?_
      rintro _ ⟨⟩
      exact keeps
  | server builder host port =>
      exact typed (builder.keeps_listenAfter rfl fun _ => Socket.turns_bind host port)
  | serverAt builder endpoint =>
      have binds : (Command.bindEndpoint endpoint).Binds := trivial
      exact typed (builder.keeps_listenAfter rfl fun _ => Socket.turns_bindEndpoint binds endpoint)
  | stream builder => exact typed (Setup.keeps_prepare .stream _ _)
  | connected builder host port =>
      exact typed (Setup.keeps_step (Setup.keeps_prepare .stream _ _) rfl
        fun _ => Socket.turns_connect host port)
  | datagram builder host port =>
      exact typed (Setup.keeps_step (Setup.keeps_prepare .datagram _ _) rfl
        fun _ => Socket.turns_bind host port)

end Making

/-! ## Taken connections -/

/-- The socket of a connection that a listener has just taken. -/
def LiveSocket.connection (parts : LiveSocket) (descriptor : Descriptor) : Socket :=
  .live ⟨descriptor, parts.protocol, true, false, false, .connected⟩

variable {parts : LiveSocket}

theorem RawAddress.endpoint_fault {raw : RawAddress} {fault : Fault}
    (failed : raw.endpoint = .error fault) : ¬fault.IsWrongState := by
  unfold endpoint at failed
  dsimp only at failed
  repeat' split at failed
  all_goals cases failed
  all_goals exact id

/-- A listener takes connections of its protocol, and is always in the state for it. -/
theorem Socket.yields_takeConnection (listens : parts.stage = .listening) :
    (Socket.live parts).takeConnection.Yields
      (fun taken => ∀ connection peer, taken = .accepted connection peer →
        ∃ descriptor, connection = parts.connection descriptor)
      fun fault => ¬fault.IsWrongState := by
  have allowed : (Socket.live parts).require "accept" [.opened] = .ok parts := by
    simp [require, listens, Stage.state]
  rw [takeConnection_eq]
  refine (Attempt.yields_ofExcept_ok allowed).bind ?_
  rintro parts rfl
  rw [if_neg (not_not.mpr listens)]
  refine (Attempt.yields_request _).bind ?_
  intro reply _
  rcases reply with errno | ⟨descriptor, raw⟩
  · dsimp only
    split
    · exact Attempt.yields_pure fun _ _ taken => by cases taken
    · split
      · exact Attempt.yields_pure fun _ _ taken => by cases taken
      · exact Attempt.yields_throw id
  · dsimp only
    cases told : raw.endpoint with
    | ok peer =>
        refine Attempt.yields_pure ?_
        rintro _ _ ⟨⟩
        exact ⟨descriptor, rfl⟩
    | error fault =>
        exact (Attempt.yields_request _).bind fun _ _ =>
          Attempt.yields_throw (RawAddress.endpoint_fault told)

namespace Owner

variable {listener : Owner}

/-- A connection that a listener takes is used for its stream, unless the listener is a plain
handle. -/
theorem yields_ofConnection (listener : Owner) (connection : LiveSocket) :
    (listener.ofConnection (.live connection)).Yields
      (fun owner => owner.use? = listener.use?.map (fun _ => .stream) ∧
        owner.socket = .live connection) fun fault => ¬fault.IsWrongState := by
  cases listener with
  | handle socket => exact Attempt.yields_pure ⟨rfl, rfl⟩
  | typed use socket => exact Attempt.yields_pure ⟨rfl, rfl⟩
  | watchable channel =>
      refine Attempt.Yields.map ((Channel.yields_ofSocket .stream connection).mono ?_)
      rintro _ rfl
      exact ⟨rfl, rfl⟩

theorem yields_accept (live : listener.socket = .live parts) (listens : parts.stage = .listening) :
    listener.accept.Yields
      (fun taken => ∀ owner peer, taken = .accepted owner peer →
        owner.use? = listener.use?.map (fun _ => .stream) ∧
          ∃ descriptor, owner.socket = parts.connection descriptor)
      fun fault => ¬fault.IsWrongState := by
  have taken := (Socket.live parts).ensures_observe (Socket.yields_takeConnection listens)
  rw [← live] at taken
  refine Attempt.Yields.bind (Attempt.yields_ofProgram taken) ?_
  rintro ⟨outcome, socket⟩ right
  rcases outcome with fault | ⟨connection, peer⟩ | - | -
  · exact Attempt.yields_throw right
  · obtain ⟨descriptor, rfl⟩ := right connection peer rfl
    refine (listener.yields_ofConnection _).bind ?_
    rintro owner ⟨used, socket⟩
    refine Attempt.yields_pure ?_
    rintro _ _ ⟨⟩
    exact ⟨used, descriptor, socket⟩
  · exact Attempt.yields_pure fun _ _ taken => by cases taken
  · exact Attempt.yields_pure fun _ _ taken => by cases taken

/-- Whoever gives a connection listens, and the connection begins as that of the listener's
protocol. -/
theorem connection_of_runs_accept {connection : Owner} {peer : Endpoint} {state after : σ}
    (run : listener.accept.run.Runs answers state (.ok (.accepted connection peer)) after) :
    ∃ parts descriptor, listener.socket = .live parts ∧ parts.stage = .listening ∧
      connection.use? = listener.use?.map (fun _ => .stream) ∧
      connection.socket = parts.connection descriptor := by
  by_cases listens : listener.socket.isListening = true
  · cases live : listener.socket with
    | closed last =>
        rw [live] at listens
        cases listens
    | live parts =>
        rw [live] at listens
        have stage : parts.stage = .listening := of_decide_eq_true listens
        obtain ⟨used, descriptor, socket⟩ :=
          ((yields_accept live stage).of_runs run).1 _ rfl connection peer rfl
        exact ⟨parts, descriptor, rfl, stage, used, socket⟩
  · rw [Bool.not_eq_true] at listens
    simp only [accept, Socket.accept_of_not_listening listens] at run
    obtain ⟨impossible, -⟩ := run
    cases impossible

end Owner

end SocketReactor
