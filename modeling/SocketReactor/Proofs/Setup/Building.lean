import SocketReactor.Proofs.Setup.Following
import SocketReactor.Proofs.Setup.Quantities
import SocketReactor.Proofs.Setup.Scripts

/-!
# Building sockets

A builder opens a socket, carries out the plan that its setters have made, and gives the socket
out if no step has failed.  The first that fails is the failure of the whole, and the descriptor
is closed once.
-/

namespace SocketReactor

variable {α β : Type} {log : Log}

namespace Setup

/-- A socket of the right kind is opened, and the steps are carried out with its descriptor. -/
inductive Opens (kind : Kind) (protocol : Protocol) (steps : List Step)
    (post : Descriptor → α → Prop) : Log → Except Fault α → Prop where
  /-- The protocol is of another kind, and no call is made. -/
  | misfit (other : protocol.kind ≠ kind) :
      Opens kind protocol steps post [] (.error (.wrongKind protocol.text kind.name))
  | unopened (fits : protocol.kind = kind) (errno : Errno) :
      Opens kind protocol steps post
        [⟨.socket protocol.family protocol.kind protocol.number, .error errno⟩]
        (.error (.socketFailed errno protocol.text))
  | opened (fits : protocol.kind = kind) {descriptor : Descriptor} {log : Log}
      {outcome : Except Fault α}
      (ended : Ended (.new descriptor protocol) steps log (fault? outcome))
      (right : ∀ value, outcome = .ok value → post descriptor value) :
      Opens kind protocol steps post
        (⟨.socket protocol.family protocol.kind protocol.number, .ok descriptor⟩ :: log) outcome

section

variable {kind : Kind} {protocol : Protocol} {first second : List Step}

theorem Opens.bind {middle : Descriptor → α → Prop} {post : Descriptor → β → Prop}
    {attempt : Attempt α} {next : α → Attempt β}
    (head : ∀ log outcome, attempt.run.Makes log outcome →
      Opens kind protocol first middle log outcome)
    (rest : ∀ descriptor value, middle descriptor value →
      Follows (.new descriptor protocol) second (post descriptor) (next value))
    {outcome : Except Fault β} (makes : (attempt >>= next).run.Makes log outcome) :
    Opens kind protocol (first ++ second) post log outcome := by
  rcases Attempt.makes_bind.mp makes with ⟨fault, failed, rfl⟩ | ⟨value, front, behind, rfl, went,
    goes_on⟩
  · cases head _ _ failed with
    | misfit other => exact .misfit other
    | unopened fits errno => exact .unopened fits errno
    | opened fits ended right => exact .opened fits (ended.stop second) nofun
  · cases head _ _ went with
    | opened fits ended right =>
        obtain ⟨later, settled⟩ := rest _ value (right value rfl) _ _ goes_on
        exact .opened fits (ended.append later) settled

theorem Opens.mono {post weaker : Descriptor → α → Prop} {outcome : Except Fault α}
    (opens : Opens kind protocol first post log outcome)
    (follows : ∀ descriptor value, post descriptor value → weaker descriptor value) :
    Opens kind protocol first weaker log outcome := by
  cases opens with
  | misfit other => exact .misfit other
  | unopened fits errno => exact .unopened fits errno
  | opened fits ended right => exact .opened fits ended fun _ given => follows _ _ (right _ given)

theorem opens_openKind {outcome : Except Fault Socket}
    (makes : (openKind kind protocol).run.Makes log outcome) :
    Opens kind protocol [] (fun descriptor socket => socket = .live (.new descriptor protocol)) log
      outcome := by
  rcases Attempt.makes_ofExcept_bind makes with ⟨fault, misfit, rfl, rfl⟩ | ⟨⟨⟩, fits, makes⟩
  · unfold Protocol.requireKind at misfit
    split at misfit
    · cases misfit
    · cases misfit
      exact .misfit ‹_›
  · have fits : protocol.kind = kind := by
      unfold Protocol.requireKind at fits
      split at fits
      · assumption
      · cases fits
    rw [Socket.openNew_eq] at makes
    obtain ⟨reply, rest, rfl, went⟩ := makes
    cases reply with
    | ok descriptor =>
        obtain ⟨rfl, rfl⟩ := went
        refine .opened fits (.through .done) ?_
        rintro socket ⟨⟩
        rfl
    | error errno =>
        obtain ⟨rfl, rfl⟩ := went
        exact .unopened fits errno

def Options.steps (options : Options) : List Step :=
  options.writes.map .write ++ if options.nonblocking then [.unblock] else []

theorem opens_prepare (options : Options) {outcome : Except Fault Socket}
    (makes : (prepare kind protocol options).run.Makes log outcome) :
    Opens kind protocol options.steps
      (fun descriptor socket => socket = .live (.new descriptor protocol)) log outcome := by
  have written : ∀ descriptor socket, socket = Socket.live (.new descriptor protocol) →
      Follows (.new descriptor protocol) options.steps
        (fun given => given = Socket.live (.new descriptor protocol)) (do
          let _ ← Socket.orDiscard (socket.observe do
            writeAll socket.descriptor options.writes
            if options.nonblocking then socket.setNonblocking true)
          return socket) := by
    rintro descriptor socket rfl
    have tries : Tries (.new descriptor protocol) options.steps (do
        writeAll descriptor options.writes
        if options.nonblocking then (Socket.live (.new descriptor protocol)).setNonblocking true
          : Attempt Unit) := by
      refine (tries_writeAll options.writes).bind fun _ => ?_
      split
      · exact tries_unblock _
      · exact tries_pure ()
    rw [← List.append_nil options.steps]
    exact (does_observe tries).follows.bind fun _ _ => follows_pure rfl
  exact Opens.bind (fun _ _ => opens_openKind) written makes

end

/-! ## Jobs -/

/-- What is to be built: a protocol, the setters that the builder is given, and what is asked of it
at the end. -/
inductive Job where
  | server (protocol : Protocol) (setters : List ServerBuilder.Setter) (place : Place)
  /-- A stream, that is connected if there is a host and port. -/
  | stream (protocol : Protocol) (setters : List StreamBuilder.Setter)
      (peer : Option (String × UInt16))
  | datagram (protocol : Protocol) (setters : List DatagramBuilder.Setter) (host : String)
      (port : UInt16)

namespace Job

def attempt : Job → Attempt Socket
  | server protocol setters (.named host port) =>
      (ServerBuilder.made ⟨.usual protocol, setters⟩).bind host port
  | server protocol setters (.known endpoint) =>
      (ServerBuilder.made ⟨.usual protocol, setters⟩).bindEndpoint endpoint
  | stream protocol setters (some (host, port)) =>
      (StreamBuilder.made ⟨.usual protocol, setters⟩).connect host port
  | stream protocol setters none => (StreamBuilder.made ⟨.usual protocol, setters⟩).build
  | datagram protocol setters host port =>
      (DatagramBuilder.made ⟨.usual protocol, setters⟩).bind host port

def kind : Job → Kind
  | server _ _ _ | stream _ _ _ => .stream
  | datagram _ _ _ _ => .datagram

def protocol : Job → Protocol
  | server protocol _ _ | stream protocol _ _ | datagram protocol _ _ _ => protocol

def options : Job → Options
  | server protocol setters _ => (ServerBuilder.told ⟨.usual protocol, setters⟩).options
  | stream protocol setters _ => (StreamBuilder.told ⟨.usual protocol, setters⟩).options
  | datagram protocol setters _ _ => (DatagramBuilder.told ⟨.usual protocol, setters⟩).options

def ending : Job → List Step
  | server protocol setters place =>
      [.bind place, .listen (ServerBuilder.told ⟨.usual protocol, setters⟩).backlog]
  | stream _ _ (some (host, port)) => [.connect host port]
  | stream _ _ none => []
  | datagram _ _ host port => [.bind (.named host port)]

/-- All that is done to the new socket. -/
def plan (job : Job) : List Step := job.options.steps ++ job.ending

def Settled (job : Job) (descriptor : Descriptor) (socket : Socket) : Prop :=
  ∃ settled : LiveSocket, socket = .live settled ∧
    match job with
    | server protocol _ _ =>
        settled = { LiveSocket.new descriptor protocol with bound := true, stage := .listening }
    | stream protocol _ (some _) => Connects descriptor protocol settled
    | stream protocol _ none => settled = .new descriptor protocol
    | datagram protocol _ _ _ =>
        settled = { LiveSocket.new descriptor protocol with bound := true }

/-- A job opens a socket of its kind and carries out its plan. -/
theorem opens (job : Job) {outcome : Except Fault Socket}
    (makes : job.attempt.run.Makes log outcome) :
    Opens job.kind job.protocol job.plan job.Settled log outcome := by
  cases job with
  | server protocol setters place =>
      -- Both ways to bind are a place, so that one plan serves for them.
      have listens : (ServerBuilder.listenAfter (.told ⟨.usual protocol, setters⟩)
          fun socket => place.bind socket).run.Makes log outcome := by
        rw [← ServerBuilder.made_eq_told]
        cases place <;> exact makes
      refine Opens.bind (fun _ _ => opens_prepare _) ?_ listens
      rintro descriptor socket rfl
      refine (does_bind place).follows.bind ?_
      rintro ⟨⟨⟩, bound⟩ ⟨settled, rfl, rfl⟩
      refine (does_listen _).follows.bind ?_
      rintro ⟨⟨⟩, listener⟩ listening
      exact follows_pure listening
  | stream protocol setters peer =>
      cases peer with
      | none =>
          rw [attempt, StreamBuilder.made_eq_told] at makes
          rw [plan, ending, List.append_nil]
          exact (opens_prepare _ makes).mono fun _ _ new => ⟨_, new, rfl⟩
      | some peer =>
          obtain ⟨host, port⟩ := peer
          rw [attempt, StreamBuilder.made_eq_told] at makes
          refine Opens.bind (fun _ _ => opens_prepare _) ?_ makes
          rintro descriptor socket rfl
          refine (does_connect host port).follows.bind ?_
          rintro ⟨connection, stream⟩ connects
          exact follows_pure connects
  | datagram protocol setters host port =>
      rw [attempt, DatagramBuilder.made_eq_told] at makes
      refine Opens.bind (fun _ _ => opens_prepare _) ?_ makes
      rintro descriptor socket rfl
      refine (does_bind (.named host port)).follows.bind ?_
      rintro ⟨⟨⟩, bound⟩ settled
      exact follows_pure settled

end Job

/-! ## What is closed -/

/-- The exchange neither gets a descriptor nor closes one. -/
def Steady (exchange : Exchange) : Prop := exchange.closed? = none ∧ exchange.given = []

variable {parts : LiveSocket} {end? : Option Fault}

theorem Place.Found.steady {place : Place} {outcome : Except Fault Endpoint}
    (found : place.Found parts log outcome) : ∀ exchange ∈ log, Steady exchange := by
  cases found with
  | known | homeless => exact List.forall_mem_nil _
  | unresolved known asked | resolved known asked =>
      rcases Lookup.asks_of_makes asked with rfl | ⟨reply, rfl⟩
      · exact List.forall_mem_nil _
      · exact List.forall_mem_singleton.mpr ⟨rfl, rfl⟩

/-- No step gets a descriptor or closes one. -/
theorem Step.Goes.steady {step : Step} (goes : step.Goes parts log end?) :
    ∀ exchange ∈ log, Steady exchange := by
  have append : ∀ {front : Log} {exchange : Exchange}, (∀ other ∈ front, Steady other) →
      Steady exchange → ∀ other ∈ front ++ [exchange], Steady other := by
    intro front exchange before here
    exact List.forall_mem_append.mpr ⟨before, List.forall_mem_singleton.mpr here⟩
  cases goes with
  | written write | unwritten write =>
      refine List.forall_mem_singleton.mpr ?_
      cases write <;> exact ⟨rfl, rfl⟩
  | flagsUnread | unblockedBefore | listening | deaf =>
      exact List.forall_mem_singleton.mpr ⟨rfl, rfl⟩
  | unblocked | flagsUnwritten =>
      exact append (List.forall_mem_singleton.mpr ⟨rfl, rfl⟩) ⟨rfl, rfl⟩
  | placeless found | peerless found => exact found.steady
  | bound found | unbound found | begun found | unconnected found =>
      exact append found.steady ⟨rfl, rfl⟩

theorem Carried.steady {steps : List Step} (carried : Carried parts steps log end?) :
    ∀ exchange ∈ log, Steady exchange := by
  induction carried with
  | done => exact List.forall_mem_nil _
  | failed goes => exact goes.steady
  | next goes _ ih => exact List.forall_mem_append.mpr ⟨goes.steady, ih⟩

theorem Carried.closes {steps : List Step} (carried : Carried parts steps log end?) :
    log.filterMap Exchange.closed? = [] ∧ log.flatMap Exchange.given = [] :=
  ⟨List.filterMap_eq_nil_iff.mpr fun exchange mem => (carried.steady exchange mem).1,
    List.flatMap_eq_nil_iff.mpr fun exchange mem => (carried.steady exchange mem).2⟩

/-- What has been got is closed once after a failure, and is the socket's otherwise. -/
theorem Opens.balanced {kind : Kind} {protocol : Protocol} {steps : List Step}
    {post : Descriptor → Socket → Prop} {outcome : Except Fault Socket}
    (opens : Opens kind protocol steps post log outcome)
    (owns : ∀ descriptor socket, post descriptor socket → socket.owned? = some descriptor) :
    (∀ socket, outcome = .ok socket → log.filterMap Exchange.closed? = [] ∧
      log.flatMap Exchange.given = socket.owned?.toList) ∧
    ∀ fault, outcome = .error fault →
      log.filterMap Exchange.closed? = log.flatMap Exchange.given := by
  cases opens with
  | misfit | unopened => exact ⟨by rintro _ ⟨⟩, fun _ _ => rfl⟩
  | @opened fits descriptor log outcome ended right =>
      cases outcome with
      | ok socket =>
          obtain ⟨carried⟩ := ended
          obtain ⟨closes, gives⟩ := carried.closes
          refine ⟨?_, by rintro _ ⟨⟩⟩
          rintro given ⟨⟩
          have owned := owns descriptor socket (right socket rfl)
          exact ⟨closes, by simp [gives, owned, Exchange.given]⟩
      | error fault =>
          obtain ⟨⟩ | ⟨carried, reply⟩ := ended
          obtain ⟨closes, gives⟩ := carried.closes
          refine ⟨by rintro _ ⟨⟩, fun _ _ => ?_⟩
          rw [List.filterMap_cons_none rfl, List.filterMap_append, closes, List.flatMap_cons,
            List.flatMap_append, gives]
          rfl

theorem Job.Settled.owned {job : Job} {descriptor : Descriptor} {socket : Socket}
    (settled : job.Settled descriptor socket) : socket.owned? = some descriptor := by
  obtain ⟨parts, rfl, made⟩ := settled
  cases job with
  | server => exact congrArg (fun parts => some parts.descriptor) made
  | datagram => exact congrArg (fun parts => some parts.descriptor) made
  | stream protocol setters peer =>
      cases peer with
      | none => exact congrArg (fun parts => some parts.descriptor) made
      | some peer =>
          obtain ⟨stage, -, rfl⟩ := made
          rfl

/-- Whatever the host replies, a job opens a socket, writes the options that its setters have asked
for last, each once and no others, and then binds or connects the socket, all up to the first step
that fails.  The failure is that of the step, and the descriptor is closed once after it; else the
socket has it.  The number that is written is the number that is asked for if that is a limit on
waiting or has a sign bit to spare, and is another number else. -/
theorem built_sockets_follow_plan (job : Job) {answers : Answering Log} (records : answers.Records)
    {outcome : Except Fault Socket} {after : Log}
    (run : job.attempt.run.Runs answers log outcome after) :
    (∃ made, after = log ++ made ∧
      Opens job.kind job.protocol job.plan job.Settled made outcome ∧
      (∀ socket, outcome = .ok socket → made.filterMap Exchange.closed? = [] ∧
        made.flatMap Exchange.given = socket.owned?.toList) ∧
      ∀ fault, outcome = .error fault →
        made.filterMap Exchange.closed? = made.flatMap Exchange.given) ∧
    (job.options.writes.map OptionWrite.name).Nodup ∧
    (∀ write, write ∈ job.options.writes ↔ ∃ quantity, job.options.Asks write quantity) ∧
    ∀ write quantity, job.options.Asks write quantity →
      (write.number = quantity ↔ write.IsTime ∨ quantity < 2 ^ 31) := by
  obtain ⟨made, rfl, makes⟩ := Program.makes_of_runs records run
  have opens := job.opens makes
  obtain ⟨keeps, closes⟩ := opens.balanced fun _ _ settled => settled.owned
  exact ⟨⟨made, rfl, opens, keeps, closes⟩, job.options.nodup_names,
    fun _ => Options.mem_writes, fun _ _ asks => Options.number_of_asks asks⟩

def takenReply : (call : Call) → Option call.Reply
  | .bind _ _ => some (.error .addressInUse)
  | .setIntOption _ _ _ => some (.ok ())
  | call => obligingReply [] call

def takenHost : Program.Machine Log := fun call log =>
  (takenReply call).map fun reply => (reply, log ++ [⟨call, reply⟩])

theorem records_takenHost : (Answering.ofMachine takenHost).Records := by
  intro call log reply after answered
  obtain ⟨given, -, same⟩ := Option.map_eq_some_iff.mp answered
  cases same
  rfl

/-- A socket of messages that shall have 4096 octets more than four gibibytes for receiving. -/
def greedyJob : Job :=
  .datagram .udp4 [.buffers ⟨.usual, [.receive 4294971392]⟩] "127.0.0.1" 80

/-- The buffer is to have 4096 octets in all, and after the failure the descriptor is closed. -/
theorem greedy_socket_is_cut_and_closed :
    ∃ log, greedyJob.attempt.run.run takenHost [] =
        some (.error (.bindFailed .addressInUse "inet4://127.0.0.1:80"), log) ∧
      log.filterMap Exchange.closed? = log.flatMap Exchange.given ∧ log.length = 4 ∧
      ∃ write ∈ greedyJob.options.writes, greedyJob.options.Asks write 4294971392 ∧
        write.number = 4096 ∧ write.number ≠ 4294971392 := by
  have plays : (greedyJob.attempt.run.run takenHost []).map
      (fun played => (played.1, played.2.length)) =
      some (.error (.bindFailed .addressInUse "inet4://127.0.0.1:80"), 4) := by
    decide +kernel
  obtain ⟨⟨outcome, log⟩, played, same⟩ := Option.map_eq_some_iff.mp plays
  obtain ⟨rfl, length⟩ := Prod.mk.inj same
  obtain ⟨⟨made, rfl, -, -, closes⟩, -, written, cuts⟩ :=
    built_sockets_follow_plan greedyJob records_takenHost (Program.runs_ofMachine.mpr played)
  have asks : greedyJob.options.Asks (.size .receiveBuffer 4294971392) 4294971392 :=
    .receiveBuffer rfl
  refine ⟨_, played, closes _ rfl, length, _, (written _).mpr ⟨_, asks⟩, asks, by decide, ?_⟩
  intro uncut
  exact absurd ((cuts _ _ asks).mp uncut) (by simp [OptionWrite.IsTime, OptionWrite.size])

end Setup

end SocketReactor
