import SocketReactor.Proofs.Host.Exchanges
import SocketReactor.Proofs.Setup.Connecting
import SocketReactor.Proofs.Socket.Refinement

/-!
# Steps of building a socket

What is done to a new socket, as data: options are written, waiting is turned off, the socket is
bound, told to listen, or connected.  `Step.Goes` says for each step which calls it makes and how
it fails, and `Carried` that steps are carried out one after the other up to the first that fails.
-/

namespace SocketReactor

variable {α β : Type} {log : Log}

def fault? : Except Fault α → Option Fault
  | .ok _ => none
  | .error fault => some fault

def OptionWrite.exchange (descriptor : Descriptor) (outcome : Except Errno Unit) :
    OptionWrite → Exchange
  | int option value => ⟨.setIntOption descriptor option value, outcome⟩
  | time option value => ⟨.setTimeOption descriptor option value, outcome⟩
  | linger value => ⟨.setLingerOption descriptor value, outcome⟩

def LiveSocket.suited (parts : LiveSocket) (endpoint : Endpoint) : Except Fault Endpoint :=
  (parts.checkFamily endpoint).map fun () => endpoint

theorem Lookup.asks_of_addressesOf {host : String} {family : Option Family}
    {outcome : Except Fault (List Address)}
    (makes : (Lookup.addressesOf host family).run.Makes log outcome) :
    log = [] ∨ ∃ reply, log = [⟨.lookup host, reply⟩] := by
  unfold addressesOf at makes
  split at makes
  · exact .inl makes.1
  · split at makes
    · exact .inl makes.1
    · split at makes
      · exact .inl makes.1
      · obtain ⟨reply, rest, rfl, given⟩ := makes
        have silent : rest = [] := by
          cases reply <;> exact given.1
        exact .inr ⟨reply, by rw [silent]⟩

/-- A host is asked for at most once. -/
theorem Lookup.asks_of_makes {host : String} {family : Family} {outcome : Except Fault Address}
    (makes : (Lookup.resolve host family).run.Makes log outcome) :
    log = [] ∨ ∃ reply, log = [⟨.lookup host, reply⟩] := by
  unfold resolve at makes
  split at makes
  · exact .inl makes.1
  · split at makes
    · exact .inl makes.1
    · split at makes
      · exact .inl makes.1
      · rcases Attempt.makes_bind.mp makes with ⟨fault, asked, -⟩ | ⟨found, front, rest, rfl, asked,
          given⟩
        · exact asks_of_addressesOf asked
        · have silent : rest = [] := by
            cases found <;> exact given.1
          rw [silent, List.append_nil]
          exact asks_of_addressesOf asked

namespace Setup

inductive Place where
  | named (host : String) (port : UInt16)
  | known (endpoint : Endpoint)

inductive Step where
  | write (write : OptionWrite)
  /-- The calls on the socket shall return instead of waiting. -/
  | unblock
  | bind (place : Place)
  | listen (backlog : Int32)
  | connect (host : String) (port : UInt16)

/-- How a place comes to an endpoint: what is asked of the name service, and the outcome. -/
inductive Place.Found (parts : LiveSocket) : Place → Log → Except Fault Endpoint → Prop where
  | known (endpoint : Endpoint) : Found parts (.known endpoint) [] (parts.suited endpoint)
  /-- The socket is of a family without addresses. -/
  | homeless {host : String} {port : UInt16} {fault : Fault}
      (homeless : parts.addressFamily = .error fault) :
      Found parts (.named host port) [] (.error fault)
  | unresolved {host : String} {port : UInt16} {family : Family} {fault : Fault} {log : Log}
      (known : parts.addressFamily = .ok family)
      (asked : (Lookup.resolve host family).run.Makes log (.error fault)) :
      Found parts (.named host port) log (.error fault)
  | resolved {host : String} {port : UInt16} {family : Family} {address : Address} {log : Log}
      (known : parts.addressFamily = .ok family)
      (asked : (Lookup.resolve host family).run.Makes log (.ok address)) :
      Found parts (.named host port) log (parts.suited (.new address port))

/-- The calls that a step makes on a live socket, with the replies, and the fault of the step. -/
inductive Step.Goes (parts : LiveSocket) : Step → Log → Option Fault → Prop where
  | written (write : OptionWrite) :
      Goes parts (.write write) [write.exchange parts.descriptor (.ok ())] none
  | unwritten (write : OptionWrite) (errno : Errno) :
      Goes parts (.write write) [write.exchange parts.descriptor (.error errno)]
        (some (.setOptionFailed errno write.name))
  | flagsUnread (errno : Errno) :
      Goes parts .unblock [⟨.statusFlags parts.descriptor, .error errno⟩]
        (some (.getOptionFailed errno Handle.nonblockingName))
  | unblockedBefore {flags : UInt32} (set : flags ||| Handle.nonblockingFlag = flags) :
      Goes parts .unblock [⟨.statusFlags parts.descriptor, .ok flags⟩] none
  | unblocked {flags : UInt32} (unset : flags ||| Handle.nonblockingFlag ≠ flags) :
      Goes parts .unblock
        [⟨.statusFlags parts.descriptor, .ok flags⟩,
          ⟨.setStatusFlags parts.descriptor (flags ||| Handle.nonblockingFlag), .ok ()⟩] none
  | flagsUnwritten {flags : UInt32} (unset : flags ||| Handle.nonblockingFlag ≠ flags)
      (errno : Errno) :
      Goes parts .unblock
        [⟨.statusFlags parts.descriptor, .ok flags⟩,
          ⟨.setStatusFlags parts.descriptor (flags ||| Handle.nonblockingFlag), .error errno⟩]
        (some (.setOptionFailed errno Handle.nonblockingName))
  | placeless {place : Place} {log : Log} {fault : Fault}
      (found : place.Found parts log (.error fault)) : Goes parts (.bind place) log (some fault)
  | bound {place : Place} {log : Log} {endpoint : Endpoint}
      (found : place.Found parts log (.ok endpoint)) :
      Goes parts (.bind place) (log ++ [⟨.bind parts.descriptor endpoint.wire, .ok ()⟩]) none
  | unbound {place : Place} {log : Log} {endpoint : Endpoint}
      (found : place.Found parts log (.ok endpoint)) (errno : Errno) :
      Goes parts (.bind place) (log ++ [⟨.bind parts.descriptor endpoint.wire, .error errno⟩])
        (some (.bindFailed errno endpoint.toText))
  | listening (backlog : Int32) :
      Goes parts (.listen backlog) [⟨.listen parts.descriptor backlog, .ok ()⟩] none
  | deaf (backlog : Int32) (errno : Errno) :
      Goes parts (.listen backlog) [⟨.listen parts.descriptor backlog, .error errno⟩]
        (some (.listenFailed errno backlog))
  | peerless {host : String} {port : UInt16} {log : Log} {fault : Fault}
      (found : (Place.named host port).Found parts log (.error fault)) :
      Goes parts (.connect host port) log (some fault)
  | begun {host : String} {port : UInt16} {log : Log} {endpoint : Endpoint}
      {reply : Except Errno Unit} {connection : Connection} {stage : Stage}
      (found : (Place.named host port).Found parts log (.ok endpoint))
      (begun : endpoint.begun? reply = some (connection, stage)) :
      Goes parts (.connect host port)
        (log ++ [⟨.connect parts.descriptor endpoint.wire, reply⟩]) none
  | unconnected {host : String} {port : UInt16} {log : Log} {endpoint : Endpoint} {errno : Errno}
      (found : (Place.named host port).Found parts log (.ok endpoint))
      (refused : endpoint.begun? (.error errno) = none) :
      Goes parts (.connect host port)
        (log ++ [⟨.connect parts.descriptor endpoint.wire, .error errno⟩])
        (some (.connectFailed errno endpoint.toText))

/-- The steps are carried out one after the other, all of them or up to the first that fails. -/
inductive Carried (parts : LiveSocket) : List Step → Log → Option Fault → Prop where
  | done : Carried parts [] [] none
  | failed {step : Step} {rest : List Step} {log : Log} {fault : Fault}
      (goes : step.Goes parts log (some fault)) : Carried parts (step :: rest) log (some fault)
  | next {step : Step} {rest : List Step} {front behind : Log} {fault : Option Fault}
      (goes : step.Goes parts front none) (carried : Carried parts rest behind fault) :
      Carried parts (step :: rest) (front ++ behind) fault

variable {parts : LiveSocket} {fault : Fault} {end? : Option Fault} {front behind : Log}
  {first second : List Step}

theorem Carried.append (carried : Carried parts first front none)
    (rest : Carried parts second behind end?) :
    Carried parts (first ++ second) (front ++ behind) end? := by
  generalize through : none = none? at carried
  induction carried with
  | done => exact rest
  | failed => cases through
  | next goes _ ih =>
      rw [List.append_assoc]
      exact .next goes (ih through)

theorem Carried.stop (carried : Carried parts first log (some fault)) (second : List Step) :
    Carried parts (first ++ second) log (some fault) := by
  generalize stopped : some fault = end? at carried
  induction carried with
  | done => cases stopped
  | failed goes =>
      cases stopped
      exact .failed goes
  | next goes _ ih =>
      subst stopped
      exact .next goes (ih rfl)

theorem Carried.single {step : Step} (goes : step.Goes parts log end?) :
    Carried parts [step] log end? := by
  cases end? with
  | none => exact List.append_nil log ▸ .next goes .done
  | some fault => exact .failed goes

end Setup

end SocketReactor
