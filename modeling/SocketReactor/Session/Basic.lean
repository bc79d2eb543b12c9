import SocketReactor.Reactor.Sockets
import SocketReactor.Session.Answer
import SocketReactor.Session.Step

/-!
# Sessions

The state of a session: a reactor, the names of selectors and keys, the ports that were
saved or shown, and what will happen to selectors after a while. A `Task` is a computation
on that state that may be refused; what it has changed before stays changed.
-/

namespace SocketReactor

structure Session.Later where
  /-- How many microseconds are left. -/
  due : Nat
  selector : Nat
  alarm : Session.Alarm
  deriving DecidableEq, Repr

structure Session where
  reactor : Reactor
  selectorNames : Table String Nat
  /-- The names of keys, the oldest name first. -/
  keyNames : List (String × KeyId)
  savedPorts : Table String UInt16
  seenPorts : Session.SeenPorts
  /-- What is still to happen, the nearest first. -/
  laters : List Session.Later
  deriving DecidableEq

namespace Session

def start : Session := ⟨∅, ∅, [], ∅, [], []⟩

instance : Inhabited Session := ⟨start⟩

abbrev Task := ExceptT Refusal (StateT Session Program)

namespace Task

def runOn {α : Type} (task : Task α) (session : Session) :
    Program (Except Refusal α × Session) := task.run.run session

def ofReactor {α : Type} (step : Reactor → Program (Except Refusal α × Reactor)) : Task α :=
  ExceptT.mk fun session => do
    let (outcome, after) ← step session.reactor
    return (outcome, { session with reactor := after })

/-- The task that makes a step of the reactor which may end with a fault. -/
def ofFaulty {α : Type} (step : Reactor → Program (Except Fault α × Reactor)) : Task α :=
  ofReactor fun reactor => do
    let (outcome, after) ← step reactor
    return (outcome.mapError .fault, after)

def onReactor (step : Reactor → Program Reactor) : Task Unit :=
  ofReactor fun reactor => do
    let after ← step reactor
    return (.ok (), after)

def ofProgram {α : Type} (program : Program α) : Task α :=
  ExceptT.lift (StateT.lift program)

def ofExcept {α : Type} (outcome : Except Fault α) : Task α :=
  ExceptT.mk (pure (outcome.mapError .fault))

def find {α : Type} (noun : Noun) (name : String) (search : Session → Option α) : Task α := do
  match search (← get) with
  | some found => return found
  | none => throw (.unknown noun name)

end Task

def keyNamed? (session : Session) (name : String) : Option KeyId :=
  (session.keyNames.find? (·.1 = name)).map Prod.snd

def nameOf? (session : Session) (id : KeyId) : Option String :=
  (session.keyNames.find? (·.2 = id)).map Prod.fst

/-- Gives a key a name, which is taken away from the key that had it. -/
def nameKey (session : Session) (name : String) (id : KeyId) : Session :=
  { session with keyNames := session.keyNames.filter (·.1 ≠ name) ++ [(name, id)] }

def view? (session : Session) (name : String) : Option View :=
  (session.reactor.owner? name).map fun owner => .ofSocket owner.socket

/-- Whether a name or something that is still to happen holds a selector. -/
def holds (session : Session) (id : Nat) : Bool :=
  session.selectorNames.entries.any (·.2 = id) || session.laters.any (·.selector = id)

def Task.selector (name : String) : Task Nat :=
  Task.find .selector name (·.selectorNames.get? name)

/-- The selector with a number, which a name or something that is to happen holds. -/
def Task.selectorAt (id : Nat) : Task Selector := do
  return ((← get).reactor.selector? id).getD default

def Task.key (name : String) : Task KeyId := Task.find .key name (·.keyNamed? name)

def Task.keyAt (name : String) : Task (KeyId × Key) := do
  let id ← Task.key name
  let key ← Task.find .key name (·.reactor.key? id)
  return (id, key)

def Task.owner (name : String) : Task Owner := Task.find .socket name (·.reactor.owner? name)

def Task.port : PortRef → Task UInt16
  | .number port => return port
  | .saved name => Task.find .port name (·.savedPorts.get? name)

def Task.place (place : Place) : Task Endpoint := do
  let address ← Task.ofExcept (Address.parse place.address)
  let endpoint : Endpoint ← match place.port with
    | some port => pure (.new address (← Task.port port))
    | none => pure (.unset address)
  return match place.scope with
    | some scope => endpoint.withScope scope
    | none => endpoint

def Task.release (id : Nat) : Task Unit := do
  if !(← get).holds id then
    Task.onReactor fun reactor => reactor.stepSelector id Selector.finish

end Session

end SocketReactor
