import SocketReactor.Session.Time

/-!
# Tasks of a session

What steps are made of: making and asking sockets, naming keys and selectors, and polling,
each with the value that an answer shows.
-/

namespace SocketReactor.Session

namespace Task

def label (socket : Socket) (port : UInt16) : Task (Option String) := do
  match socket.protocol? with
  | none => return none
  | some protocol => do
      let (label, after) := (← get).seenPorts.label ⟨protocol.family, protocol.kind, port⟩
      modify fun session => { session with seenPorts := after }
      return label

def endpointText (socket : Socket) (endpoint : Endpoint) : Task String := do
  let kind := (socket.protocol?.map Protocol.kind).getD .stream
  let (text, after) := (← get).seenPorts.endpointText kind endpoint
  modify fun session => { session with seenPorts := after }
  return text

def made (name : String) : Task Value := do
  return .made (View.ofSocket (← Task.owner name).socket)

def make (name : String) (recipe : Recipe) : Task Value := do
  Task.ofReactor fun reactor => reactor.make name recipe
  Task.made name

def value (socket : Socket) : Reply → Task Value
  | .nothing => return .nothing
  | .truth value => return .truth value
  | .connection value => return .connection value
  | .sent outcome => return .sent outcome
  | .received outcome => return .received outcome
  | .message .wouldBlock => return .message .wouldBlock
  | .message .peerClosed => return .message .peerClosed
  | .message (.done (data, sender)) => do
      return .message (.done (data, ← Task.endpointText socket sender))
  | .octets data => return .octets data
  | .count number => return .number number
  | .endpoint endpoint => do return .text (← Task.endpointText socket endpoint)
  | .port port => do return .port (← Task.label socket port)
  | .quantity value => return .number value.toNat
  | .seconds value => return .numberOrNone (value.map UInt32.toNat)
  | .pending errno => return .errno errno

def reply (name : String) (command : Command) : Task Reply :=
  Task.ofReactor fun reactor => reactor.ask name .own command

def ask (name : String) (command : Command) : Task Value := do
  let socket := (← Task.owner name).socket
  Task.value socket (← Task.reply name command)

def accept (listener name : String) : Task Value := do
  let socket := (← Task.owner listener).socket
  match ← Task.ofReactor fun reactor => reactor.accept listener .own name with
  | .accepted () peer => do
      let text ← Task.endpointText socket peer
      return .accepted (some (text, View.ofSocket (← Task.owner name).socket))
  | .wouldBlock => return .accepted none
  | .interrupted => return .interrupted

def fillOctet : UInt8 := 0x78

/-- The octets that filling sends at once, and that draining receives at once at most. -/
def blockSize : Nat := 65536

/-- Sends block after block until the socket would have to wait, at most `blocks` times. -/
def fill (name : String) (block : List UInt8) : Nat → Task Value
  | 0 => return .nothing
  | blocks + 1 => do
      match ← Task.reply name (.send block) with
      | .sent .wouldBlock => return .sent .wouldBlock
      | _ => fill name block blocks

/-- Receives until nothing comes or the peer has ended, at most `blocks` times. -/
def drain (name : String) (foreign : Nat) : Nat → Task Value
  | 0 => return .drained false foreign
  | blocks + 1 => do
      match ← Task.reply name (.receive blockSize) with
      | .received (.done data) => drain name (foreign + data.countP (· ≠ fillOctet)) blocks
      | .received .peerClosed => return .drained true foreign
      | _ => return .drained false foreign

def manyBlocks : Nat := 65536

/-- Gives a key a name. The value is the name that the key is shown under. -/
def nameKey (name : String) (id : KeyId) : Task Value := do
  modify fun session => session.nameKey name id
  return .name ((← get).nameOf? id)

def nameSelector (name : String) (id : Nat) : Task Unit := do
  let older := (← get).selectorNames.get? name
  modify fun session => { session with selectorNames := session.selectorNames.insert name id }
  if let some older := older then Task.release older

def names (id : Nat) (serials : List Nat) : Task (List (Option String)) := do
  let session ← get
  return serials.map fun serial => session.nameOf? ⟨id, serial⟩

def byToken (selector : Selector) (serials : List Nat) : List Nat :=
  let token := fun serial => (selector.key? serial).map Key.token
  serials.mergeSort fun first second => (token first).getD 0 ≤ (token second).getD 0

def pollValue (id : Nat) (limit : Option Duration) (countOnly : Bool) : Task Value := do
  let (selected, silent) ← Task.pollThrough id limit
  let timed := limit.filter fun limit => limit.totalNanoseconds ≠ 0
  let timedOut := timed.map fun _ => silent
  if countOnly then return .readyCount selected.length timedOut
  else do
    let session ← get
    let selector ← Task.selectorAt id
    return .ready ((byToken selector selected).map fun serial =>
      (session.nameOf? ⟨id, serial⟩, ((selector.key? serial).map Key.ready).getD .none)) timedOut

/-- Polls several times without waiting; gives the keys that any poll has found. -/
def pollRepeatedly (id : Nat) (found : List Nat) : Nat → Task (List Nat)
  | 0 => return found
  | times + 1 => do
      let selected ← Task.ofFaulty fun reactor =>
        reactor.onSelector id (.error .notOpen) (·.poll (some (.ofMicroseconds 0)))
      pollRepeatedly id (found ++ selected.filter (· ∉ found)) times

end Task

end SocketReactor.Session
