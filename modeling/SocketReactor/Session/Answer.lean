import SocketReactor.Reactor.Basic
import SocketReactor.Session.Labels

/-!
# Answers of a session

Every step is answered by a value or by the reason why there is none, and by a view of the
socket that it was about.
-/

namespace SocketReactor.Session

structure View where
  state : SocketState
  /-- Whether it owns a descriptor. -/
  valid : Bool
  /-- Whether its calls name a descriptor. -/
  present : Bool
  listening : Bool
  connected : Bool
  connecting : Bool
  readShut : Bool
  writeShut : Bool
  deriving DecidableEq, Repr

namespace View

def ofSocket (socket : Socket) : View :=
  ⟨socket.state, socket.isValid, 0 ≤ socket.descriptor.number, socket.isListening,
    socket.isConnected, socket.isConnecting, socket.isReadShut, socket.isWriteShut⟩

def flags (view : View) : String :=
  let letter := fun (holds : Bool) (letter : Char) => if holds then [letter] else []
  String.ofList (letter view.valid 'V' ++ letter view.present 'F' ++ letter view.listening 'L' ++
    letter view.connected 'C' ++ letter view.connecting 'O' ++ letter view.readShut 'R' ++
    letter view.writeShut 'W')

end View

structure KeyView where
  key : Key
  /-- Whether its selector is open, if somebody still holds it. -/
  selectorOpen : Option Bool
  deriving DecidableEq, Repr

structure ChannelView where
  validOps : OpSet
  /-- The key that counts, if there is one, with the name it is shown under. -/
  key : Option (Key × Option String)
  deriving DecidableEq, Repr

def keyText (key : Key) : String := key.text shownDescriptor

def ChannelView.text (view : ChannelView) : String :=
  match view.key with
  | none => "Registration(None)"
  | some (key, _) => "Registration(Some(" ++ keyText key ++ "))"

inductive Value where
  | nothing
  | truth (value : Bool)
  | number (value : Nat)
  | numberOrNone (value : Option Nat)
  | errno (value : Option Errno)
  | text (value : String)
  /-- The label of a port; port zero has none. -/
  | port (label : Option String)
  /-- The name of a key, if it still has one. -/
  | name (value : Option String)
  | names (values : List (Option String))
  | made (view : View)
  | accepted (outcome : Option (String × View))
  | interrupted
  | connection (value : Connection)
  | sent (outcome : Transfer Nat)
  | received (outcome : Transfer (List UInt8))
  | message (outcome : Transfer (List UInt8 × String))
  | octets (data : List UInt8)
  | socket (protocol : Option String) (valid : Bool)
  /-- How receiving ended and how many octets were not the ones that filling sends. -/
  | drained (peerClosed : Bool) (foreign : Nat)
  | channel (view : ChannelView)
  | key (view : KeyView)
  | ops (value : OpSet)
  | attachment (value : Option String)
  /-- The keys that a poll found, what they are ready for, and whether the time ran out. -/
  | ready (keys : List (Option String × OpSet)) (timedOut : Option Bool)
  | readyCount (keys : Nat) (timedOut : Option Bool)
  deriving DecidableEq, Repr

inductive Outcome where
  | value (value : Value)
  | refused (refusal : Refusal)
  /-- The step would have waited forever. -/
  | blocked
  deriving DecidableEq, Repr

structure Answer where
  outcome : Outcome
  /-- The socket that the step was about, if it still exists. -/
  view : Option View
  deriving DecidableEq, Repr

def blockedText : String := "would block forever"

end SocketReactor.Session
