import SocketReactor.Handle.Basic
import SocketReactor.Transfer

/-!
# What a handle exchanges

Sending and receiving, the endpoints of a handle, and whether its calls wait. These
methods borrow the handle and cannot write its fields.
-/

namespace SocketReactor.Handle

def anyLive : List SocketState := [.created, .opened, .opening]

/-- The attempt that makes a transfer; a call that would have to wait is no fault. -/
def transfer {α β : Type} (call : Program (Except Errno α)) (name : String)
    (outcome : α → Attempt (Transfer β)) : Attempt (Transfer β) := do
  match ← Attempt.ofProgram call with
  | .ok value => outcome value
  | .error errno =>
      if errno = .tryAgain then return .wouldBlock else throw (.transferFailed errno name)

/-- Sends to the peer; gives how many octets went out. -/
def send (handle : Handle) (data : List UInt8) : Attempt (Transfer Nat) := do
  Attempt.ofExcept (handle.require "send" [.opened])
  transfer (Program.request (.send handle.descriptor data)) "send" fun sent => return .done sent

/-- Receives from the peer. Nothing received into a buffer with room is the end of a
stream. -/
def receive (handle : Handle) (capacity : Nat) : Attempt (Transfer (List UInt8)) := do
  Attempt.ofExcept (handle.require "receive" [.opened])
  transfer (Program.request (.receive handle.descriptor capacity)) "recv" fun data =>
    if data = [] ∧ capacity ≠ 0 ∧ handle.isStream then return .peerClosed
    else return .done data

def sendTo (handle : Handle) (data : List UInt8) (endpoint : Endpoint) :
    Attempt (Transfer Nat) := do
  Attempt.ofExcept (handle.require "send_to" [.created, .opened])
  Attempt.ofExcept (handle.checkFamily endpoint)
  transfer (Program.request (.sendTo handle.descriptor data endpoint.wire)) "sendto" fun sent =>
    return .done sent

def receiveFrom (handle : Handle) (capacity : Nat) :
    Attempt (Transfer (List UInt8 × Endpoint)) := do
  Attempt.ofExcept (handle.require "recv_from" [.created, .opened])
  transfer (Program.request (.receiveFrom handle.descriptor capacity)) "recvfrom"
    fun (data, sender) => do
      let endpoint ← Attempt.ofExcept sender.endpoint
      return .done (data, endpoint)

def localEndpoint (handle : Handle) : Attempt Endpoint := do
  Attempt.ofExcept (handle.require "local_endpoint" anyLive)
  let name ← Attempt.ofCall (Program.request (.localName handle.descriptor))
    (.transferFailed · "getsockname")
  Attempt.ofExcept name.endpoint

def remoteEndpoint (handle : Handle) : Attempt Endpoint := do
  Attempt.ofExcept (handle.require "remote_endpoint" [.opened])
  let name ← Attempt.ofCall (Program.request (.peerName handle.descriptor))
    (.transferFailed · "getpeername")
  Attempt.ofExcept name.endpoint

/-- The port of the handle itself, zero if it has none. -/
def localPort (handle : Handle) : Attempt UInt16 := do
  return (← handle.localEndpoint).port.getD 0

/-- The status flag of a descriptor whose calls do not wait. -/
def nonblockingFlag : UInt32 := 0x800

def nonblockingName : String := "O_NONBLOCK"

/-- Lets the calls on the handle wait or not. The flags are written only if they change. -/
def setNonblocking (handle : Handle) (nonblocking : Bool) : Attempt Unit := do
  Attempt.ofExcept (handle.require "set_nonblocking" anyLive)
  let flags ← Attempt.ofCall (Program.request (.statusFlags handle.descriptor))
    (.getOptionFailed · nonblockingName)
  let wanted := if nonblocking then flags ||| nonblockingFlag else flags &&& ~~~nonblockingFlag
  if wanted ≠ flags then
    Attempt.ofCall (Program.request (.setStatusFlags handle.descriptor wanted))
      (.setOptionFailed · nonblockingName)

def isNonblocking (handle : Handle) : Attempt Bool := do
  Attempt.ofExcept (handle.require "is_nonblocking" anyLive)
  let flags ← Attempt.ofCall (Program.request (.statusFlags handle.descriptor))
    (.getOptionFailed · nonblockingName)
  return flags &&& nonblockingFlag ≠ 0

end SocketReactor.Handle
