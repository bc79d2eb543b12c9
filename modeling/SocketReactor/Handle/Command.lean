import SocketReactor.Handle.Exchange
import SocketReactor.Handle.Lifecycle

/-!
# Commands

What can be asked of a single handle, as data, with one type of reply. `Handle.perform`
carries a command out.
-/

namespace SocketReactor

inductive OptionRead where
  | flag (option : IntOption)
  | size (option : IntOption)
  | timeout (option : TimeOption)
  | linger
  | pendingError
  deriving DecidableEq, Repr

inductive Command where
  | create (protocol : Protocol)
  | bind (host : String) (port : UInt16)
  | bindEndpoint (endpoint : Endpoint)
  | listen (backlog : Int32)
  | connect (host : String) (port : UInt16)
  | connectEndpoint (endpoint : Endpoint)
  | finishConnect
  | send (data : List UInt8)
  | receive (capacity : Nat)
  | sendTo (data : List UInt8) (endpoint : Endpoint)
  | receiveFrom (capacity : Nat)
  | readOctets (capacity : Nat)
  | writeOctets (data : List UInt8)
  | shutdown (half : Half)
  | close
  | localEndpoint
  | remoteEndpoint
  | localPort
  | setNonblocking (enabled : Bool)
  | isNonblocking
  | readOption (option : OptionRead)
  | writeOption (write : OptionWrite)
  deriving DecidableEq, Repr

inductive Reply where
  | nothing
  | truth (value : Bool)
  | connection (value : Connection)
  | sent (outcome : Transfer Nat)
  | received (outcome : Transfer (List UInt8))
  | message (outcome : Transfer (List UInt8 × Endpoint))
  | octets (data : List UInt8)
  | count (number : Nat)
  | endpoint (value : Endpoint)
  | port (value : UInt16)
  | quantity (value : UInt64)
  | seconds (value : Option UInt32)
  | pending (value : Option Errno)
  deriving DecidableEq, Repr

inductive Failure where
  | fault (fault : Fault)
  | misuse (misuse : Misuse)
  | stream (fault : StreamFault)
  deriving DecidableEq, Repr

namespace Handle

variable {α : Type}

def replying (handle : Handle) (reply : α → Reply) (method : Method α) :
    Program (Except Failure Reply × Handle) := do
  let (outcome, after) ← method.on handle
  return ((outcome.map reply).mapError .fault, after)

def borrowed (handle : Handle) (reply : α → Reply) (attempt : Attempt α) :
    Program (Except Failure Reply × Handle) := handle.replying reply (monadLift attempt)

def readOctets (handle : Handle) (capacity : Nat) : Program (Except StreamFault (List UInt8)) := do
  return Transfer.plain [] (← (handle.receive capacity).run)

/-- Writes to a stream; gives how many octets went out. -/
def writeOctets (handle : Handle) (data : List UInt8) : Program (Except StreamFault Nat) := do
  return Transfer.plain 0 (← (handle.send data).run)

def readOption (handle : Handle) : OptionRead → Program (Except Failure Reply × Handle)
  | .flag option => handle.borrowed .truth (handle.descriptor.flagOption option)
  | .size option => handle.borrowed .quantity (handle.descriptor.sizeOption option)
  | .timeout option => handle.borrowed .quantity (handle.descriptor.timeoutOption option)
  | .linger => handle.borrowed .seconds handle.descriptor.lingerOption
  | .pendingError => handle.borrowed .pending handle.descriptor.takeError

def perform (handle : Handle) : Command → Program (Except Failure Reply × Handle)
  | .create protocol => match handle.create protocol with
    | .ok method => handle.replying (fun () => .nothing) method
    | .error misuse => return (.error (.misuse misuse), handle)
  | .bind host port => handle.replying (fun () => .nothing) (bind host port)
  | .bindEndpoint endpoint => handle.replying (fun () => .nothing) (bindEndpoint endpoint)
  | .listen backlog => handle.replying (fun () => .nothing) (listen backlog)
  | .connect host port => handle.replying .connection (connect host port)
  | .connectEndpoint endpoint => handle.replying .connection (connectEndpoint endpoint)
  | .finishConnect => handle.replying .truth finishConnect
  | .send data => handle.borrowed .sent (handle.send data)
  | .receive capacity => handle.borrowed .received (handle.receive capacity)
  | .sendTo data endpoint => handle.borrowed .sent (handle.sendTo data endpoint)
  | .receiveFrom capacity => handle.borrowed .message (handle.receiveFrom capacity)
  | .readOctets capacity => do
      let outcome ← handle.readOctets capacity
      return ((outcome.map .octets).mapError .stream, handle)
  | .writeOctets data => do
      let outcome ← handle.writeOctets data
      return ((outcome.map .count).mapError .stream, handle)
  | .shutdown half => handle.replying (fun () => .nothing) (shutdown half)
  | .close => handle.replying (fun () => .nothing) close
  | .localEndpoint => handle.borrowed .endpoint handle.localEndpoint
  | .remoteEndpoint => handle.borrowed .endpoint handle.remoteEndpoint
  | .localPort => handle.borrowed .port handle.localPort
  | .setNonblocking enabled =>
      handle.borrowed (fun () => .nothing) (handle.setNonblocking enabled)
  | .isNonblocking => handle.borrowed .truth handle.isNonblocking
  | .readOption option => handle.readOption option
  | .writeOption write =>
      handle.borrowed (fun () => .nothing) (write.apply handle.descriptor)

end Handle

end SocketReactor
