import SocketReactor.Handle.Exchange
import SocketReactor.Handle.Lifecycle
import SocketReactor.Socket.Basic

/-!
# The life of a socket

The operations on sockets, each by the method of the handle.
-/

namespace SocketReactor.Socket

def observe {α : Type} (socket : Socket) (attempt : Attempt α) :
    Program (Except Fault α × Socket) := do
  return (← attempt.run, socket)

def openNew (protocol : Protocol) : Attempt Socket := Handle.socket <$> Handle.openNew protocol

/-- Opens a descriptor for a socket that owns none. -/
def create (socket : Socket) (protocol : Protocol) :
    Except Misuse (Program (Except Fault Unit × Socket)) :=
  ((Handle.ofSocket socket).create protocol).map socket.through

def bindEndpoint (socket : Socket) (endpoint : Endpoint) : Program (Except Fault Unit × Socket) :=
  socket.through (Handle.bindEndpoint endpoint)

def bind (socket : Socket) (host : String) (port : UInt16) : Program (Except Fault Unit × Socket) :=
  socket.through (Handle.bind host port)

def listen (socket : Socket) (backlog : Int32) : Program (Except Fault Unit × Socket) :=
  socket.through (Handle.listen backlog)

def takeConnection (socket : Socket) : Attempt (Accepted Socket) :=
  Accepted.map Handle.socket <$> (Handle.ofSocket socket).accept

def accept (socket : Socket) : Program (Except Fault (Accepted Socket) × Socket) :=
  socket.observe socket.takeConnection

def connectEndpoint (socket : Socket) (endpoint : Endpoint) :
    Program (Except Fault Connection × Socket) := socket.through (Handle.connectEndpoint endpoint)

def connect (socket : Socket) (host : String) (port : UInt16) :
    Program (Except Fault Connection × Socket) := socket.through (Handle.connect host port)

def finishConnect (socket : Socket) : Program (Except Fault Bool × Socket) :=
  socket.through Handle.finishConnect

def shutdown (socket : Socket) (half : Half) : Program (Except Fault Unit × Socket) :=
  socket.through (Handle.shutdown half)

def close (socket : Socket) : Program (Except Fault Unit × Socket) := socket.through Handle.close

def discard (socket : Socket) : Program Unit := do
  let _ ← socket.close

/-- Makes a step with a socket that nobody else has yet: if it fails the socket is closed. -/
def orDiscard {α : Type} (step : Program (Except Fault α × Socket)) : Attempt (α × Socket) :=
  ExceptT.mk do
    match ← step with
    | (.ok value, socket) => return .ok (value, socket)
    | (.error fault, socket) => do
        socket.discard
        return .error fault

def send (socket : Socket) (data : List UInt8) : Attempt (Transfer Nat) :=
  (Handle.ofSocket socket).send data

def receive (socket : Socket) (capacity : Nat) : Attempt (Transfer (List UInt8)) :=
  (Handle.ofSocket socket).receive capacity

def sendTo (socket : Socket) (data : List UInt8) (endpoint : Endpoint) : Attempt (Transfer Nat) :=
  (Handle.ofSocket socket).sendTo data endpoint

def receiveFrom (socket : Socket) (capacity : Nat) : Attempt (Transfer (List UInt8 × Endpoint)) :=
  (Handle.ofSocket socket).receiveFrom capacity

def localEndpoint (socket : Socket) : Attempt Endpoint := (Handle.ofSocket socket).localEndpoint

def remoteEndpoint (socket : Socket) : Attempt Endpoint := (Handle.ofSocket socket).remoteEndpoint

def localPort (socket : Socket) : Attempt UInt16 := (Handle.ofSocket socket).localPort

def setNonblocking (socket : Socket) (nonblocking : Bool) : Attempt Unit :=
  (Handle.ofSocket socket).setNonblocking nonblocking

def isNonblocking (socket : Socket) : Attempt Bool := (Handle.ofSocket socket).isNonblocking

/-- Moves what a socket holds out of it. Gives what was held and what is left. -/
def take (socket : Socket) : Socket × Socket :=
  ((Handle.ofSocket socket).take.1.socket, (Handle.ofSocket socket).take.2.socket)

/-- Moves another socket into one that owns nothing. -/
def adopt (socket other : Socket) : Except Misuse Socket :=
  ((Handle.ofSocket socket).adopt (.ofSocket other)).map Handle.socket

end SocketReactor.Socket
