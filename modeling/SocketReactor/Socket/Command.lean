import SocketReactor.Handle.Command
import SocketReactor.Socket.Lifecycle

/-!
# Commands on a socket

A command is carried out on the handle of the socket.
-/

namespace SocketReactor.Socket

def readOctets (socket : Socket) (capacity : Nat) : Program (Except StreamFault (List UInt8)) :=
  (Handle.ofSocket socket).readOctets capacity

/-- Writes to a stream; gives how many octets went out. -/
def writeOctets (socket : Socket) (data : List UInt8) : Program (Except StreamFault Nat) :=
  (Handle.ofSocket socket).writeOctets data

def perform (socket : Socket) (command : Command) : Program (Except Failure Reply × Socket) := do
  let (outcome, handle) ← (Handle.ofSocket socket).perform command
  return (outcome, handle.socket)

end SocketReactor.Socket
