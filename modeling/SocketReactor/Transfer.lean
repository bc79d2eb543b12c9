import SocketReactor.Fault

/-!
# Outcomes of transfers

A transfer that would have to wait, or that meets the end of the stream, has an
outcome of its own and is no fault.
-/

namespace SocketReactor

inductive Transfer (α : Type) where
  /-- Something was transferred. -/
  | done (value : α)
  /-- The call would have had to wait. -/
  | wouldBlock
  /-- The peer has ended its stream. -/
  | peerClosed
  deriving DecidableEq, Repr

/-- A fault of reading or writing a stream as plain octets, with the fault that it comes from. -/
structure StreamFault where
  kind : IoKind
  message : String
  cause : Option Fault
  deriving DecidableEq, Repr

namespace Transfer

variable {α : Type}

def isWouldBlock : Transfer α → Bool
  | wouldBlock => true
  | _ => false

/-- What was transferred, nothing if the call would have had to wait, and a fault at
the end of the stream. -/
def result : Transfer α → Except Fault (Option α)
  | done value => .ok (some value)
  | wouldBlock => .ok none
  | peerClosed => .error .closedByPeer

/-- What a transfer is for a caller who knows only octets and errors. The end of the
stream is nothing transferred. -/
def plain (nothing : α) : Except Fault (Transfer α) → Except StreamFault α
  | .ok (.done value) => .ok value
  | .ok .peerClosed => .ok nothing
  | .ok .wouldBlock => .error ⟨.wouldBlock, "operation would block", none⟩
  | .error fault => .error ⟨fault.ioKind, fault.message, some fault⟩

end Transfer

end SocketReactor
