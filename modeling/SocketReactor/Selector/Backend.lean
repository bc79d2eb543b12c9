import SocketReactor.Duration
import SocketReactor.Host.Program
import SocketReactor.OpSet

/-!
# Readiness backends

A backend is a set of watched descriptors in the host and a pipe that wakes a wait on
the set. The pipe's reading end is watched under `notifyToken`, which no channel gets.
-/

namespace SocketReactor

structure Directions where
  readable : Bool
  writable : Bool
  deriving DecidableEq, Repr

namespace Directions

/-- The directions that tell of some of the operations. -/
def ofOps (ops : OpSet) : Directions :=
  ⟨ops.intersects (.reading ∪ .accepting), ops.intersects (.writing ∪ .connecting)⟩

def isEmpty (directions : Directions) : Bool := !directions.readable && !directions.writable

end Directions

/-! The bits of a watched or reported event. -/

def inputEvent : UInt32 := 0x1

def outputEvent : UInt32 := 0x4

def errorEvent : UInt32 := 0x8

def hangUpEvent : UInt32 := 0x10

def readHangUpEvent : UInt32 := 0x2000

def Directions.events (directions : Directions) : UInt32 :=
  (if directions.readable then inputEvent ||| readHangUpEvent else 0) |||
    (if directions.writable then outputEvent else 0)

namespace ReadyEvent

def readable (event : ReadyEvent) : Bool := event.events &&& (inputEvent ||| readHangUpEvent) ≠ 0

def writable (event : ReadyEvent) : Bool := event.events &&& outputEvent ≠ 0

/-- Whether an event tells of an error or an end, which concerns both directions. -/
def failed (event : ReadyEvent) : Bool := event.events &&& (errorEvent ||| hangUpEvent) ≠ 0

end ReadyEvent

structure Backend where
  poll : Descriptor
  reader : Descriptor
  writer : Descriptor
  deriving DecidableEq, Repr

namespace Backend

/-- The token under which the pipe is watched. -/
def notifyToken : UInt64 := 0xffffffffffffffff

def close (backend : Backend) : Program Unit := do
  let _ ← Program.request (.close backend.poll)
  let _ ← Program.request (.close backend.reader)
  let _ ← Program.request (.close backend.writer)

def add (backend : Backend) (descriptor : Descriptor) (token : UInt64) (directions : Directions) :
    Program (Except Errno Unit) :=
  Program.request (.watch backend.poll (.add descriptor token directions.events))

def modify (backend : Backend) (descriptor : Descriptor) (token : UInt64)
    (directions : Directions) : Program (Except Errno Unit) :=
  Program.request (.watch backend.poll (.modify descriptor token directions.events))

def delete (backend : Backend) (descriptor : Descriptor) : Program (Except Errno Unit) :=
  Program.request (.watch backend.poll (.delete descriptor))

/-- Opens a backend. If a step fails, what was opened before is given back. -/
def openNew : Program (Except Errno Backend) := do
  match ← Program.request .openBackend with
  | .error errno => return .error errno
  | .ok poll => match ← Program.request .openPipe with
    | .error errno => do
        let _ ← Program.request (.close poll)
        return .error errno
    | .ok (reader, writer) => do
        let backend : Backend := ⟨poll, reader, writer⟩
        match ← backend.add reader notifyToken ⟨true, false⟩ with
        | .error errno => do
            backend.close
            return .error errno
        | .ok () => return .ok backend

/-- The milliseconds that a wait with a limit takes; a negative number means forever. -/
def waitMilliseconds : Option Duration → Int32
  | some limit => limit.waitMilliseconds
  | none => -1

def wait (backend : Backend) (capacity : UInt64) (limit : Option Duration) :
    Program (Except Errno (List ReadyEvent)) :=
  Program.request (.await backend.poll capacity.toUInt32.toInt32 (waitMilliseconds limit))

/-- Wakes a wait. A full pipe wakes it just as well. -/
def notify (backend : Backend) : Program (Except Errno Unit) := do
  match ← Program.request (.writePipe backend.writer [1]) with
  | .ok _ => return .ok ()
  | .error errno => return if errno = .tryAgain then .ok () else .error errno

/-- How many octets are read from the pipe at once. -/
def drainChunk : Nat := 64

/-- Reads from the pipe until it is empty, at most `reads` times; gives how many octets
were dropped. -/
def drainUpTo (backend : Backend) : Nat → Program Nat
  | 0 => return 0
  | reads + 1 => do
      match ← Program.request (.readPipe backend.reader drainChunk) with
      | .error _ => return 0
      | .ok [] => return 0
      | .ok data => return data.length + (← backend.drainUpTo reads)

/-- Empties the pipe. It holds at most 65536 octets, so that many reads are enough. -/
def drain (backend : Backend) : Program Nat := backend.drainUpTo 1025

end Backend

end SocketReactor
