import SocketReactor.Isolated.Basic

/-!
# Socket options of an isolated host

Which options a socket of the host has, which values it takes, and what it reads back.
The system keeps twice the size of a buffer that is asked for, within its limits.
-/

namespace SocketReactor.Isolated

/-- Whether an option belongs to the protocol of connected streams. -/
def isStreamOption : IntOption → Bool
  | .noDelay | .keepIdle | .keepInterval | .keepCount => true
  | _ => false

def refuseStreamWrite (socket : HostSocket) : Option Errno :=
  match socket.family, socket.kind with
  | .unix, _ => some .notSupported
  | _, .datagram => some .optionUnknown
  | _, .stream => none

def refuseStreamRead (socket : HostSocket) : Option Errno :=
  match socket.family, socket.kind with
  | .inet6, .datagram => some .optionUnknown
  | .unix, _ | _, .datagram => some .notSupported
  | _, .stream => none

def largestProbeValue : IntOption → Int32
  | .keepCount => 127
  | _ => 32767

def largestBuffer : Nat := 4194304

def smallestBuffer : IntOption → Nat
  | .sendBuffer => 4608
  | _ => 2304

def grantedBuffer (option : IntOption) (asked : Int32) : Int32 :=
  Int32.ofNat (max (2 * min asked.toUInt32.toNat largestBuffer) (smallestBuffer option))

def usualBuffer (socket : HostSocket) (option : IntOption) : Int32 :=
  match socket.family, socket.kind, option with
  | .unix, _, _ | _, .datagram, _ => 212992
  | _, .stream, .sendBuffer => 16384
  | _, .stream, _ => 131072

def writeIntOption (socket : HostSocket) (option : IntOption) (value : Int32) :
    Except Errno Unit × HostSocket :=
  let store := fun kept : Int32 =>
    (.ok (), { socket with options := socket.options.insert option kept })
  match option with
  | .reuseAddress | .keepalive => store (if value = 0 then 0 else 1)
  | .reusePort =>
      if value ≠ 0 ∧ socket.family = .unix then (.error .notSupported, socket)
      else store (if value = 0 then 0 else 1)
  | .receiveBuffer | .sendBuffer => store (grantedBuffer option value)
  | .error => (.error .optionUnknown, socket)
  | .noDelay => match refuseStreamWrite socket with
    | some errno => (.error errno, socket)
    | none => store (if value = 0 then 0 else 1)
  | .keepIdle | .keepInterval | .keepCount => match refuseStreamWrite socket with
    | some errno => (.error errno, socket)
    | none =>
        if 1 ≤ value ∧ value ≤ largestProbeValue option then store value
        else (.error .invalidArgument, socket)

/-- Answers a call that reads an option. No error is ever pending. -/
def readIntOption (socket : HostSocket) (option : IntOption) : Except Errno Int32 :=
  let refused := if isStreamOption option then refuseStreamRead socket else none
  match refused with
  | some errno => .error errno
  | none =>
      let usual := match option with
        | .receiveBuffer | .sendBuffer => usualBuffer socket option
        | _ => 0
      .ok ((socket.options.get? option).getD usual)

def ticksPerSecond : Nat := 250

def tickLength : Nat := 4000

/-- A limit on waiting as the host keeps it: in whole ticks, rounded up. -/
def keptTimeout (value : TimeValue) : TimeValue :=
  let ticks := value.seconds.toInt.toNat * ticksPerSecond +
    (value.microseconds.toInt.toNat + tickLength - 1) / tickLength
  ⟨Int64.ofNat (ticks / ticksPerSecond), Int64.ofNat (ticks % ticksPerSecond * tickLength)⟩

def writeTimeOption (socket : HostSocket) (option : TimeOption) (value : TimeValue) : HostSocket :=
  match option with
  | .receiveTimeout => { socket with receiveTimeout := keptTimeout value }
  | .sendTimeout => { socket with sendTimeout := keptTimeout value }

def readTimeOption (socket : HostSocket) : TimeOption → TimeValue
  | .receiveTimeout => socket.receiveTimeout
  | .sendTimeout => socket.sendTimeout

def longestLinger : Int32 := -1752346657

/-- How closing waits after a call that changes it. Turning it off leaves the seconds alone, and
a negative number of them counts as the longest time. -/
def keptLinger (before value : LingerValue) : LingerValue :=
  if value.enabled = 0 then { before with enabled := 0 }
  else ⟨1, if value.seconds < 0 then longestLinger else value.seconds⟩

end SocketReactor.Isolated
