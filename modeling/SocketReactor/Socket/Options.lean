import SocketReactor.Host.Program

/-!
# Socket options

Options of a descriptor and how their values cross to the host: spans of time as
seconds and microseconds, lingering as a switch and seconds, and sizes and counts as
numbers of 32 bits. A descriptor that is not open makes every option fail.
-/

namespace SocketReactor

namespace TimeValue

def ofMilliseconds (milliseconds : UInt64) : TimeValue :=
  ⟨(milliseconds / 1000).toInt64, (milliseconds % 1000 * 1000).toInt64⟩

def milliseconds (value : TimeValue) : UInt64 :=
  value.seconds.toUInt64 * 1000 + value.microseconds.toUInt64 / 1000

end TimeValue

namespace LingerValue

def ofSeconds : Option UInt32 → LingerValue
  | none => ⟨0, 0⟩
  | some seconds => ⟨1, seconds.toInt32⟩

def seconds? (value : LingerValue) : Option UInt32 :=
  if value.enabled ≠ 0 then some value.seconds.toUInt32 else none

end LingerValue

inductive OptionWrite where
  | int (option : IntOption) (value : Int32)
  | time (option : TimeOption) (value : TimeValue)
  | linger (value : LingerValue)
  deriving DecidableEq, Repr

namespace OptionWrite

def flag (option : IntOption) (enabled : Bool) : OptionWrite := int option (if enabled then 1 else 0)

/-- Sets the size of a buffer; the size is cut to 32 bits. -/
def size (option : IntOption) (size : UInt64) : OptionWrite := int option size.toUInt32.toInt32

def count (option : IntOption) (count : UInt32) : OptionWrite := int option count.toInt32

def timeout (option : TimeOption) (milliseconds : UInt64) : OptionWrite :=
  time option (.ofMilliseconds milliseconds)

def lingering (seconds : Option UInt32) : OptionWrite := linger (.ofSeconds seconds)

def name : OptionWrite → String
  | int option _ => option.name
  | time option _ => option.name
  | linger _ => "SO_LINGER"

def apply (descriptor : Descriptor) (write : OptionWrite) : Attempt Unit :=
  let call : Program (Except Errno Unit) := match write with
    | int option value => Program.request (.setIntOption descriptor option value)
    | time option value => Program.request (.setTimeOption descriptor option value)
    | linger value => Program.request (.setLingerOption descriptor value)
  Attempt.ofCall call (.setOptionFailed · write.name)

end OptionWrite

namespace Descriptor

def intOption (descriptor : Descriptor) (option : IntOption) : Attempt Int32 :=
  Attempt.ofCall (Program.request (.intOption descriptor option)) (.getOptionFailed · option.name)

def flagOption (descriptor : Descriptor) (option : IntOption) : Attempt Bool := do
  return (← descriptor.intOption option) ≠ 0

def sizeOption (descriptor : Descriptor) (option : IntOption) : Attempt UInt64 := do
  return (← descriptor.intOption option).toInt64.toUInt64

def timeoutOption (descriptor : Descriptor) (option : TimeOption) : Attempt UInt64 := do
  let value ← Attempt.ofCall (Program.request (.timeOption descriptor option))
    (.getOptionFailed · option.name)
  return value.milliseconds

def lingerOption (descriptor : Descriptor) : Attempt (Option UInt32) := do
  let value ← Attempt.ofCall (Program.request (.lingerOption descriptor))
    (.getOptionFailed · "SO_LINGER")
  return value.seconds?

def takeError (descriptor : Descriptor) : Attempt (Option Errno) := do
  let pending ← descriptor.intOption .error
  return if pending ≠ 0 then some ⟨pending⟩ else none

end Descriptor

end SocketReactor
