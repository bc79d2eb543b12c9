/-!
# Durations

Spans of time in whole seconds and nanoseconds, and the milliseconds that a wait of
the host takes for them: rounded up, so that a wait never ends early, and cut to what
fits a signed number of 32 bits.
-/

namespace SocketReactor

structure Duration where
  seconds : UInt64
  nanoseconds : Nat
  nanoseconds_lt : nanoseconds < 1000000000
  deriving DecidableEq, Repr

namespace Duration

def totalNanoseconds (duration : Duration) : Nat :=
  duration.seconds.toNat * 1000000000 + duration.nanoseconds

/-- A span of nanoseconds; the seconds have to fit 64 bits. -/
def ofNanoseconds (nanoseconds : Nat) : Duration :=
  ⟨UInt64.ofNat (nanoseconds / 1000000000), nanoseconds % 1000000000, by omega⟩

def ofMicroseconds (microseconds : UInt64) : Duration :=
  ⟨microseconds / 1000000, microseconds.toNat % 1000000 * 1000, by omega⟩

def ofMilliseconds (milliseconds : UInt64) : Duration :=
  ⟨milliseconds / 1000, milliseconds.toNat % 1000 * 1000000, by omega⟩

def longestWait : Nat := 2147483647

def waitMilliseconds (duration : Duration) : Int32 :=
  Int32.ofNat (min ((duration.totalNanoseconds + 999999) / 1000000) longestWait)

end Duration

end SocketReactor
