/-!
# Option bundles

Values that hold the options of a socket before there is a socket. Each bundle
starts from its usual values and is changed one option at a time; a later change
of the same option wins.
-/

namespace SocketReactor.Setup

/-- Sizes of the buffers in the system; an open size keeps the system's own. -/
structure Buffers where
  receive : Option UInt64
  send : Option UInt64
  deriving DecidableEq, Repr

namespace Buffers

def usual : Buffers := ⟨none, none⟩

inductive Change where
  | receive (size : UInt64)
  | send (size : UInt64)
  | both (size : UInt64)
  deriving DecidableEq, Repr

def change (buffers : Buffers) : Change → Buffers
  | .receive size => { buffers with receive := some size }
  | .send size => { buffers with send := some size }
  | .both size => ⟨some size, some size⟩

end Buffers

structure Reuse where
  address : Bool
  port : Bool
  deriving DecidableEq, Repr

namespace Reuse

/-- The usual choice of a listener: the address may be bound again. -/
def usual : Reuse := ⟨true, false⟩

def nothing : Reuse := ⟨false, false⟩

inductive Change where
  | address (allowed : Bool)
  | port (allowed : Bool)
  | both
  deriving DecidableEq, Repr

def change (reuse : Reuse) : Change → Reuse
  | .address allowed => { reuse with address := allowed }
  | .port allowed => { reuse with port := allowed }
  | .both => ⟨true, true⟩

end Reuse

/-- The times between probes of a silent connection, in seconds, and their number. -/
structure Keepalive where
  idle : UInt32
  interval : UInt32
  count : UInt32
  deriving DecidableEq, Repr

namespace Keepalive

/-- A first probe after a minute, then four more ten seconds apart. -/
def usual : Keepalive := ⟨60, 10, 5⟩

inductive Change where
  | idle (seconds : UInt32)
  | interval (seconds : UInt32)
  | count (probes : UInt32)
  deriving DecidableEq, Repr

def change (keepalive : Keepalive) : Change → Keepalive
  | .idle seconds => { keepalive with idle := seconds }
  | .interval seconds => { keepalive with interval := seconds }
  | .count probes => { keepalive with count := probes }

end Keepalive

/-- Options of a stream. Lingering is left alone, turned off, or lasts some seconds. -/
structure Tcp where
  noDelay : Bool
  keepalive : Option Keepalive
  linger : Option (Option UInt32)
  deriving DecidableEq, Repr

namespace Tcp

def usual : Tcp := ⟨true, none, none⟩

inductive Change where
  | noDelay (enabled : Bool)
  | keepalive (probes : Keepalive)
  | linger (seconds : Option UInt32)
  deriving DecidableEq, Repr

def change (tcp : Tcp) : Change → Tcp
  | .noDelay enabled => { tcp with noDelay := enabled }
  | .keepalive probes => { tcp with keepalive := some probes }
  | .linger seconds => { tcp with linger := some seconds }

end Tcp

/-- Limits on waiting, in milliseconds; zero means no limit, an open one is left alone. -/
structure Timeouts where
  receive : Option UInt64
  send : Option UInt64
  deriving DecidableEq, Repr

namespace Timeouts

def usual : Timeouts := ⟨none, none⟩

inductive Change where
  | receive (milliseconds : UInt64)
  | send (milliseconds : UInt64)
  deriving DecidableEq, Repr

def change (timeouts : Timeouts) : Change → Timeouts
  | .receive milliseconds => { timeouts with receive := some milliseconds }
  | .send milliseconds => { timeouts with send := some milliseconds }

end Timeouts

/-- How many events a selector takes from the system in one wait. -/
structure Selection where
  eventCapacity : UInt64
  deriving DecidableEq, Repr

def Selection.usual : Selection := ⟨256⟩

end SocketReactor.Setup
