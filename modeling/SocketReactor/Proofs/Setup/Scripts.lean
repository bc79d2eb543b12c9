import Mathlib.Data.List.Induction
import SocketReactor.Setup.Builder

/-!
# Scripts of setters

A bundle of options, or a builder, is made from what it starts with by setters, one after the
other.  Each of its fields is then what the last setter of that field has set.
-/

namespace SocketReactor.Setup

variable {α β γ : Type}

def lastSet (sets : γ → Option α) (changes : List γ) : Option α :=
  (changes.filterMap sets).getLast?

@[simp] theorem lastSet_snoc (sets : γ → Option α) (changes : List γ) (last : γ) :
    lastSet sets (changes ++ [last]) = (sets last).or (lastSet sets changes) := by
  cases set : sets last <;> simp [lastSet, set]

/-- What a bundle starts with, and the changes that are made to it. -/
structure Script (β γ : Type) where
  start : β
  changes : List γ

def Script.made (change : β → γ → β) (script : Script β γ) : β :=
  script.changes.foldl change script.start

/-- What begins as a script does, and says of one more change what the change does, says what the
script makes. -/
theorem Script.made_eq {change : β → γ → β} (told : Script β γ → β)
    (start : ∀ bundle, told ⟨bundle, []⟩ = bundle)
    (snoc : ∀ bundle changes last,
      told ⟨bundle, changes ++ [last]⟩ = change (told ⟨bundle, changes⟩) last)
    (script : Script β γ) : script.made change = told script := by
  obtain ⟨bundle, changes⟩ := script
  -- From the last change backwards, for it is the one that wins.
  induction changes using List.reverseRecOn with
  | nil => exact (start bundle).symm
  | append_singleton changes last ih =>
      rw [snoc, ← ih]
      simp [made]

/-! ## Bundles -/

namespace Buffers

def Change.receive? : Change → Option UInt64
  | .receive size | .both size => some size
  | .send _ => none

def Change.send? : Change → Option UInt64
  | .send size | .both size => some size
  | .receive _ => none

def told (script : Script Buffers Change) : Buffers :=
  ⟨(lastSet Change.receive? script.changes).or script.start.receive,
    (lastSet Change.send? script.changes).or script.start.send⟩

theorem made_eq_told (script : Script Buffers Change) : script.made change = told script :=
  script.made_eq told (fun _ => rfl) fun bundle changes last => by
    cases last <;> simp [told, change, Change.receive?, Change.send?]

end Buffers

namespace Reuse

def Change.address? : Change → Option Bool
  | .address allowed => some allowed
  | .both => some true
  | .port _ => none

def Change.port? : Change → Option Bool
  | .port allowed => some allowed
  | .both => some true
  | .address _ => none

def told (script : Script Reuse Change) : Reuse :=
  ⟨(lastSet Change.address? script.changes).getD script.start.address,
    (lastSet Change.port? script.changes).getD script.start.port⟩

theorem made_eq_told (script : Script Reuse Change) : script.made change = told script :=
  script.made_eq told (fun _ => rfl) fun bundle changes last => by
    cases last <;> simp [told, change, Change.address?, Change.port?]

end Reuse

namespace Keepalive

/-- The time before the first probe that a change sets. -/
def Change.idle? : Change → Option UInt32
  | .idle seconds => some seconds
  | _ => none

/-- The time between probes that a change sets. -/
def Change.interval? : Change → Option UInt32
  | .interval seconds => some seconds
  | _ => none

def Change.count? : Change → Option UInt32
  | .count probes => some probes
  | _ => none

def told (script : Script Keepalive Change) : Keepalive :=
  ⟨(lastSet Change.idle? script.changes).getD script.start.idle,
    (lastSet Change.interval? script.changes).getD script.start.interval,
    (lastSet Change.count? script.changes).getD script.start.count⟩

theorem made_eq_told (script : Script Keepalive Change) : script.made change = told script :=
  script.made_eq told (fun _ => rfl) fun bundle changes last => by
    cases last <;> simp [told, change, Change.idle?, Change.interval?, Change.count?]

end Keepalive

namespace Tcp

/-- A setter of stream options.  The probes are made by a script of their own. -/
inductive Setter where
  | noDelay (enabled : Bool)
  | keepalive (probes : Script Keepalive Keepalive.Change)
  | linger (seconds : Option UInt32)

def Setter.change : Setter → Tcp.Change
  | noDelay enabled => .noDelay enabled
  | keepalive probes => .keepalive (probes.made Keepalive.change)
  | linger seconds => .linger seconds

/-- What a setter says of small segments. -/
def Setter.noDelay? : Setter → Option Bool
  | noDelay enabled => some enabled
  | _ => none

def Setter.keepalive? : Setter → Option Keepalive
  | keepalive probes => some (Keepalive.told probes)
  | _ => none

def Setter.linger? : Setter → Option (Option UInt32)
  | linger seconds => some seconds
  | _ => none

def told (script : Script Tcp Setter) : Tcp :=
  ⟨(lastSet Setter.noDelay? script.changes).getD script.start.noDelay,
    (lastSet Setter.keepalive? script.changes).or script.start.keepalive,
    (lastSet Setter.linger? script.changes).or script.start.linger⟩

theorem made_eq_told (script : Script Tcp Setter) :
    script.made (fun tcp setter => tcp.change setter.change) = told script :=
  script.made_eq told (fun _ => rfl) fun bundle changes last => by
    cases last <;> simp [told, change, Setter.change, Setter.noDelay?, Setter.keepalive?,
      Setter.linger?, Keepalive.made_eq_told]

end Tcp

namespace Timeouts

def Change.receive? : Change → Option UInt64
  | .receive milliseconds => some milliseconds
  | .send _ => none

def Change.send? : Change → Option UInt64
  | .send milliseconds => some milliseconds
  | .receive _ => none

def told (script : Script Timeouts Change) : Timeouts :=
  ⟨(lastSet Change.receive? script.changes).or script.start.receive,
    (lastSet Change.send? script.changes).or script.start.send⟩

theorem made_eq_told (script : Script Timeouts Change) : script.made change = told script :=
  script.made_eq told (fun _ => rfl) fun bundle changes last => by
    cases last <;> simp [told, change, Change.receive?, Change.send?]

end Timeouts

/-! ## Builders -/

namespace ServerBuilder

/-- A setter of a builder of listeners.  The bundles are made by scripts of their own. -/
inductive Setter where
  | reuse (script : Script Reuse Reuse.Change)
  | tcp (script : Script Tcp Tcp.Setter)
  | buffers (script : Script Buffers Buffers.Change)
  | backlog (backlog : Int32)
  | nonblocking (enabled : Bool)

def Setter.change : Setter → ServerBuilder.Change
  | reuse script => .reuse (script.made Reuse.change)
  | tcp script => .tcp (script.made fun tcp setter => tcp.change setter.change)
  | buffers script => .buffers (script.made Buffers.change)
  | .backlog queued => .backlog queued
  | nonblocking enabled => .nonblocking enabled

/-- What a setter says of what may be bound again. -/
def Setter.reuse? : Setter → Option Reuse
  | reuse script => some (Reuse.told script)
  | _ => none

def Setter.tcp? : Setter → Option Tcp
  | tcp script => some (Tcp.told script)
  | _ => none

def Setter.buffers? : Setter → Option Buffers
  | buffers script => some (Buffers.told script)
  | _ => none

def Setter.backlog? : Setter → Option Int32
  | .backlog queued => some queued
  | _ => none

def Setter.nonblocking? : Setter → Option Bool
  | nonblocking enabled => some enabled
  | _ => none

def made (script : Script ServerBuilder Setter) : ServerBuilder :=
  Script.made (fun builder setter => builder.change setter.change) script

def told (script : Script ServerBuilder Setter) : ServerBuilder :=
  ⟨script.start.protocol, {
    reuse := (lastSet Setter.reuse? script.changes).or script.start.options.reuse
    tcp := (lastSet Setter.tcp? script.changes).or script.start.options.tcp
    buffers := (lastSet Setter.buffers? script.changes).getD script.start.options.buffers
    timeouts := script.start.options.timeouts
    nonblocking := (lastSet Setter.nonblocking? script.changes).getD
      script.start.options.nonblocking },
    (lastSet Setter.backlog? script.changes).getD script.start.backlog⟩

theorem made_eq_told (script : Script ServerBuilder Setter) : made script = told script :=
  script.made_eq told (fun _ => rfl) fun bundle changes last => by
    cases last <;> simp [told, change, Setter.change, Setter.reuse?, Setter.tcp?, Setter.buffers?,
      Setter.backlog?, Setter.nonblocking?, Reuse.made_eq_told, Tcp.made_eq_told,
      Buffers.made_eq_told]

end ServerBuilder

namespace StreamBuilder

/-- A setter of a builder of streams.  The bundles are made by scripts of their own. -/
inductive Setter where
  | tcp (script : Script Tcp Tcp.Setter)
  | buffers (script : Script Buffers Buffers.Change)
  | timeouts (script : Script Timeouts Timeouts.Change)

def Setter.change : Setter → StreamBuilder.Change
  | tcp script => .tcp (script.made fun tcp setter => tcp.change setter.change)
  | buffers script => .buffers (script.made Buffers.change)
  | timeouts script => .timeouts (script.made Timeouts.change)

def Setter.tcp? : Setter → Option Tcp
  | tcp script => some (Tcp.told script)
  | _ => none

def Setter.buffers? : Setter → Option Buffers
  | buffers script => some (Buffers.told script)
  | _ => none

/-- The limits on waiting that a setter sets. -/
def Setter.timeouts? : Setter → Option Timeouts
  | timeouts script => some (Timeouts.told script)
  | _ => none

def made (script : Script StreamBuilder Setter) : StreamBuilder :=
  Script.made (fun builder setter => builder.change setter.change) script

def told (script : Script StreamBuilder Setter) : StreamBuilder :=
  ⟨script.start.protocol, {
    reuse := script.start.options.reuse
    tcp := (lastSet Setter.tcp? script.changes).or script.start.options.tcp
    buffers := (lastSet Setter.buffers? script.changes).getD script.start.options.buffers
    timeouts := (lastSet Setter.timeouts? script.changes).getD script.start.options.timeouts
    nonblocking := script.start.options.nonblocking }⟩

theorem made_eq_told (script : Script StreamBuilder Setter) : made script = told script :=
  script.made_eq told (fun _ => rfl) fun bundle changes last => by
    cases last <;> simp [told, change, Setter.change, Setter.tcp?, Setter.buffers?,
      Setter.timeouts?, Tcp.made_eq_told, Buffers.made_eq_told, Timeouts.made_eq_told]

end StreamBuilder

namespace DatagramBuilder

/-- A setter of a builder of sockets of messages.  The bundles are made by scripts of their own. -/
inductive Setter where
  | reuse (script : Script Reuse Reuse.Change)
  | buffers (script : Script Buffers Buffers.Change)
  | timeouts (script : Script Timeouts Timeouts.Change)

def Setter.change : Setter → DatagramBuilder.Change
  | reuse script => .reuse (script.made Reuse.change)
  | buffers script => .buffers (script.made Buffers.change)
  | timeouts script => .timeouts (script.made Timeouts.change)

/-- What a setter says of what may be bound again. -/
def Setter.reuse? : Setter → Option Reuse
  | reuse script => some (Reuse.told script)
  | _ => none

def Setter.buffers? : Setter → Option Buffers
  | buffers script => some (Buffers.told script)
  | _ => none

/-- The limits on waiting that a setter sets. -/
def Setter.timeouts? : Setter → Option Timeouts
  | timeouts script => some (Timeouts.told script)
  | _ => none

def made (script : Script DatagramBuilder Setter) : DatagramBuilder :=
  Script.made (fun builder setter => builder.change setter.change) script

def told (script : Script DatagramBuilder Setter) : DatagramBuilder :=
  ⟨script.start.protocol, {
    reuse := (lastSet Setter.reuse? script.changes).or script.start.options.reuse
    tcp := script.start.options.tcp
    buffers := (lastSet Setter.buffers? script.changes).getD script.start.options.buffers
    timeouts := (lastSet Setter.timeouts? script.changes).getD script.start.options.timeouts
    nonblocking := script.start.options.nonblocking }⟩

theorem made_eq_told (script : Script DatagramBuilder Setter) : made script = told script :=
  script.made_eq told (fun _ => rfl) fun bundle changes last => by
    cases last <;> simp [told, change, Setter.change, Setter.reuse?, Setter.buffers?,
      Setter.timeouts?, Reuse.made_eq_told, Buffers.made_eq_told, Timeouts.made_eq_told]

end DatagramBuilder

end SocketReactor.Setup
