import SocketReactor.Isolated.Basic
import SocketReactor.Selector.Backend

/-!
# Watching descriptors on an isolated host

The sets of watched descriptors and their queues. A descriptor joins the queue when it is
watched while ready and when something is written to its pipe. A wait looks at the queue
from the front, drops descriptors that are not ready after all, and puts those that it
reports at the end, as they stay ready until somebody acts.
-/

namespace SocketReactor.Isolated

def File.readiness : File → UInt32
  | .socket state =>
      match state.kind, state.activity with
      | .datagram, _ => outputEvent
      | .stream, .listening => 0
      | .stream, _ => outputEvent ||| hangUpEvent
  | .pipeReader contents => if contents = [] then 0 else inputEvent
  | .pipeWriter _ => outputEvent
  | .watchSet _ => 0

/-- The events of a watched descriptor that a wait would report now. -/
def pendingEvents (host : IsolatedHost) (watch : Watch) : UInt32 :=
  match host.file? watch.descriptor with
  | some file => file.readiness &&& (watch.events ||| errorEvent ||| hangUpEvent)
  | none => 0

namespace WatchSet

def find? (set : WatchSet) (descriptor : Descriptor) : Option Watch :=
  set.watches.find? (·.descriptor = descriptor)

/-- Puts a descriptor at the end of the queue unless it is in it. -/
def enqueue (set : WatchSet) (descriptor : Descriptor) : WatchSet :=
  if descriptor ∈ set.queue then set else { set with queue := set.queue ++ [descriptor] }

def forget (set : WatchSet) (descriptor : Descriptor) : WatchSet :=
  ⟨set.watches.filter (·.descriptor ≠ descriptor), set.queue.filter (· ≠ descriptor)⟩

/-- Puts a descriptor in the queue if its watch has something to report. -/
def refresh (set : WatchSet) (host : IsolatedHost) (watch : Watch) : WatchSet :=
  if pendingEvents host watch ≠ 0 then set.enqueue watch.descriptor else set

def change (set : WatchSet) (host : IsolatedHost) (change : WatchChange) :
    Except Errno WatchSet :=
  let descriptor := match change with
    | .add descriptor _ _ | .modify descriptor _ _ | .delete descriptor => descriptor
  if (host.file? descriptor).isNone then .error .badDescriptor
  else match change, set.find? descriptor with
    | .add _ _ _, some _ => .error .alreadyExists
    | .add _ token events, none =>
        let watch : Watch := ⟨descriptor, token, events⟩
        .ok (refresh { set with watches := set.watches ++ [watch] } host watch)
    | .modify _ token events, some _ =>
        let watch : Watch := ⟨descriptor, token, events⟩
        let watches := set.watches.map fun other =>
          if other.descriptor = descriptor then watch else other
        .ok (refresh { set with watches := watches } host watch)
    | .delete _, some _ => .ok (set.forget descriptor)
    | .modify _ _ _, none | .delete _, none => .error .noEntry

/-- Reports from a queue at most so many events. Gives the events, what is left of the queue,
and the descriptors that were reported. -/
def report (set : WatchSet) (host : IsolatedHost) :
    List Descriptor → Nat → List ReadyEvent × List Descriptor × List Descriptor
  | queue, 0 => ([], queue, [])
  | [], _ + 1 => ([], [], [])
  | descriptor :: rest, room + 1 =>
      let pending := (set.find? descriptor).map fun watch => (watch, pendingEvents host watch)
      match pending with
      | none => set.report host rest (room + 1)
      | some (watch, events) =>
          if events = 0 then set.report host rest (room + 1)
          else
            let (reported, left, again) := set.report host rest room
            (⟨watch.token, events⟩ :: reported, left, descriptor :: again)

end WatchSet

def largestCapacity : Int32 := 178956970

/-- Answers a wait. Without events it lasts as long as it may, and nothing comes of one that
may last forever. -/
def awaitEvents (host : IsolatedHost) (descriptor : Descriptor) (capacity milliseconds : Int32) :
    Option (Except Errno (List ReadyEvent) × IsolatedHost) :=
  match host.file? descriptor with
  | none => some (.error .badDescriptor, host)
  | some (.watchSet set) =>
      if capacity ≤ 0 ∨ largestCapacity < capacity then some (.error .invalidArgument, host)
      else
        let (events, left, again) := set.report host set.queue capacity.toNatClampNeg
        let after := host.setFile descriptor (.watchSet { set with queue := left ++ again })
        if events = [] ∧ milliseconds < 0 then none else some (.ok events, after)
  | some _ => some (.error .invalidArgument, host)

def wakeWatchers (host : IsolatedHost) (descriptor : Descriptor) : IsolatedHost :=
  { host with
    files := host.files.map fun file => match file with
      | .watchSet set =>
          if (set.find? descriptor).isSome then .watchSet (set.enqueue descriptor) else file
      | _ => file }

def closeFile (host : IsolatedHost) (descriptor : Descriptor) : IsolatedHost :=
  { host with
    files := (host.files.erase descriptor).map fun file => match file with
      | .watchSet set => .watchSet (set.forget descriptor)
      | _ => file }

def pipeCapacity : Nat := 65536

def writeToPipe (host : IsolatedHost) (reader : Descriptor) (data : List UInt8) :
    Except Errno Nat × IsolatedHost :=
  match host.file? reader with
  | some (.pipeReader contents) =>
      if pipeCapacity < contents.length + data.length then (.error .tryAgain, host)
      else
        let written := host.setFile reader (.pipeReader (contents ++ data))
        (.ok data.length, wakeWatchers written reader)
  | _ => (.error .brokenPipe, host)

def readFromPipe (host : IsolatedHost) (reader : Descriptor) (capacity : Nat) :
    Except Errno (List UInt8) × IsolatedHost :=
  match host.file? reader with
  | some (.pipeReader []) => (.error .tryAgain, host)
  | some (.pipeReader contents) =>
      (.ok (contents.take capacity), host.setFile reader (.pipeReader (contents.drop capacity)))
  | _ => (.error .badDescriptor, host)

end SocketReactor.Isolated
