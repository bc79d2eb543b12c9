import SocketReactor.Selector.Key
import SocketReactor.Setup.Bundles
import SocketReactor.Table

/-!
# Selectors

A selector watches channels through a backend. It is opened once and closed once, and it
ends when nobody holds it any more. It numbers the keys that it issues; the registry
holds those that count, under their tokens.
-/

namespace SocketReactor

inductive Phase where
  | unopened
  | opened (backend : Backend)
  /-- Closed while a poll still holds the backend. -/
  | closing (backend : Backend)
  | closed
  /-- Nobody holds the selector any more. -/
  | ended
  deriving DecidableEq, Repr

structure Selector where
  capacity : UInt64
  phase : Phase
  keys : Table Nat Key
  registry : Table UInt64 Nat
  issued : Nat
  wakeupPending : Bool
  polling : Bool
  deriving DecidableEq

namespace Selector

def new (selection : Setup.Selection) : Selector :=
  ⟨selection.eventCapacity, .unopened, ∅, ∅, 0, false, false⟩

instance : Inhabited Selector := ⟨new .usual⟩

def isOpen (selector : Selector) : Bool :=
  match selector.phase with
  | .opened _ => true
  | _ => false

/-- Whether somebody still holds the selector. -/
def isHeld (selector : Selector) : Bool := selector.phase ≠ .ended

def backend (selector : Selector) : Except Fault Backend :=
  match selector.phase with
  | .opened backend => .ok backend
  | _ => .error .notOpen

def key? (selector : Selector) (serial : Nat) : Option Key := selector.keys.get? serial

/-- Puts a key in the place of the one with a number. -/
def setKey (selector : Selector) (serial : Nat) (key : Key) : Selector :=
  { selector with keys := selector.keys.insert serial key }

def updateKey (selector : Selector) (serial : Nat) (change : Key → Key) : Selector :=
  { selector with keys := selector.keys.modify serial change }

def registered (selector : Selector) : List Nat := selector.registry.entries.map Prod.snd

def validKeys (selector : Selector) : List Nat :=
  selector.registered.filter fun serial => (selector.key? serial).any Key.valid

def waitCapacity (selector : Selector) : UInt64 := max selector.capacity 1

def text (selector : Selector) : String :=
  "Selector \x7b open: " ++ Key.truthText selector.isOpen ++
    ", keys: " ++ Numeral.decimal selector.registry.size ++ " \x7d"

/-- Opens the selector. Opening an open one does nothing; a closed one stays closed. The
buffer for the events of a wait, twelve octets for each that the capacity allows, is left out,
and with it the panic of a capacity whose buffer would have 2 ^ 63 octets or more. -/
def openBackend (selector : Selector) : Program (Except Fault Unit × Selector) :=
  match selector.phase with
  | .opened _ => return (.ok (), selector)
  | .unopened => do
      match ← Backend.openNew with
      | .ok backend => return (.ok (), { selector with phase := .opened backend })
      | .error errno => return (.error (.backendFailed errno "epoll_create1"), selector)
  | _ => return (.error .notOpen, selector)

/-- Empties the registry; its keys no longer count and are no longer watched. -/
def clearRegistry (selector : Selector) : Selector :=
  let released := selector.registered.foldl
    (fun keys serial => keys.modify serial fun key => { key.invalidate with armed := false })
    selector.keys
  { selector with keys := released, registry := ∅ }

/-- Closes the selector for good and wakes a poll that waits. The backend is given back as
soon as no poll holds it. -/
def close (selector : Selector) : Program Selector :=
  match selector.phase with
  | .opened backend => do
      let cleared := selector.clearRegistry
      let _ ← backend.notify
      if selector.polling then return { cleared with phase := .closing backend }
      else do
        backend.close
        return { cleared with phase := .closed }
  | .closing _ | .ended => return selector.clearRegistry
  | .unopened | .closed => return { selector.clearRegistry with phase := .closed }

def finish (selector : Selector) : Program Selector := do
  let ended := { selector.clearRegistry with phase := .ended }
  match selector.phase with
  | .opened backend | .closing backend => do
      backend.close
      return ended
  | _ => return ended

def noteWakeup (selector : Selector) : Selector := { selector with wakeupPending := true }

/-- Takes note that the wakeup has reached a poll, or that there is none after all. -/
def clearWakeup (selector : Selector) : Selector := { selector with wakeupPending := false }

/-- Writes a wakeup that has been noted to the pipe. It is forgotten if that fails. -/
def deliverWakeup (selector : Selector) (backend : Backend) :
    Program (Except Fault Unit × Selector) := do
  match ← backend.notify with
  | .ok () => return (.ok (), selector)
  | .error errno => return (.error (.backendFailed errno "write"), selector.clearWakeup)

/-- Makes the present or the next poll return. Only the first of several wakeups before a
poll reaches the pipe. Other threads may act between the sections. -/
def wakeup (selector : Selector) : Program (Except Fault Unit × Selector) :=
  match selector.backend with
  | .error fault => return (.error fault, selector)
  | .ok backend =>
      if selector.wakeupPending then return (.ok (), selector.noteWakeup)
      else selector.noteWakeup.deliverWakeup backend

end Selector

end SocketReactor
