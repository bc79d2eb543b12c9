import SocketReactor.Selector.Basic

/-!
# Polling

A poll fetches the backend, forgets what was ready, waits for events, and gives each key
that an event makes ready. Its sections are definitions of their own, since other threads
may act between two of them: `beginPoll`, the wait, `absorb` with `disarmAll`, the steps
that consume a wakeup, and `endPoll`.
-/

namespace SocketReactor.Selector

def forgetReady (selector : Selector) : Selector :=
  let cleared := selector.registered.foldl
    (fun keys serial => keys.modify serial fun key => { key with ready := .none }) selector.keys
  { selector with keys := cleared }

def enterPoll (selector : Selector) : Selector := { selector.forgetReady with polling := true }

/-- Fetches the backend and forgets what was ready. -/
def beginPoll (selector : Selector) : Except Fault (Backend × Selector) := do
  let backend ← selector.backend
  return (backend, selector.enterPoll)

/-- What the events of a wait have led to so far: the selector, the keys found ready in
order, and whether the pipe was among the events. -/
structure Absorbed where
  selector : Selector
  selected : List Nat
  woke : Bool

/-- Takes one event in. Events of keys that are gone or no longer count are passed over. -/
def absorbEvent (state : Absorbed) (event : ReadyEvent) : Absorbed :=
  if event.token = Backend.notifyToken then { state with woke := true }
  else
    let found := do
      let serial ← state.selector.registry.get? event.token
      let key ← state.selector.key? serial
      return (serial, key)
    match found with
    | none => state
    | some (serial, key) =>
        let ready := key.readiness event
        if !key.valid || ready.isEmpty then state
        else
          { state with
            selector := state.selector.setKey serial { key with ready := key.ready ∪ ready }
            selected := if key.ready.isEmpty then state.selected ++ [serial] else state.selected }

def absorb (selector : Selector) (events : List ReadyEvent) : Absorbed :=
  events.foldl absorbEvent ⟨selector, [], false⟩

/-- Drops the interest in a connection from a key that has just reported one. A refusal of
the backend is passed over. -/
def disarm (selector : Selector) (backend : Backend) (serial : Nat) : Program Selector :=
  match selector.key? serial with
  | none => return selector
  | some key =>
      if key.ready.connect then do
        let remaining := key.interest ∩ OpSet.connecting.complement
        let (_, synced) ← { key with interest := remaining }.sync backend remaining
        return selector.setKey serial synced
      else return selector

/-- Drops the interest in connections from all keys that have just reported one. -/
def disarmAll (selector : Selector) (backend : Backend) : List Nat → Program Selector
  | [] => return selector
  | serial :: rest => do
      let after ← selector.disarm backend serial
      after.disarmAll backend rest

/-- Wakes the next poll if a wakeup came since the last one was noted. -/
def renotify (selector : Selector) (backend : Backend) : Program Unit :=
  if selector.wakeupPending then do
    let _ ← backend.notify
  else return ()

def consumeWakeup (selector : Selector) (backend : Backend) : Program Selector := do
  let cleared := selector.clearWakeup
  let _ ← backend.drain
  cleared.renotify backend
  return cleared

/-- Processes the events of a wait. Gives the keys found ready. -/
def process (selector : Selector) (backend : Backend) (events : List ReadyEvent) :
    Program (List Nat × Selector) := do
  let absorbed := selector.absorb events
  let disarmed ← absorbed.selector.disarmAll backend absorbed.selected
  let after ← if absorbed.woke then disarmed.consumeWakeup backend else pure disarmed
  return (absorbed.selected, after)

/-- Lets go of the backend. It is given back if the selector was closed meanwhile. -/
def endPoll (selector : Selector) : Program Selector :=
  match selector.phase with
  | .closing backend => do
      backend.close
      return { selector with phase := .closed, polling := false }
  | _ => return { selector with polling := false }

/-- What a wait that has returned leads to. An interrupted wait finds no events. -/
def completePoll (selector : Selector) (backend : Backend)
    (reply : Except Errno (List ReadyEvent)) : Program (Except Fault (List Nat) × Selector) := do
  match reply with
  | .ok events => do
      let (selected, after) ← selector.process backend events
      return (.ok selected, ← after.endPoll)
  | .error errno =>
      if errno = .interrupted then do
        let (selected, after) ← selector.process backend []
        return (.ok selected, ← after.endPoll)
      else return (.error (.backendFailed errno "epoll_wait"), ← selector.endPoll)

/-- Waits for readiness, at most as long as the limit says, and gives the numbers of the keys
with something ready in the order in which events told of them. -/
def poll (selector : Selector) (limit : Option Duration) :
    Program (Except Fault (List Nat) × Selector) :=
  match selector.beginPoll with
  | .error fault => return (.error fault, selector)
  | .ok (backend, cleared) => do
      let reply ← backend.wait cleared.waitCapacity limit
      cleared.completePoll backend reply

end SocketReactor.Selector
