import SocketReactor.Session.Basic

/-!
# Time in a session

Time passes in pauses and while a selector waits. What is due happens then, also in the
middle of a wait, which sees it as its events if it concerns the same selector.
-/

namespace SocketReactor.Session

/-- Puts something that is to happen in its place by time, after what is due at once with it. -/
def insertLater (later : Later) : List Later → List Later
  | [] => [later]
  | first :: rest =>
      if later.due < first.due then later :: first :: rest else first :: insertLater later rest

namespace Task

/-- Lets something happen to a selector, which is then no longer held for it. -/
def happen (later : Later) : Task Unit := do
  Task.onReactor fun reactor => reactor.stepSelector later.selector fun selector =>
    match later.alarm with
    | .wakeup => Prod.snd <$> selector.wakeup
    | .close => selector.close
  Task.release later.selector

/-- Lets happen what is due within some microseconds, the nearest first. -/
def elapseThrough (microseconds : Nat) : List Later → Task Unit
  | [] => modify fun session => { session with laters := [] }
  | first :: rest => do
      if first.due ≤ microseconds then
        modify fun session => { session with laters := rest }
        happen first
        elapseThrough microseconds rest
      else
        modify fun session =>
          { session with
            laters := (first :: rest).map fun later => { later with due := later.due - microseconds } }

def elapse (microseconds : Nat) : Task Unit := do
  if microseconds ≠ 0 then elapseThrough microseconds (← get).laters

def finishLaters : List Later → Task Unit
  | [] => return
  | first :: rest => do
      modify fun session => { session with laters := rest }
      happen first
      finishLaters rest

/-- Waits on a backend for at most `limit` nanoseconds from `passed` on, stopping for each
thing that happens meanwhile. -/
def waitThrough (backend : Backend) (capacity : UInt64) (limit : Option Nat) (passed : Nat) :
    List Later → Task (Except Errno (List ReadyEvent))
  | [] => Task.ofProgram (backend.wait capacity
      (limit.map fun limit => Duration.ofNanoseconds (limit - passed)))
  | first :: rest => do
      let due := first.due * 1000
      if limit.any (· ≤ due) then
        Task.ofProgram (backend.wait capacity
          (limit.map fun limit => Duration.ofNanoseconds (limit - passed)))
      else
        match ← Task.ofProgram (backend.wait capacity
            (some (Duration.ofNanoseconds (due - passed)))) with
        | .ok [] => do
            modify fun session => { session with laters := rest }
            happen first
            waitThrough backend capacity limit due rest
        | reply => return reply

/-- Polls a selector while time passes. Gives the numbers of the keys found ready and whether
the wait brought no event at all. -/
def poll (id : Nat) (limit : Option Duration) : Task (List Nat × Bool) := do
  let selector ← selectorAt id
  let (backend, cleared) ← Task.ofExcept selector.beginPoll
  Task.onReactor fun reactor => return reactor.setSelector id cleared
  let reply ← waitThrough backend cleared.waitCapacity (limit.map Duration.totalNanoseconds) 0
    (← get).laters
  let selected ← Task.ofFaulty fun reactor =>
    reactor.onSelector id (.error .notOpen) (·.completePoll backend reply)
  let silent := match reply with
    | .ok events => events.isEmpty
    | .error _ => false
  return (selected, silent)

/-- The task whose refusal is a result, to be raised again by the task that it gives. -/
def captured {α : Type} (task : Task α) : Task (Task α) :=
  ExceptT.mk do
    match ← task.run with
    | .ok value => return .ok (pure value)
    | .error refusal => return .ok (throw refusal)

/-- Polls, and then lets everything happen that is still to happen. -/
def pollThrough (id : Nat) (limit : Option Duration) : Task (List Nat × Bool) := do
  let polled ← captured (Task.poll id limit)
  finishLaters (← get).laters
  polled

end Task

end SocketReactor.Session
