import SocketReactor.Proofs.Host.Runs
import SocketReactor.Selector.Poll

/-!
# The calls of a poll

A poll waits once, and all it calls then is to its backend: it changes what is watched, reads and
writes the pipe, and closes what was to be closed.  Whatever allows these calls allows the whole of
what a poll does after its wait.
-/

namespace SocketReactor

variable {allowed : Call → Prop}

namespace Backend

/-- Waking writes to the pipe. -/
theorem only_notify (backend : Backend) (writes : ∀ data, allowed (.writePipe backend.writer data)) :
    backend.notify.Ensures allowed fun _ => True := by
  refine Program.Ensures.bind (Program.only_request (writes _)) ?_
  intro reply _
  cases reply <;> exact trivial

/-- Draining reads from the pipe, by induction on how often it may. -/
theorem only_drainUpTo (backend : Backend)
    (reads : ∀ capacity, allowed (.readPipe backend.reader capacity)) (count : Nat) :
    (backend.drainUpTo count).Ensures allowed fun _ => True := by
  induction count with
  | zero => exact trivial
  | succ count ih =>
      refine Program.Ensures.bind (Program.only_request (reads _)) ?_
      intro reply _
      match reply with
      | .error _ => exact trivial
      | .ok [] => exact trivial
      | .ok (_ :: _) => exact ih.bind fun _ _ => trivial

theorem only_close (backend : Backend) (closes : ∀ descriptor, allowed (.close descriptor)) :
    backend.close.Ensures allowed fun _ => True :=
  Program.Ensures.bind (Program.only_request (closes _)) fun _ _ =>
    Program.Ensures.bind (Program.only_request (closes _)) fun _ _ =>
      Program.Ensures.bind (Program.only_request (closes _)) fun _ _ => trivial

end Backend

/-- Bringing a backend in line changes what it watches, if it calls at all. -/
theorem Key.only_sync (key : Key) {backend : Backend}
    (watches : ∀ change, allowed (.watch backend.poll change)) (ops : OpSet) :
    (key.sync backend ops).Ensures allowed fun _ => True := by
  unfold sync
  dsimp only
  split
  · split
    · exact Program.Ensures.bind (Program.only_request (watches _)) fun _ _ => trivial
    · exact trivial
  · split
    · exact Program.Ensures.bind (Program.only_request (watches _)) fun _ _ => trivial
    · refine Program.Ensures.bind (Program.only_request (watches _)) ?_
      intro reply _
      cases reply <;> exact trivial

/-- The calls that a poll makes to its backend once it has waited. -/
structure Backend.Allows (backend : Backend) (allowed : Call → Prop) : Prop where
  watches : ∀ change, allowed (.watch backend.poll change)
  writes : ∀ data, allowed (.writePipe backend.writer data)
  reads : ∀ capacity, allowed (.readPipe backend.reader capacity)

namespace Selector

variable {backend : Backend} {selector : Selector}

/-- What the events of a wait lead to in the selector leaves its phase. -/
theorem phase_absorb (events : List ReadyEvent) :
    (selector.absorb events).selector.phase = selector.phase := by
  have step : ∀ (state : Absorbed) (event : ReadyEvent),
      (absorbEvent state event).selector.phase = state.selector.phase := by
    intro state event
    unfold absorbEvent
    split
    · rfl
    · dsimp only
      split
      · rfl
      · split <;> rfl
  unfold absorb
  generalize start : Absorbed.mk selector [] false = state
  have same : state.selector.phase = selector.phase := by rw [← start]
  clear start
  induction events generalizing state with
  | nil => exact same
  | cons event rest ih => exact ih _ ((step state event).trans same)

theorem only_disarm (watches : ∀ change, allowed (.watch backend.poll change)) (serial : Nat) :
    (selector.disarm backend serial).Ensures allowed fun later => later.phase = selector.phase := by
  unfold disarm
  split
  · exact rfl
  · split
    · exact Program.Ensures.bind (Key.only_sync _ watches _) fun _ _ => rfl
    · exact rfl

theorem only_disarmAll (watches : ∀ change, allowed (.watch backend.poll change))
    (serials : List Nat) :
    (selector.disarmAll backend serials).Ensures allowed
      fun later => later.phase = selector.phase := by
  induction serials generalizing selector with
  | nil => exact rfl
  | cons serial rest ih =>
      refine (only_disarm watches serial).bind ?_
      intro between phase
      exact ih.mono fun later same => same.trans phase

theorem only_consumeWakeup (writes : ∀ data, allowed (.writePipe backend.writer data))
    (reads : ∀ capacity, allowed (.readPipe backend.reader capacity)) :
    (selector.consumeWakeup backend).Ensures allowed
      fun later => later.phase = selector.phase := by
  have renotified : (selector.clearWakeup.renotify backend).Ensures allowed fun _ => True := by
    unfold renotify
    split
    · exact (backend.only_notify writes).bind fun _ _ => trivial
    · exact trivial
  exact (backend.only_drainUpTo reads _).bind fun _ _ => renotified.bind fun _ _ => rfl

theorem only_process (allows : backend.Allows allowed) (events : List ReadyEvent) :
    (selector.process backend events).Ensures allowed
      fun result => result.2.phase = selector.phase := by
  refine (only_disarmAll allows.watches _).bind ?_
  intro disarmed phase
  have same : disarmed.phase = selector.phase := phase.trans (phase_absorb events)
  dsimp only
  split
  · exact (only_consumeWakeup allows.writes allows.reads).bind fun after phase' => phase'.trans same
  · exact same

theorem only_endPoll (closes : ∀ descriptor, allowed (.close descriptor)) :
    selector.endPoll.Ensures allowed fun _ => True := by
  unfold endPoll
  split
  · exact (Backend.only_close _ closes).bind fun _ _ => trivial
  · exact trivial

theorem only_completePoll (allows : backend.Allows allowed)
    (closes : ∀ descriptor, allowed (.close descriptor)) (reply : Except Errno (List ReadyEvent)) :
    (selector.completePoll backend reply).Ensures allowed fun _ => True := by
  have processed : ∀ events,
      (selector.completePoll backend (.ok events)).Ensures allowed fun _ => True :=
    fun events => (only_process allows events).bind fun _ _ =>
      (only_endPoll closes).bind fun _ _ => trivial
  cases reply with
  | ok events => exact processed events
  | error errno =>
      unfold completePoll
      dsimp only
      split
      · exact processed []
      · exact (only_endPoll closes).bind fun _ _ => trivial

/-- A poll of an open selector begins with its wait. -/
theorem poll_eq_ask (isOpen : selector.phase = .opened backend) (limit : Option Duration) :
    selector.poll limit =
      .ask (.await backend.poll selector.waitCapacity.toUInt32.toInt32
        (Backend.waitMilliseconds limit)) (selector.enterPoll.completePoll backend) := by
  have fetched : selector.backend = .ok backend := by rw [Selector.backend, isOpen]
  simp only [poll, beginPoll, fetched]
  rfl

/-- A poll makes its wait and calls to its backend, if it has one. -/
theorem only_poll (limit : Option Duration)
    (waits : ∀ descriptor capacity,
      allowed (.await descriptor capacity (Backend.waitMilliseconds limit)))
    (allows : ∀ backend : Backend, backend.Allows allowed)
    (closes : ∀ descriptor, allowed (.close descriptor)) :
    (selector.poll limit).Ensures allowed fun _ => True := by
  cases phase : selector.phase with
  | opened backend =>
      rw [poll_eq_ask phase]
      exact ⟨waits _ _, fun reply => only_completePoll (allows backend) closes reply⟩
  | unopened | closing | closed | ended =>
      have none : selector.backend = .error .notOpen := by rw [Selector.backend, phase]
      simp only [poll, beginPoll, none]
      exact trivial

end Selector

end SocketReactor
