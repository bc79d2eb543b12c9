import SocketReactor.Proofs.Host.Kernel
import SocketReactor.Proofs.Selector.Calls
import SocketReactor.Proofs.Selector.Outcomes

/-!
# Outcomes of opening, waking and closing

What the operations on a whole selector may do, whatever the host answers.
Waking and draining the pipe are quiet: they neither open nor close nor change
what is watched.
-/

namespace SocketReactor

variable {σ : Type} {answers : Answering σ}

namespace Backend

theorem notify_isQuiet (backend : Backend) :
    backend.notify.Ensures Call.IsQuiet fun _ => True := backend.only_notify fun _ => trivial

end Backend

namespace Selector

/-- Emptying the registry lets go of the registered keys and of no other. -/
theorem key?_clearRegistry (selector : Selector) (serial : Nat) :
    selector.clearRegistry.key? serial =
      if serial ∈ selector.registered then
        (selector.key? serial).map fun key => { key.invalidate with armed := false }
      else selector.key? serial :=
  Table.get?_foldl_modify (fun key : Key => { key.invalidate with armed := false })
    (fun _ => rfl) selector.registered selector.keys serial

inductive Opening (answers : Answering σ) (selector : Selector) :
    σ → Except Fault Unit → Selector → σ → Prop where
  /-- It was opened before. -/
  | unasked {state : σ} {result : Except Fault Unit} (begun : selector.phase ≠ .unopened) :
      Opening answers selector state result selector state
  | opened {state after : σ} {backend : Backend} (fresh : selector.phase = .unopened)
      (run : Backend.openNew.Runs answers state (.ok backend) after) :
      Opening answers selector state (.ok ())
        { selector with phase := .opened backend } after
  | failed {state after : σ} {errno : Errno} (fresh : selector.phase = .unopened)
      (run : Backend.openNew.Runs answers state (.error errno) after) :
      Opening answers selector state
        (.error (.backendFailed errno "epoll_create1")) selector after

theorem opening_of_runs {selector later : Selector} {state after : σ}
    {result : Except Fault Unit}
    (run : selector.openBackend.Runs answers state (result, later) after) :
    Opening answers selector state result later after := by
  unfold openBackend at run
  cases phase : selector.phase with
  | unopened =>
      simp only [phase, Program.runs_bind] at run
      obtain ⟨outcome, between, opened, rest⟩ := run
      cases outcome with
      | ok backend =>
          obtain ⟨same, rfl⟩ := rest
          cases same
          exact .opened phase opened
      | error errno =>
          obtain ⟨same, rfl⟩ := rest
          cases same
          exact .failed phase opened
  | opened _ | closing _ | closed | ended =>
      simp only [phase] at run
      obtain ⟨same, rfl⟩ := run
      cases same
      exact .unasked (by simp [phase])

inductive Closing (answers : Answering σ) (selector : Selector) :
    σ → Selector → σ → Prop where
  | released {state between after : σ} {backend : Backend} {reply : Except Errno Unit}
      (isOpen : selector.phase = .opened backend) (unheld : selector.polling = false)
      (notified : backend.notify.Runs answers state reply between)
      (closed : backend.close.Runs answers between () after) :
      Closing answers selector state
        { selector.clearRegistry with phase := .closed } after
  /-- A poll still holds the backend. -/
  | held {state after : σ} {backend : Backend} {reply : Except Errno Unit}
      (isOpen : selector.phase = .opened backend) (holding : selector.polling = true)
      (notified : backend.notify.Runs answers state reply after) :
      Closing answers selector state
        { selector.clearRegistry with phase := .closing backend } after
  /-- It was not open. -/
  | shut {state : σ} {phase : Phase} (shut : selector.isOpen = false)
      (kept : phase = selector.phase ∨ phase = .closed) :
      Closing answers selector state { selector.clearRegistry with phase := phase } state

theorem closing_of_runs {selector later : Selector} {state after : σ}
    (run : selector.close.Runs answers state later after) :
    Closing answers selector state later after := by
  unfold close at run
  cases phase : selector.phase with
  | opened backend =>
      simp only [phase, Program.runs_bind] at run
      obtain ⟨reply, between, notified, rest⟩ := run
      split at rest
      · rename_i holding
        obtain ⟨rfl, rfl⟩ := rest
        exact .held phase holding notified
      · rename_i unheld
        rw [Program.runs_bind] at rest
        obtain ⟨⟨⟩, last, closed, rfl, rfl⟩ := rest
        exact .released phase (Bool.eq_false_iff.mpr unheld) notified closed
  | closing _ | ended =>
      simp only [phase] at run
      obtain ⟨rfl, rfl⟩ := run
      exact .shut (by simp [isOpen, phase]) (.inl rfl)
  | unopened | closed =>
      simp only [phase] at run
      obtain ⟨rfl, rfl⟩ := run
      exact .shut (by simp [isOpen, phase]) (.inr rfl)

inductive Finishing (answers : Answering σ) (selector : Selector) :
    σ → Selector → σ → Prop where
  | released {state after : σ} {backend : Backend}
      (held : selector.phase = .opened backend ∨ selector.phase = .closing backend)
      (closed : backend.close.Runs answers state () after) :
      Finishing answers selector state
        { selector.clearRegistry with phase := .ended } after
  | bare {state : σ} (unheld : ∀ backend, selector.phase ≠ .opened backend ∧
      selector.phase ≠ .closing backend) :
      Finishing answers selector state
        { selector.clearRegistry with phase := .ended } state

theorem finishing_of_runs {selector later : Selector} {state after : σ}
    (run : selector.finish.Runs answers state later after) :
    Finishing answers selector state later after := by
  unfold finish at run
  cases phase : selector.phase with
  | opened backend =>
      simp only [phase, Program.runs_bind] at run
      obtain ⟨⟨⟩, last, closed, rfl, rfl⟩ := run
      exact .released (.inl phase) closed
  | closing backend =>
      simp only [phase, Program.runs_bind] at run
      obtain ⟨⟨⟩, last, closed, rfl, rfl⟩ := run
      exact .released (.inr phase) closed
  | unopened | closed | ended =>
      simp only [phase] at run
      obtain ⟨rfl, rfl⟩ := run
      exact .bare (by simp [phase])

/-- A wakeup changes nothing but whether one is pending, and writes to the pipe at most. -/
theorem wakeup_of_runs {selector later : Selector} {state after : σ}
    {result : Except Fault Unit}
    (run : selector.wakeup.Runs answers state (result, later) after) :
    later = { selector with wakeupPending := later.wakeupPending } ∧
      answers.Quietly state after := by
  unfold wakeup at run
  split at run
  · obtain ⟨same, rfl⟩ := run
    cases same
    exact ⟨rfl, .refl⟩
  · rename_i backend reached
    split at run
    · obtain ⟨same, rfl⟩ := run
      cases same
      exact ⟨rfl, .refl⟩
    · simp only [deliverWakeup, Program.runs_bind] at run
      obtain ⟨reply, between, notified, rest⟩ := run
      have quietly : answers.Quietly state between := ⟨_, _, _, backend.notify_isQuiet, notified⟩
      cases reply <;>
      · obtain ⟨same, rfl⟩ := rest
        cases same
        exact ⟨rfl, quietly⟩

end Selector

end SocketReactor
