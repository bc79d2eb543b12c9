import Mathlib.Logic.Function.Basic
import SocketReactor.Proofs.Selector.Pipes

/-!
# Waking a poll from other threads

One thread polls a selector again and again while any number of threads wake it.
`Interplay.Step` lets them take turns at the points where one thread can see what
another has done: reading the selector's state, noting the wakeup, writing to the
pipe, waiting, clearing the note, draining the pipe, looking at the note again and
writing once more.
-/

namespace SocketReactor

/-- Where a thread is that wakes the selector. -/
inductive Waker where
  | away
  /-- It has found the selector open. -/
  | entered (backend : Backend)
  /-- It has noted the first wakeup and has not written it to the pipe yet. -/
  | owing (backend : Backend)

/-- Where the thread is that polls the selector. -/
inductive Poller where
  | away
  | waiting (backend : Backend)
  /-- The wait has told of the pipe. -/
  | told (backend : Backend)
  /-- The note has been cleared. -/
  | cleared (backend : Backend)
  /-- The pipe has been drained. -/
  | drained (backend : Backend)
  /-- A wakeup was noted meanwhile, and has not been written to the pipe again yet. -/
  | owing (backend : Backend)

/-- A selector with its pipe, the thread that polls it and the threads that wake it. -/
structure Interplay (ι : Type) where
  selector : Selector
  contents : List UInt8
  poller : Poller
  waker : ι → Waker

/-- What a thread does without interruption. -/
inductive Turning (ι : Type) where
  | enter (who : ι)
  | note (who : ι)
  | write (who : ι)
  | begin
  | pass
  | hear
  | clear
  | drain
  | look
  | rewrite

/-- A wakeup that nobody interrupts, while another is noted or none is. -/
def Turning.wakeup {ι : Type} (who : ι) (noted : Bool) : List (Turning ι) :=
  .enter who :: .note who :: if noted then [] else [.write who]

/-- A poll that nobody interrupts, and whether it is told of the pipe. -/
def Turning.poll {ι : Type} (told : Bool) : List (Turning ι) :=
  .begin :: if told then [.hear, .clear, .drain, .look] else [.pass]

namespace Interplay

variable {ι : Type} {state middle later : Interplay ι} {who : ι}

/-- The threads while none of them is in a call. -/
def idle (selector : Selector) (contents : List UInt8) : Interplay ι :=
  ⟨selector, contents, .away, fun _ => .away⟩

/-- A wakeup that is noted is in the pipe, or a thread is about to write it: one that has
just noted it, or the poll that has just drained the pipe. -/
def Announced (state : Interplay ι) : Prop :=
  state.selector.wakeupPending = true →
    state.contents ≠ [] ∨ (∃ who backend, state.waker who = .owing backend) ∨
      ∃ backend, state.poller = .drained backend ∨ state.poller = .owing backend

/-- While the poll owes nothing, the wakeup is in the pipe or with a thread that wakes. -/
theorem Announced.unowed (announced : state.Announced)
    (unowed : ∀ backend, state.poller ≠ .drained backend ∧ state.poller ≠ .owing backend)
    (pending : state.selector.wakeupPending = true) :
    state.contents ≠ [] ∨ ∃ who backend, state.waker who = .owing backend := by
  rcases announced pending with full | owed | ⟨backend, drained | owing⟩
  · exact .inl full
  · exact .inr owed
  · exact absurd drained (unowed backend).1
  · exact absurd owing (unowed backend).2

variable [DecidableEq ι]

/-- A thread goes on by one section of its call. -/
inductive Step : Interplay ι → Turning ι → Interplay ι → Prop where
  | enter {state : Interplay ι} {who : ι} {backend : Backend}
      (away : state.waker who = .away) (reached : state.selector.backend = .ok backend) :
      Step state (.enter who)
        { state with waker := Function.update state.waker who (.entered backend) }
  /-- A wakeup was noted before, and the call returns. -/
  | join {state : Interplay ι} {who : ι} {backend : Backend}
      (entered : state.waker who = .entered backend)
      (pending : state.selector.wakeupPending = true) :
      Step state (.note who)
        { state with
          selector := state.selector.noteWakeup
          waker := Function.update state.waker who .away }
  | note {state : Interplay ι} {who : ι} {backend : Backend}
      (entered : state.waker who = .entered backend)
      (calm : state.selector.wakeupPending = false) :
      Step state (.note who)
        { state with
          selector := state.selector.noteWakeup
          waker := Function.update state.waker who (.owing backend) }
  | write {state : Interplay ι} {who : ι} {backend : Backend} {result : Except Fault Unit}
      {selector : Selector} {contents : List UInt8}
      (owing : state.waker who = .owing backend)
      (run : (state.selector.deliverWakeup backend).Runs Pipe.Answers state.contents
        (result, selector) contents) :
      Step state (.write who)
        ⟨selector, contents, state.poller, Function.update state.waker who .away⟩
  | begin {state : Interplay ι} {backend : Backend} {selector : Selector}
      (away : state.poller = .away)
      (begun : state.selector.beginPoll = .ok (backend, selector)) :
      Step state .begin { state with selector := selector, poller := .waiting backend }
  /-- The wait has not told of the pipe, and the call returns. -/
  | pass {state : Interplay ι} {backend : Backend} {limit : Option Duration}
      {reply : Except Errno (List ReadyEvent)} {between contents : List UInt8}
      {result : Except Fault (List Nat)} {selector : Selector}
      (waiting : state.poller = .waiting backend)
      (waited : (backend.wait state.selector.waitCapacity limit).Runs Pipe.Answers
        state.contents reply between)
      (silent : Selector.heard reply = false)
      (run : (state.selector.completePoll backend reply).Runs Pipe.Answers between
        (result, selector) contents) :
      Step state .pass ⟨selector, contents, .away, state.waker⟩
  /-- The wait has told of the pipe, and the keys have been seen to. -/
  | hear {state : Interplay ι} {backend : Backend} {limit : Option Duration}
      {events : List ReadyEvent} {between contents : List UInt8} {selector : Selector}
      (waiting : state.poller = .waiting backend)
      (waited : (backend.wait state.selector.waitCapacity limit).Runs Pipe.Answers
        state.contents (.ok events) between)
      (told : Selector.heard (.ok events) = true)
      (run : ((state.selector.absorb events).selector.disarmAll backend
        (state.selector.absorb events).selected).Runs Pipe.Answers between selector contents) :
      Step state .hear ⟨selector, contents, .told backend, state.waker⟩
  | clear {state : Interplay ι} {backend : Backend} (told : state.poller = .told backend) :
      Step state .clear
        { state with selector := state.selector.clearWakeup, poller := .cleared backend }
  | drain {state : Interplay ι} {backend : Backend} {dropped : Nat} {contents : List UInt8}
      (cleared : state.poller = .cleared backend)
      (run : backend.drain.Runs Pipe.Answers state.contents dropped contents) :
      Step state .drain { state with contents := contents, poller := .drained backend }
  /-- No wakeup was noted meanwhile, and the call returns. -/
  | leave {state : Interplay ι} {backend : Backend} {selector : Selector}
      {contents : List UInt8} (drained : state.poller = .drained backend)
      (calm : state.selector.wakeupPending = false)
      (run : state.selector.endPoll.Runs Pipe.Answers state.contents selector contents) :
      Step state .look ⟨selector, contents, .away, state.waker⟩
  | look {state : Interplay ι} {backend : Backend} (drained : state.poller = .drained backend)
      (pending : state.selector.wakeupPending = true) :
      Step state .look { state with poller := .owing backend }
  /-- The wakeup is written again, and the call returns. -/
  | rewrite {state : Interplay ι} {backend : Backend} {reply : Except Errno Unit}
      {selector : Selector} {between contents : List UInt8}
      (owing : state.poller = .owing backend)
      (notified : backend.notify.Runs Pipe.Answers state.contents reply between)
      (run : state.selector.endPoll.Runs Pipe.Answers between selector contents) :
      Step state .rewrite ⟨selector, contents, .away, state.waker⟩

inductive Run (origin : Interplay ι) : List (Turning ι) → Interplay ι → Prop where
  | nil : Run origin [] origin
  | snoc {turns : List (Turning ι)} {state later : Interplay ι} {turn : Turning ι}
      (past : Run origin turns state) (step : Step state turn later) :
      Run origin (turns ++ [turn]) later

/-- Another thread still owes its write when one that owes none goes on. -/
theorem owes_update {waker : ι → Waker} {next : Waker}
    (unowed : ∀ backend, waker who ≠ .owing backend)
    (owed : ∃ other backend, waker other = .owing backend) :
    ∃ other backend, Function.update waker who next other = .owing backend := by
  obtain ⟨other, backend, owing⟩ := owed
  refine ⟨other, backend, ?_⟩
  rw [Function.update_of_ne]
  · exact owing
  · rintro rfl
    exact unowed backend owing

theorem eq_of_wait {backend : Backend} {capacity : UInt64} {limit : Option Duration}
    {contents between : List UInt8} {reply : Except Errno (List ReadyEvent)}
    (waited : (backend.wait capacity limit).Runs Pipe.Answers contents reply between) :
    between = contents := by
  have answered := Program.runs_request.mp waited
  cases reply with
  | ok events => exact answered.2
  | error errno => exact answered

/-- No step leaves a noted wakeup to nobody. -/
theorem Announced.step {turn : Turning ι} (announced : state.Announced)
    (step : Step state turn later) : later.Announced := by
  intro pending
  cases step with
  | enter away reached =>
      refine (announced pending).imp_right (Or.imp_left (owes_update ?_))
      intro backend owing
      rw [away] at owing
      cases owing
  | join entered pending' =>
      refine (announced pending').imp_right (Or.imp_left (owes_update ?_))
      intro backend owing
      rw [entered] at owing
      cases owing
  -- Whoever notes a wakeup owes the write from then on.
  | note entered calm => exact .inr (.inl ⟨_, _, Function.update_self _ _ _⟩)
  | write owing run =>
      obtain ⟨-, -, notified⟩ := Selector.notified_of_deliverWakeup run
      exact .inl (Backend.ne_nil_of_notify notified)
  | begin away begun =>
      have same := (Selector.resembles_of_beginPoll begun).2
      have unowed := announced.unowed (by simp [away]) (same ▸ pending)
      exact unowed.imp_right .inl
  | pass waiting waited silent run =>
      obtain ⟨-, same, rfl⟩ := Selector.settled_of_silent silent run
      obtain rfl := eq_of_wait waited
      have unowed := announced.unowed (by simp [waiting]) (same ▸ pending)
      exact unowed.imp_right .inl
  | hear waiting waited told run =>
      obtain ⟨disarms, rfl⟩ := Selector.resembles_of_disarmAll run
      obtain rfl := eq_of_wait waited
      have same := ((Selector.resembles_absorb _ _).trans disarms).2
      have unowed := announced.unowed (by simp [waiting]) (same ▸ pending)
      exact unowed.imp_right .inl
  | clear told => cases pending
  | drain cleared run => exact .inr (.inr ⟨_, .inl rfl⟩)
  | leave drained calm run =>
      obtain ⟨-, same, -⟩ := Selector.settled_of_endPoll run
      cases (same.trans calm).symm.trans pending
  -- The poll has seen the note, and writes in place of whoever left it.
  | look drained pending' => exact .inr (.inr ⟨_, .inr rfl⟩)
  | rewrite owing notified run =>
      obtain ⟨-, -, rfl⟩ := Selector.settled_of_endPoll run
      exact .inl (Backend.ne_nil_of_notify notified)

/-- No run leaves a noted wakeup to nobody. -/
theorem Announced.run {turns : List (Turning ι)} (announced : state.Announced)
    (run : Run state turns later) : later.Announced := by
  induction run with
  | nil => exact announced
  | snoc past step ih => exact ih.step step

end Interplay

end SocketReactor
