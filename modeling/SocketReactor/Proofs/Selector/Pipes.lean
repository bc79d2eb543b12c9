import SocketReactor.Proofs.Selector.Polls

/-!
# The pipe of a selector

A host seen from the pipe of one selector: its state is what the pipe holds.  A
write adds to that or finds the pipe full, and a wait tells of the pipe only if
there is something to read.  For each operation that touches the pipe it is said
what becomes of the pipe and of the note that a wakeup is pending.
-/

namespace SocketReactor

/-- What a host may answer, as far as the pipe of one selector goes.  Both ends of the pipe
are open, so that writing fails only on a full pipe and reading only on an empty one. -/
def Pipe.Answers : Answering (List UInt8)
  | .writePipe _ data, contents, .ok _, after => after = contents ++ data
  | .writePipe _ _, contents, .error errno, after =>
      errno = .tryAgain ∧ contents ≠ [] ∧ after = contents
  | .readPipe _ capacity, contents, .ok data, after =>
      data ≠ [] ∧ data = contents.take capacity ∧ after = contents.drop capacity
  | .readPipe _ _, contents, .error _, after => contents = [] ∧ after = contents
  | .await _ _ _, contents, .ok events, after =>
      ((∃ event ∈ events, event.token = Backend.notifyToken) → contents ≠ []) ∧
        after = contents
  | _, contents, _, after => after = contents

variable {contents after : List UInt8}

namespace Backend

variable {backend : Backend}

/-- Waking a wait succeeds and leaves something in the pipe: one octet more, or what a full
pipe held. -/
theorem notify_fills {reply : Except Errno Unit}
    (run : backend.notify.Runs Pipe.Answers contents reply after) :
    reply = .ok () ∧ (after = contents ++ [1] ∨ contents ≠ [] ∧ after = contents) := by
  obtain ⟨written, between, answered, rest⟩ := Program.runs_bind.mp run
  have told := Program.runs_request.mp answered
  cases written with
  | ok count =>
      obtain ⟨rfl, rfl⟩ := rest
      exact ⟨rfl, .inl told⟩
  | error errno =>
      obtain ⟨rfl, full, same⟩ := told
      obtain ⟨rfl, rfl⟩ := rest
      exact ⟨rfl, .inr ⟨full, same⟩⟩

theorem ne_nil_of_notify {reply : Except Errno Unit}
    (run : backend.notify.Runs Pipe.Answers contents reply after) : after ≠ [] := by
  rcases (notify_fills run).2 with rfl | ⟨full, rfl⟩
  · simp
  · exact full

/-- Every read takes one chunk away, as long as there is anything. -/
theorem drops_of_runs_drainUpTo {reads dropped : Nat}
    (run : (backend.drainUpTo reads).Runs Pipe.Answers contents dropped after) :
    after = contents.drop (drainChunk * reads) := by
  induction reads generalizing contents dropped with
  | zero => exact run.2
  | succ reads ih =>
      obtain ⟨data, between, answered, rest⟩ := Program.runs_bind.mp run
      have told := Program.runs_request.mp answered
      match data with
      | .error errno =>
          obtain ⟨rfl, rfl⟩ := told
          obtain ⟨-, rfl⟩ := rest
          exact List.drop_nil.symm
      | .ok [] => exact absurd rfl told.1
      | .ok (octet :: octets) =>
          obtain ⟨others, last, run', -, rfl⟩ := Program.runs_bind.mp rest
          rw [ih run', told.2.2, List.drop_drop, Nat.mul_succ, Nat.add_comm]

/-- Draining empties a pipe, which holds at most 65536 octets. -/
theorem empties_of_runs_drain {dropped : Nat} (bound : contents.length ≤ 65536)
    (run : backend.drain.Runs Pipe.Answers contents dropped after) : after = [] := by
  rw [drops_of_runs_drainUpTo run, List.drop_eq_nil_iff]
  exact bound.trans (by decide)

end Backend

theorem Key.Synced.silent {backend : Backend} {key synced : Key} {ops : OpSet}
    {reply : Except Errno Unit}
    (outcome : Key.Synced Pipe.Answers backend key ops contents reply synced after) :
    after = contents := by
  cases outcome with
  | idle empty unarmed => rfl
  | deleted _ _ answered | modified _ _ answered | added _ _ answered | refused _ _ answered =>
      exact answered

namespace Selector

variable {selector later : Selector} {backend : Backend}

/-! ## Waking -/

/-- Delivering a wakeup succeeds and leaves the selector alone. -/
theorem notified_of_deliverWakeup {result : Except Fault Unit}
    (run : (selector.deliverWakeup backend).Runs Pipe.Answers contents (result, later) after) :
    result = .ok () ∧ later = selector ∧
      backend.notify.Runs Pipe.Answers contents (.ok ()) after := by
  obtain ⟨reply, between, notified, rest⟩ := Program.runs_bind.mp run
  obtain ⟨rfl, -⟩ := Backend.notify_fills notified
  obtain ⟨same, rfl⟩ := rest
  cases same
  exact ⟨rfl, rfl, notified⟩

/-- A wakeup of an open selector succeeds, is noted, and reaches the pipe unless one was
noted before. -/
theorem noted_of_wakeup {result : Except Fault Unit}
    (isOpen : selector.phase = .opened backend)
    (run : selector.wakeup.Runs Pipe.Answers contents (result, later) after) :
    result = .ok () ∧ later = selector.noteWakeup ∧
      if selector.wakeupPending then after = contents
      else backend.notify.Runs Pipe.Answers contents (.ok ()) after := by
  unfold wakeup at run
  rw [backend_eq_ok_iff.mpr isOpen] at run
  dsimp only at run
  split at run
  · rename_i pending
    obtain ⟨same, rfl⟩ := run
    cases same
    exact ⟨rfl, rfl, by rw [if_pos pending]⟩
  · rename_i calm
    obtain ⟨rfl, rfl, notified⟩ := notified_of_deliverWakeup run
    refine ⟨rfl, rfl, ?_⟩
    rw [if_neg calm]
    exact notified

/-! ## Polling -/

/-- Whether a wait that has returned told of the pipe. -/
def heard : Except Errno (List ReadyEvent) → Bool
  | .ok events => events.any fun event => event.token = Backend.notifyToken
  | .error _ => false

def Resembles (selector later : Selector) : Prop :=
  later.phase = selector.phase ∧ later.wakeupPending = selector.wakeupPending

theorem Resembles.trans {middle : Selector} (first : selector.Resembles middle)
    (second : middle.Resembles later) : selector.Resembles later :=
  ⟨second.1.trans first.1, second.2.trans first.2⟩

theorem resembles_of_beginPoll (begun : selector.beginPoll = .ok (backend, later)) :
    selector.Resembles later := by
  unfold beginPoll at begun
  cases reached : selector.backend with
  | error fault =>
      rw [reached] at begun
      cases begun
  | ok backend =>
      rw [reached] at begun
      cases begun
      exact ⟨rfl, rfl⟩

theorem woke_absorbEvent (state : Absorbed) (event : ReadyEvent) :
    (absorbEvent state event).woke =
      (state.woke || decide (event.token = Backend.notifyToken)) := by
  unfold absorbEvent
  split
  · rename_i told
    simp [told]
  · rename_i other
    rw [decide_eq_false other, Bool.or_false]
    dsimp only
    split
    · rfl
    · split <;> rfl

/-- The events wake the poll if one of them tells of the pipe. -/
theorem woke_absorb (selector : Selector) (events : List ReadyEvent) :
    (selector.absorb events).woke = heard (.ok events) := by
  have folded : ∀ state : Absorbed, (events.foldl absorbEvent state).woke =
      (state.woke || heard (.ok events)) := by
    induction events with
    | nil => simp [heard]
    | cons event rest ih =>
        intro state
        rw [List.foldl_cons, ih, woke_absorbEvent, heard, heard, List.any_cons, Bool.or_assoc]
  rw [absorb, folded, Bool.false_or]

theorem absorb_eq_keys (state : Absorbed) (event : ReadyEvent) :
    (absorbEvent state event).selector =
      { state.selector with keys := (absorbEvent state event).selector.keys } := by
  unfold absorbEvent
  split
  · rfl
  · dsimp only
    split
    · rfl
    · split <;> rfl

theorem resembles_absorb (selector : Selector) (events : List ReadyEvent) :
    selector.Resembles (selector.absorb events).selector := by
  have folded : ∀ state : Absorbed,
      state.selector.Resembles (events.foldl absorbEvent state).selector := by
    induction events with
    | nil => exact fun state => ⟨rfl, rfl⟩
    | cons event rest ih =>
        intro state
        have first : state.selector.Resembles (absorbEvent state event).selector := by
          rw [absorb_eq_keys]
          exact ⟨rfl, rfl⟩
        exact first.trans (ih _)
  exact folded ⟨selector, [], false⟩

theorem DisarmedAll.silent {serials : List Nat}
    (outcome : DisarmedAll Pipe.Answers backend serials selector contents later after) :
    after = contents := by
  induction outcome with
  | nil => rfl
  | cons first others ih =>
      cases first with
      | kept unreported => exact ih
      | disarmed found reported sync => exact ih.trans sync.silent

/-- Taking interest away from keys leaves the pipe and the note alone. -/
theorem resembles_of_disarmAll {serials : List Nat}
    (run : (selector.disarmAll backend serials).Runs Pipe.Answers contents later after) :
    selector.Resembles later ∧ after = contents := by
  have outcome := disarmedAll_of_runs run
  refine ⟨?_, outcome.silent⟩
  rw [outcome.eq_keys]
  exact ⟨rfl, rfl⟩

/-- Letting go of the backend leaves the pipe and the note alone, and an open selector
open. -/
theorem settled_of_endPoll (run : selector.endPoll.Runs Pipe.Answers contents later after) :
    (∀ backend, selector.phase = .opened backend → later.phase = .opened backend) ∧
      later.wakeupPending = selector.wakeupPending ∧ after = contents := by
  unfold endPoll at run
  split at run
  · rename_i backend closing
    obtain ⟨⟨⟩, between, closed, rfl, rfl⟩ := Program.runs_bind.mp run
    obtain ⟨_, first, one, rest⟩ := Program.runs_bind.mp closed
    obtain ⟨_, second, two, rest⟩ := Program.runs_bind.mp rest
    obtain ⟨_, third, three, -, rfl⟩ := Program.runs_bind.mp rest
    have same : first = contents := Program.runs_request.mp one
    have same' : second = first := Program.runs_request.mp two
    have same'' : after = second := Program.runs_request.mp three
    refine ⟨?_, rfl, same''.trans (same'.trans same)⟩
    intro other isOpen
    rw [closing] at isOpen
    cases isOpen
  · obtain ⟨rfl, rfl⟩ := run
    exact ⟨fun _ isOpen => isOpen, rfl, rfl⟩

/-- A poll that was not told of the pipe leaves the pipe and the note alone. -/
theorem settled_of_silent {reply : Except Errno (List ReadyEvent)}
    {result : Except Fault (List Nat)} (silent : heard reply = false)
    (run : (selector.completePoll backend reply).Runs Pipe.Answers contents (result, later)
      after) :
    (∀ backend, selector.phase = .opened backend → later.phase = .opened backend) ∧
      later.wakeupPending = selector.wakeupPending ∧ after = contents := by
  have processed : ∀ events, heard (.ok events) = false →
      (selector.completePoll backend (.ok events)).Runs Pipe.Answers contents (result, later)
        after →
      (∀ backend, selector.phase = .opened backend → later.phase = .opened backend) ∧
        later.wakeupPending = selector.wakeupPending ∧ after = contents := by
    intro events silent run
    rw [← woke_absorb selector] at silent
    simp only [completePoll, process, Program.runs_bind, silent, Bool.false_eq_true, if_false]
      at run
    obtain ⟨⟨selected, settled⟩, middle, ⟨disarmed, former, retired, _, _, ⟨rfl, rfl⟩, same, rfl⟩,
      last, final, ended, same', rfl⟩ := run
    cases same
    cases same'
    obtain ⟨disarms, rfl⟩ := resembles_of_disarmAll retired
    obtain ⟨phase, pending⟩ := (selector.resembles_absorb events).trans disarms
    obtain ⟨stays, pending', rfl⟩ := settled_of_endPoll ended
    refine ⟨?_, pending'.trans pending, rfl⟩
    intro backend isOpen
    exact stays backend (phase.trans isOpen)
  cases reply with
  | ok events => exact processed events silent run
  | error errno =>
      simp only [completePoll] at run
      split at run
      · exact processed [] rfl run
      · obtain ⟨last, final, ended, same, rfl⟩ := Program.runs_bind.mp run
        cases same
        exact settled_of_endPoll ended

/-- A poll that was told of the pipe ends by clearing the note, draining the pipe, and
waking the next poll if another wakeup was noted meanwhile. -/
theorem sections_of_heard {σ : Type} {answers : Answering σ} {state final : σ}
    {events : List ReadyEvent} {result : Except Fault (List Nat)}
    (told : heard (.ok events) = true)
    (run : (selector.completePoll backend (.ok events)).Runs answers state (result, later)
      final) :
    ∃ disarmed dropped first second third,
      ((selector.absorb events).selector.disarmAll backend
        (selector.absorb events).selected).Runs answers state disarmed first ∧
      backend.drain.Runs answers first dropped second ∧
      (disarmed.clearWakeup.renotify backend).Runs answers second () third ∧
      disarmed.clearWakeup.endPoll.Runs answers third later final := by
  rw [← woke_absorb selector] at told
  simp only [completePoll, process, consumeWakeup, Program.runs_bind, told, if_true] at run
  obtain ⟨⟨selected, settled⟩, middle, ⟨disarmed, first, retired, cleared, second,
    ⟨dropped, drained, emptied, ⟨⟩, third, renotified, rfl, rfl⟩, same, rfl⟩,
    last, ending, ended, same', rfl⟩ := run
  cases same
  cases same'
  exact ⟨disarmed, dropped, first, drained, _, retired, emptied, renotified, ended⟩

end Selector

end SocketReactor
