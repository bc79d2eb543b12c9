import SocketReactor.Proofs.Selector.Interplay

/-!
# Closing a selector from other threads

One thread polls a selector again and again while any number of threads close and
wake it.  `Teardown.Step` lets them take turns at the points where one thread can
see what another has done.  A thread that closes shuts the selector, empties the
registry, lets go of the keys that were in it one by one, and wakes the poll if it
found the selector open; a thread that polls holds the backend that it has fetched
for as long as it polls.  The calls of the program, when nobody interrupts them, are
such runs: see `run_of_close`, `run_of_poll` and `run_of_wakeup`.
-/

namespace SocketReactor

def Key.disarm (key : Key) : Key := { key with armed := false }

namespace Selector

/-- Shuts the selector for good.  Gives the backend if the selector was open. -/
def beginClose (selector : Selector) : Option Backend × Selector :=
  match selector.phase with
  | .opened backend => (some backend, { selector with phase := .closing backend })
  | .closing _ | .ended => (none, selector)
  | .unopened | .closed => (none, { selector with phase := .closed })

/-- The events that a poll processes after a wait, unless the wait has failed.  An
interrupted wait has found none. -/
def found? : Except Errno (List ReadyEvent) → Option (List ReadyEvent)
  | .ok events => some events
  | .error errno => if errno = .interrupted then some [] else none

theorem beginClose_eq (selector : Selector) :
    selector.beginClose.2 = { selector with phase := selector.beginClose.2.phase } := by
  unfold beginClose
  split <;> rfl

theorem registry_beginClose (selector : Selector) :
    selector.beginClose.2.registry = selector.registry := by
  rw [beginClose_eq]

theorem key?_beginClose (selector : Selector) (serial : Nat) :
    selector.beginClose.2.key? serial = selector.key? serial := by
  rw [beginClose_eq]
  rfl

end Selector

/-- What all threads share: a selector and what its pipe holds. -/
structure Shared where
  selector : Selector
  contents : List UInt8

/-- Where a thread is that closes the selector. -/
inductive Closer where
  | away
  /-- It has shut the selector. -/
  | entered (found : Option Backend)
  /-- It has these keys from the registry to let go of. -/
  | releasing (found : Option Backend) (hand : List Nat)
  /-- One of them no longer counts. -/
  | disarming (found : Option Backend) (serial : Nat) (hand : List Nat)

namespace Closer

/-- The keys that the thread has not let go of yet. -/
def hand : Closer → List Nat
  | away | entered _ => []
  | releasing _ hand => hand
  | disarming _ serial hand => serial :: hand

/-- The backend that the thread holds. -/
def found? : Closer → Option Backend
  | away => none
  | entered found | releasing found _ | disarming found _ _ => found

/-- What the thread does without interruption. -/
inductive Deed where
  | shut
  | empty
  | invalidate (serial : Nat)
  | disarm
  | notify
  | finish

/-- The thread goes on by one section of its call. -/
inductive Step : Shared → Closer → Deed → Shared → Closer → Prop where
  | shut {shared : Shared} :
      Step shared .away .shut { shared with selector := shared.selector.beginClose.2 }
        (.entered shared.selector.beginClose.1)
  | empty {shared : Shared} {found : Option Backend} :
      Step shared (.entered found) .empty
        { shared with selector := { shared.selector with registry := ∅ } }
        (.releasing found shared.selector.registered)
  | invalidate {shared : Shared} {found : Option Backend} {hand : List Nat} {serial : Nat}
      (listed : serial ∈ hand) :
      Step shared (.releasing found hand) (.invalidate serial)
        { shared with selector := shared.selector.updateKey serial Key.invalidate }
        (.disarming found serial (hand.erase serial))
  | disarm {shared : Shared} {found : Option Backend} {hand : List Nat} {serial : Nat} :
      Step shared (.disarming found serial hand) .disarm
        { shared with selector := shared.selector.updateKey serial Key.disarm }
        (.releasing found hand)
  /-- The selector was open, and the call returns. -/
  | notify {shared : Shared} {backend : Backend} {reply : Except Errno Unit}
      {contents : List UInt8}
      (notified : backend.notify.Runs Pipe.Answers shared.contents reply contents) :
      Step shared (.releasing (some backend) []) .notify { shared with contents := contents } .away
  /-- The selector was not open, and the call returns. -/
  | finish {shared : Shared} : Step shared (.releasing none []) .finish shared .away

end Closer

/-- Where the thread is that polls the selector. -/
inductive Waiter where
  | away
  | fetched (backend : Backend)
  /-- No key is ready any more. -/
  | waiting (backend : Backend)
  | returned (backend : Backend) (reply : Except Errno (List ReadyEvent))
  /-- The wait has told of the pipe, and the keys have been seen to. -/
  | told (backend : Backend) (selected : List Nat)
  /-- The note has been cleared. -/
  | cleared (backend : Backend) (selected : List Nat)
  /-- The pipe has been drained. -/
  | drained (backend : Backend) (selected : List Nat)
  /-- A wakeup was noted meanwhile, and has not been written to the pipe again yet. -/
  | owing (backend : Backend) (selected : List Nat)
  | done (result : Except Fault (List Nat))

namespace Waiter

/-- The thread has the backend and is before its wait or in it. -/
def Blocked : Waiter → Prop
  | fetched _ | waiting _ => True
  | _ => False

/-- What the thread does without interruption. -/
inductive Deed where
  | fetch
  | forget
  | wait
  | process
  | fail
  | clear
  | drain
  | look
  | rewrite
  | leave (result : Except Fault (List Nat))

/-- The thread goes on by one section of its call. -/
inductive Step : Shared → Waiter → Deed → Shared → Waiter → Prop where
  | fetch {shared : Shared} {backend : Backend}
      (reached : shared.selector.backend = .ok backend) :
      Step shared .away .fetch
        { shared with selector := { shared.selector with polling := true } } (.fetched backend)
  | forget {shared : Shared} {backend : Backend} :
      Step shared (.fetched backend) .forget
        { shared with selector := shared.selector.forgetReady } (.waiting backend)
  | wait {shared : Shared} {backend : Backend} {limit : Option Duration}
      {reply : Except Errno (List ReadyEvent)} {contents : List UInt8}
      (waited : (backend.wait shared.selector.waitCapacity limit).Runs Pipe.Answers
        shared.contents reply contents) :
      Step shared (.waiting backend) .wait { shared with contents := contents }
        (.returned backend reply)
  | process {shared : Shared} {backend : Backend} {reply : Except Errno (List ReadyEvent)}
      {events : List ReadyEvent} {selector : Selector} {contents : List UInt8}
      (found : Selector.found? reply = some events)
      (run : ((shared.selector.absorb events).selector.disarmAll backend
        (shared.selector.absorb events).selected).Runs Pipe.Answers shared.contents selector
        contents) :
      Step shared (.returned backend reply) .process ⟨selector, contents⟩
        (if (shared.selector.absorb events).woke then
          .told backend (shared.selector.absorb events).selected
        else .done (.ok (shared.selector.absorb events).selected))
  | fail {shared : Shared} {backend : Backend} {errno : Errno}
      (failed : errno ≠ .interrupted) :
      Step shared (.returned backend (.error errno)) .fail shared
        (.done (.error (.backendFailed errno "epoll_wait")))
  | clear {shared : Shared} {backend : Backend} {selected : List Nat} :
      Step shared (.told backend selected) .clear
        { shared with selector := shared.selector.clearWakeup } (.cleared backend selected)
  | drain {shared : Shared} {backend : Backend} {selected : List Nat} {dropped : Nat}
      {contents : List UInt8}
      (run : backend.drain.Runs Pipe.Answers shared.contents dropped contents) :
      Step shared (.cleared backend selected) .drain { shared with contents := contents }
        (.drained backend selected)
  | look {shared : Shared} {backend : Backend} {selected : List Nat} :
      Step shared (.drained backend selected) .look shared
        (if shared.selector.wakeupPending then .owing backend selected else .done (.ok selected))
  | rewrite {shared : Shared} {backend : Backend} {selected : List Nat}
      {reply : Except Errno Unit} {contents : List UInt8}
      (notified : backend.notify.Runs Pipe.Answers shared.contents reply contents) :
      Step shared (.owing backend selected) .rewrite { shared with contents := contents }
        (.done (.ok selected))
  /-- The call returns. -/
  | leave {shared : Shared} {result : Except Fault (List Nat)} :
      Step shared (.done result) (.leave result)
        { shared with selector := { shared.selector with polling := false } } .away

end Waiter

/-- A selector with its pipe, the thread that polls it, and the threads that wake and close
it. -/
structure Teardown (ι : Type) extends Shared where
  poller : Waiter
  waker : ι → Waker
  closer : ι → Closer

namespace Teardown

variable {ι : Type}

/-- The threads while none of them is in a call. -/
def idle (selector : Selector) (contents : List UInt8) : Teardown ι :=
  ⟨⟨selector, contents⟩, .away, fun _ => .away, fun _ => .away⟩

/-- The state as threads see it that wake. -/
def unpolled (state : Teardown ι) : Interplay ι :=
  ⟨state.selector, state.contents, .away, state.waker⟩

def Unheld (state : Teardown ι) : Prop :=
  state.poller = .away ∧ (∀ who, state.waker who = .away) ∧
    ∀ who, (state.closer who).found? = none

/-- What a thread does without interruption. -/
inductive Deed (ι : Type) where
  | wake (turning : Turning ι)
  | close (who : ι) (deed : Closer.Deed)
  | poll (deed : Waiter.Deed)
  | retire

def Deed.polls : Deed ι → Bool
  | poll _ => true
  | _ => false

variable [DecidableEq ι]

/-- A thread goes on by one section of its call. -/
inductive Step : Teardown ι → Deed ι → Teardown ι → Prop where
  /-- Threads that wake go on as they do while nobody polls. -/
  | wake {state : Teardown ι} {turning : Turning ι} {later : Interplay ι}
      (woke : Interplay.Step state.unpolled turning later) (still : later.poller = .away) :
      Step state (.wake turning)
        { state with toShared := ⟨later.selector, later.contents⟩, waker := later.waker }
  | close {state : Teardown ι} {who : ι} {deed : Closer.Deed} {later : Shared} {next : Closer}
      (closed : Closer.Step state.toShared (state.closer who) deed later next) :
      Step state (.close who deed)
        { state with toShared := later, closer := Function.update state.closer who next }
  | poll {state : Teardown ι} {deed : Waiter.Deed} {later : Shared} {next : Waiter}
      (polled : Waiter.Step state.toShared state.poller deed later next) :
      Step state (.poll deed) { state with toShared := later, poller := next }
  /-- The last thread has let go of the backend of a selector that is shut. -/
  | retire {state : Teardown ι} {backend : Backend} {contents : List UInt8}
      (shut : state.selector.phase = .closing backend) (unheld : state.Unheld)
      (run : backend.close.Runs Pipe.Answers state.contents () contents) :
      Step state .retire
        { state with toShared := ⟨{ state.selector with phase := .closed }, contents⟩ }

inductive Run : Teardown ι → List (Deed ι) → Teardown ι → Prop where
  | nil {state : Teardown ι} : Run state [] state
  | cons {state middle later : Teardown ι} {deed : Deed ι} {deeds : List (Deed ι)}
      (first : Step state deed middle) (rest : Run middle deeds later) :
      Run state (deed :: deeds) later

variable {state later : Teardown ι} {deeds : List (Deed ι)}

theorem Run.append {middle : Teardown ι} {others : List (Deed ι)}
    (run : Run state deeds middle) (rest : Run middle others later) :
    Run state (deeds ++ others) later := by
  induction run with
  | nil => exact rest
  | cons first _ ih => exact .cons first (ih rest)

/-- What every step keeps, every run keeps. -/
theorem Run.keeps {Holds : Teardown ι → Prop}
    (kept : ∀ {state later : Teardown ι} {deed : Deed ι}, Step state deed later →
      Holds state → Holds later)
    (run : Run state deeds later) (holds : Holds state) : Holds later := by
  induction run with
  | nil => exact holds
  | cons first rest ih => exact ih (kept first holds)

/-- What a deed brings about and every step keeps, holds after every run with that deed. -/
theorem Run.since {Before After : Teardown ι → Prop} {deed : Deed ι}
    (before : ∀ {state later : Teardown ι} {deed : Deed ι}, Step state deed later →
      Before state → Before later)
    (done : ∀ {state later : Teardown ι}, Step state deed later → Before state → After later)
    (after : ∀ {state later : Teardown ι} {deed : Deed ι}, Step state deed later →
      After state → After later)
    (run : Run state deeds later) (did : deed ∈ deeds) (holds : Before state) :
    After later := by
  induction run with
  | nil => cases did
  | cons first rest ih =>
      cases did with
      | head => exact rest.keeps after (done first holds)
      | tail _ did => exact ih did (before first holds)

end Teardown

/-! ## Calls as runs of their sections -/

theorem Table.modify_modify {κ α : Type} [DecidableEq κ] (table : Table κ α) (key : κ)
    (first second : α → α) :
    (table.modify key first).modify key second = table.modify key (second ∘ first) := by
  simp only [modify, List.map_map, Table.mk.injEq]
  refine List.map_congr_left fun entry _ => ?_
  by_cases same : entry.1 = key <;> simp [same]

namespace Teardown

variable {ι : Type} [DecidableEq ι] {state later : Teardown ι} {deeds : List (Deed ι)}
  {who : ι} {selector : Selector} {contents : List UInt8}

/-- A thread that closes goes on from where it is. -/
theorem Step.close_from (who : ι) {closer next : Closer} {deed : Closer.Deed} {shared : Shared}
    (place : state.closer who = closer)
    (closed : Closer.Step state.toShared closer deed shared next) :
    Step state (.close who deed)
      { state with toShared := shared, closer := Function.update state.closer who next } :=
  .close (place ▸ closed)

/-- The thread that polls goes on from where it is. -/
theorem Step.poll_from {waiter next : Waiter} {deed : Waiter.Deed} {shared : Shared}
    (place : state.poller = waiter)
    (polled : Waiter.Step state.toShared waiter deed shared next) :
    Step state (.poll deed) { state with toShared := shared, poller := next } :=
  .poll (place ▸ polled)

/-- No thread but the one that polls is in a call. -/
structure Alone (state : Teardown ι) : Prop where
  wakers : ∀ who, state.waker who = .away
  closers : ∀ who, state.closer who = .away

omit [DecidableEq ι] in
theorem Alone.unheld (alone : state.Alone) (away : state.poller = .away) : state.Unheld := by
  refine ⟨away, alone.wakers, fun who => ?_⟩
  rw [alone.closers]
  rfl

def releases (who : ι) (hand : List Nat) : List (Deed ι) :=
  hand.flatMap fun serial => [.close who (.invalidate serial), .close who .disarm]

def closing (who : ι) (selector : Selector) : List (Deed ι) :=
  .close who .shut :: .close who .empty :: (releases who selector.registered ++
    match selector.phase with
    | .opened _ => .close who .notify :: if selector.polling then [] else [.retire]
    | _ => [.close who .finish])

/-- What follows a wait that the pipe has ended or has not, if nobody interrupts the poll. -/
def settling (told : Bool) : Except Fault (List Nat) → List (Deed ι)
  | .ok selected => .poll .process ::
      ((if told then [.poll .clear, .poll .drain, .poll .look] else []) ++
        [.poll (.leave (.ok selected))])
  | .error fault => [.poll .fail, .poll (.leave (.error fault))]

/-- A poll that nobody interrupts, by its outcome and by whether it is told of the pipe. -/
def polling (told : Bool) (result : Except Fault (List Nat)) : List (Deed ι) :=
  .poll .fetch :: .poll .forget :: .poll .wait :: settling told result

theorem run_of_releases {found : Option Backend} {hand : List Nat}
    (holds : state.closer who = .releasing found hand)
    (rest : Run
      { state with
        selector := { state.selector with
          keys := hand.foldl (fun keys serial =>
            keys.modify serial fun key => { key.invalidate with armed := false })
            state.selector.keys }
        closer := Function.update state.closer who (.releasing found []) } deeds later) :
    Run state (releases who hand ++ deeds) later := by
  induction hand generalizing state with
  | nil =>
      have same : Function.update state.closer who (.releasing found []) = state.closer := by
        rw [← holds, Function.update_eq_self]
      rw [same] at rest
      exact rest
  | cons serial hand ih =>
      have invalidated := Step.close_from who holds (.invalidate List.mem_cons_self)
      rw [List.erase_cons_head] at invalidated
      refine .cons invalidated ?_
      refine .cons (Step.close_from who (Function.update_self _ _ _) .disarm) ?_
      refine ih (Function.update_self _ _ _) ?_
      rw [Function.update_idem, Function.update_idem]
      simp only [Selector.updateKey, Table.modify_modify]
      exact rest

/-- The sections of a close up to the last. -/
theorem run_of_beginClose (away : state.closer who = .away)
    (rest : Run
      { state with
        selector := { state.selector.clearRegistry with
          phase := state.selector.beginClose.2.phase }
        closer := Function.update state.closer who (.releasing state.selector.beginClose.1 []) }
      deeds later) :
    Run state (.close who .shut :: .close who .empty ::
      (releases who state.selector.registered ++ deeds)) later := by
  refine .cons (Step.close_from who away .shut) ?_
  refine .cons (Step.close_from who (Function.update_self _ _ _) .empty) ?_
  have same : state.selector.beginClose.2.registered = state.selector.registered := by
    rw [Selector.registered, Selector.registry_beginClose, Selector.registered]
  refine same ▸ run_of_releases (Function.update_self _ _ _) ?_
  rw [Function.update_idem, Function.update_idem, state.selector.beginClose_eq]
  exact rest

/-- A close that nobody interrupts is a run of its sections. -/
theorem run_of_close (who : ι) (alone : state.Alone)
    (unpolled : state.selector.polling = false → state.poller = .away)
    (run : state.selector.close.Runs Pipe.Answers state.contents selector contents) :
    Run state (closing who state.selector) { state with toShared := ⟨selector, contents⟩ } := by
  have back : ∀ middle, Function.update (Function.update state.closer who middle) who .away =
      state.closer := by
    intro middle
    rw [Function.update_idem, ← alone.closers who, Function.update_eq_self]
  refine run_of_beginClose (alone.closers who) ?_
  unfold Selector.close at run
  unfold Selector.beginClose
  cases phase : state.selector.phase with
  | opened backend =>
      simp only [phase] at run ⊢
      obtain ⟨reply, between, notified, rest⟩ := Program.runs_bind.mp run
      refine .cons (Step.close_from who (Function.update_self _ _ _) (.notify notified)) ?_
      rw [back]
      split at rest
      · rename_i polled
        obtain ⟨rfl, rfl⟩ := rest
        rw [if_pos polled]
        exact .nil
      · rename_i idle
        obtain ⟨⟨⟩, last, closed, rfl, rfl⟩ := Program.runs_bind.mp rest
        have unheld := alone.unheld (unpolled (Bool.eq_false_iff.mpr idle))
        rw [if_neg idle]
        exact .cons (.retire rfl unheld closed) .nil
  | closing _ | ended =>
      simp only [phase] at run
      obtain ⟨rfl, rfl⟩ := run
      refine .cons (Step.close_from who (Function.update_self _ _ _) .finish) ?_
      rw [back]
      exact .nil
  | unopened | closed =>
      simp only [phase] at run ⊢
      obtain ⟨rfl, rfl⟩ := run
      refine .cons (Step.close_from who (Function.update_self _ _ _) .finish) ?_
      rw [back]
      exact .nil

/-- The end of a poll of a selector that nobody has closed meanwhile. -/
theorem run_of_endPoll {result : Except Fault (List Nat)}
    (isOpen : ∀ backend, state.selector.phase ≠ .closing backend)
    (done : state.poller = .done result)
    (run : state.selector.endPoll.Runs Pipe.Answers state.contents selector contents) :
    Run state [.poll (.leave result)]
      { state with toShared := ⟨selector, contents⟩, poller := .away } := by
  refine .cons (Step.poll_from done .leave) ?_
  unfold Selector.endPoll at run
  split at run
  · rename_i backend closing
    -- The backend is given back by the poll only if a close has come in between.
    exact absurd closing (isOpen backend)
  · obtain ⟨rfl, rfl⟩ := run
    exact .nil

/-- The sections of a poll that has found events. -/
theorem run_of_process {backend : Backend} {reply : Except Errno (List ReadyEvent)}
    {events : List ReadyEvent} {result : Except Fault (List Nat)}
    (isOpen : ∀ backend, state.selector.phase ≠ .closing backend)
    (returned : state.poller = .returned backend reply)
    (found : Selector.found? reply = some events)
    (run : Program.Runs Pipe.Answers
      (do
        let (selected, after) ← state.selector.process backend events
        return (Except.ok selected, ← after.endPoll))
      state.contents (result, selector) contents) :
    Run state (settling (Selector.heard (.ok events)) result)
      { state with toShared := ⟨selector, contents⟩, poller := .away } := by
  simp only [Selector.process, Program.runs_bind] at run
  obtain ⟨⟨selected, settled⟩, middle, ⟨disarmed, first, retired, rest⟩, last, final, ended,
    same, rfl⟩ := run
  cases same
  rw [← state.selector.woke_absorb]
  -- Neither the events nor the disarming touch the phase, so the selector is open at the end.
  have phase : disarmed.phase = state.selector.phase :=
    ((state.selector.resembles_absorb events).trans
      (Selector.resembles_of_disarmAll retired).1).1
  split at rest
  · rename_i woke
    simp only [Selector.consumeWakeup, Program.runs_bind] at rest
    obtain ⟨cleared, second, ⟨dropped, third, drained, ⟨⟩, fourth, renotified, rfl, rfl⟩, same,
      rfl⟩ := rest
    cases same
    obtain ⟨-, rfl⟩ : () = () ∧ middle = third := renotified
    refine .cons (Step.poll_from returned (.process found retired)) ?_
    rw [if_pos woke, if_pos woke]
    refine .cons (Step.poll_from rfl .clear) ?_
    refine .cons (Step.poll_from rfl (.drain drained)) ?_
    refine .cons (Step.poll_from rfl .look) ?_
    exact run_of_endPoll (fun other => phase ▸ isOpen other) rfl ended
  · rename_i silent
    obtain ⟨same, rfl⟩ := rest
    cases same
    refine .cons (Step.poll_from returned (.process found retired)) ?_
    rw [if_neg silent, if_neg silent]
    exact run_of_endPoll (fun other => phase ▸ isOpen other) rfl ended

/-- What follows the wait of a poll that nobody interrupts is a run of its sections. -/
theorem run_of_completePoll {backend : Backend} {reply : Except Errno (List ReadyEvent)}
    {result : Except Fault (List Nat)}
    (isOpen : ∀ backend, state.selector.phase ≠ .closing backend)
    (returned : state.poller = .returned backend reply)
    (run : (state.selector.completePoll backend reply).Runs Pipe.Answers state.contents
      (result, selector) contents) :
    Run state (settling (Selector.heard reply) result)
      { state with toShared := ⟨selector, contents⟩, poller := .away } := by
  cases reply with
  | ok events => exact run_of_process isOpen returned rfl run
  | error errno =>
      simp only [Selector.completePoll] at run
      split at run
      · rename_i interrupted
        exact run_of_process isOpen returned (if_pos interrupted) run
      · rename_i failed
        obtain ⟨last, final, ended, same, rfl⟩ := Program.runs_bind.mp run
        cases same
        refine .cons (Step.poll_from returned (.fail failed)) ?_
        exact run_of_endPoll isOpen rfl ended

/-- A poll that nobody interrupts is a run of its sections. -/
theorem run_of_poll {backend : Backend} {entered : Selector} {limit : Option Duration}
    {reply : Except Errno (List ReadyEvent)} {between : List UInt8}
    {result : Except Fault (List Nat)} (away : state.poller = .away)
    (begun : state.selector.beginPoll = .ok (backend, entered))
    (waited : (backend.wait entered.waitCapacity limit).Runs Pipe.Answers state.contents reply
      between)
    (run : (entered.completePoll backend reply).Runs Pipe.Answers between (result, selector)
      contents) :
    Run state (polling (Selector.heard reply) result)
      { state with toShared := ⟨selector, contents⟩, poller := .away } := by
  unfold Selector.beginPoll at begun
  cases reached : state.selector.backend with
  | error fault =>
      rw [reached] at begun
      cases begun
  | ok reachedBackend =>
      rw [reached] at begun
      cases begun
      have isOpen := Selector.backend_eq_ok_iff.mp reached
      refine .cons (Step.poll_from away (.fetch reached)) ?_
      refine .cons (Step.poll_from rfl .forget) ?_
      refine .cons (Step.poll_from rfl (.wait waited)) ?_
      refine run_of_completePoll ?_ rfl run
      intro other closing
      cases isOpen.symm.trans closing

/-- A wakeup that nobody interrupts is a run of its sections. -/
theorem run_of_wakeup {backend : Backend} {result : Except Fault Unit} (who : ι)
    (alone : state.Alone) (isOpen : state.selector.phase = .opened backend)
    (run : state.selector.wakeup.Runs Pipe.Answers state.contents (result, selector) contents) :
    Run state ((Turning.wakeup who state.selector.wakeupPending).map .wake)
      { state with toShared := ⟨selector, contents⟩ } := by
  have back : ∀ middle, Function.update (Function.update state.waker who middle) who .away =
      state.waker := by
    intro middle
    rw [Function.update_idem, ← alone.wakers who, Function.update_eq_self]
  have reached := Selector.backend_eq_ok_iff.mpr isOpen
  unfold Selector.wakeup at run
  simp only [reached] at run
  refine .cons (.wake (.enter (alone.wakers who) reached) rfl) ?_
  split at run
  · rename_i pending
    obtain ⟨same, rfl⟩ := run
    cases same
    refine .cons (.wake (.join (Function.update_self _ _ _) pending) rfl) ?_
    simp only [unpolled, back]
    rw [if_pos pending]
    exact .nil
  · rename_i calm
    rw [if_neg calm]
    rw [Bool.not_eq_true] at calm
    refine .cons (.wake (.note (Function.update_self _ _ _) calm) rfl) ?_
    simp only [unpolled, Function.update_idem]
    refine .cons (.wake (.write (Function.update_self _ _ _) run) rfl) ?_
    simp only [unpolled, back]
    exact .nil

end Teardown

end SocketReactor
