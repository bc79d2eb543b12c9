import SocketReactor.Proofs.Selector.Phases
import SocketReactor.Selector.Poll

/-!
# Outcomes of polling

A poll is taken apart into what the events of the wait select and the keys from
which it takes the interest in a connection afterwards.  `Absorbed.Sound` is the
invariant of the first part: each event leaves every key alone but one that is
registered, counts, and becomes ready within its interest.
-/

namespace SocketReactor

variable {σ : Type} {answers : Answering σ}

namespace Selector

theorem key?_setKey (selector : Selector) (serial other : Nat) (key : Key) :
    (selector.setKey serial key).key? other =
      if other = serial then some key else selector.key? other :=
  Table.get?_insert selector.keys serial other key

theorem key?_forgetReady (selector : Selector) (serial : Nat) :
    selector.forgetReady.key? serial =
      if serial ∈ selector.registered then
        (selector.key? serial).map fun key => { key with ready := .none }
      else selector.key? serial :=
  Table.get?_foldl_modify (fun key : Key => { key with ready := .none })
    (fun _ => rfl) selector.registered selector.keys serial

/-- No registered key is ready while a poll waits. -/
theorem ready_enterPoll (selector : Selector) (serial : Nat)
    (listed : serial ∈ selector.enterPoll.registered) (key : Key)
    (found : selector.enterPoll.key? serial = some key) : key.ready = .none := by
  have known : selector.forgetReady.key? serial = some key := found
  have registered : serial ∈ selector.registered := listed
  rw [key?_forgetReady, if_pos registered] at known
  obtain ⟨before, -, rfl⟩ := Option.map_eq_some_iff.mp known
  rfl

theorem mem_registered_of_get? {selector : Selector} {token : UInt64} {serial : Nat}
    (listed : selector.registry.get? token = some serial) :
    serial ∈ selector.registered := by
  unfold Table.get? at listed
  obtain ⟨entry, found, rfl⟩ := Option.map_eq_some_iff.mp listed
  exact List.mem_map.mpr ⟨entry, List.mem_of_find?_eq_some found, rfl⟩

namespace Absorbed

/-- What the events of a wait may have led to. -/
structure Sound (start : Selector) (state : Absorbed) : Prop where
  /-- Nothing but keys has changed. -/
  keys_only : state.selector = { start with keys := state.selector.keys }
  nodup : state.selected.Nodup
  /-- The keys that were not selected are as they were. -/
  passed : ∀ serial, serial ∉ state.selected →
    state.selector.key? serial = start.key? serial
  /-- The keys that were selected are registered, count and are ready for something. -/
  picked : ∀ serial ∈ state.selected, ∃ token key ready,
    start.registry.get? token = some serial ∧ start.key? serial = some key ∧
    key.valid = true ∧ ready ≠ .none ∧ key.interest.contains ready = true ∧
    state.selector.key? serial = some { key with ready := ready }

namespace Sound

variable {start : Selector} {state : Absorbed}

theorem begin (start : Selector) : Sound start ⟨start, [], false⟩ :=
  ⟨rfl, List.nodup_nil, fun _ _ => rfl, fun _ mem => absurd mem List.not_mem_nil⟩

/-- An event that makes a registered key ready for something more. -/
theorem select (sound : Sound start state)
    (rested : ∀ serial ∈ start.registered, ∀ key, start.key? serial = some key →
      key.ready = .none)
    {token : UInt64} {serial : Nat} {key : Key} {ready : OpSet} {woke : Bool}
    (listed : state.selector.registry.get? token = some serial)
    (found : state.selector.key? serial = some key) (valid : key.valid = true)
    (some_ready : ready ≠ .none) (within : key.interest.contains ready = true) :
    Sound start
      { selector := state.selector.setKey serial { key with ready := key.ready ∪ ready }
        selected := if key.ready.isEmpty then state.selected ++ [serial] else state.selected
        woke := woke } := by
  have listed' : start.registry.get? token = some serial := by
    rw [sound.keys_only] at listed
    exact listed
  by_cases selected : serial ∈ state.selected
  -- An earlier event has made the key ready, and it is in the list already.
  · obtain ⟨token', before, ready', registered, known, counts, nonempty, contained,
      current⟩ := sound.picked serial selected
    rw [found] at current
    cases current
    have full : ready'.isEmpty = false := by
      rw [Bool.eq_false_iff, Ne, OpSet.isEmpty_iff]
      exact nonempty
    simp only [full, Bool.false_eq_true, if_false]
    refine ⟨?_, sound.nodup, ?_, ?_⟩
    · exact congrArg (fun kept : Selector => kept.setKey serial _) sound.keys_only
    · intro other unselected
      have apart : other ≠ serial := fun same => unselected (same ▸ selected)
      rw [key?_setKey, if_neg apart]
      exact sound.passed other unselected
    · intro other mem
      rw [key?_setKey]
      by_cases same : other = serial
      · subst same
        refine ⟨token', before, ready' ∪ ready, registered, known, counts,
          OpSet.union_ne_none some_ready, OpSet.contains_union contained within, ?_⟩
        rw [if_pos rfl]
      · rw [if_neg same]
        exact sound.picked other mem
  -- This is the first event of the key, which was not ready for anything before the poll.
  · have known := sound.passed serial selected
    rw [found] at known
    have empty : key.ready = .none :=
      rested serial (mem_registered_of_get? listed') key known.symm
    have first : key.ready.isEmpty = true := (OpSet.isEmpty_iff _).mpr empty
    simp only [first, if_true]
    refine ⟨?_, ?_, ?_, ?_⟩
    · exact congrArg (fun kept : Selector => kept.setKey serial _) sound.keys_only
    · refine List.nodup_append.mpr ⟨sound.nodup, List.nodup_singleton serial, ?_⟩
      intro one mem other alone same
      rw [List.mem_singleton] at alone
      exact selected (alone ▸ same ▸ mem)
    · intro other unselected
      rw [List.mem_append, List.mem_singleton, not_or] at unselected
      rw [key?_setKey, if_neg unselected.2]
      exact sound.passed other unselected.1
    · intro other mem
      rw [key?_setKey]
      by_cases same : other = serial
      · subst same
        refine ⟨token, key, key.ready ∪ ready, listed', known.symm, valid,
          OpSet.union_ne_none some_ready, OpSet.contains_union ?_ within, ?_⟩
        · rw [empty]
          exact (OpSet.contains_iff _ _).mpr (by simp [OpSet.none])
        · rw [if_pos rfl]
      · rw [if_neg same]
        rw [List.mem_append, List.mem_singleton] at mem
        exact sound.picked other (mem.resolve_right same)

theorem absorbEvent (sound : Sound start state)
    (rested : ∀ serial ∈ start.registered, ∀ key, start.key? serial = some key →
      key.ready = .none)
    (event : ReadyEvent) : Sound start (Selector.absorbEvent state event) := by
  unfold Selector.absorbEvent
  split
  · exact ⟨sound.keys_only, sound.nodup, sound.passed, sound.picked⟩
  · cases listed : state.selector.registry.get? event.token with
    | none => exact sound
    | some serial =>
        cases found : state.selector.key? serial with
        | none =>
            simp only [bind, Option.bind, found]
            exact sound
        | some key =>
            simp only [bind, Option.bind, found, pure]
            split
            · exact sound
            · rename_i counts
              rw [Bool.or_eq_true, not_or, OpSet.isEmpty_iff] at counts
              refine sound.select rested listed found ?_ counts.2
                (key.contains_readiness event)
              simpa using counts.1

end Sound

theorem sound_absorb {start : Selector}
    (rested : ∀ serial ∈ start.registered, ∀ key, start.key? serial = some key →
      key.ready = .none)
    (events : List ReadyEvent) : Sound start (start.absorb events) := by
  unfold absorb
  generalize state_eq : (⟨start, [], false⟩ : Absorbed) = state
  have sound : Sound start state := state_eq ▸ Sound.begin start
  clear state_eq
  induction events generalizing state with
  | nil => exact sound
  | cons event rest ih => exact ih _ (sound.absorbEvent rested event)

end Absorbed

/-- What dropping the interest in a connection from a key may lead to. -/
inductive Disarmed (answers : Answering σ) (backend : Backend) (selector : Selector)
    (serial : Nat) : σ → Selector → σ → Prop where
  /-- There is no such key, or it has not reported a connection. -/
  | kept {state : σ}
      (silent : ∀ key, selector.key? serial = some key → key.ready.connect = false) :
      Disarmed answers backend selector serial state selector state
  | disarmed {state after : σ} {key synced : Key} {reply : Except Errno Unit}
      (found : selector.key? serial = some key) (reported : key.ready.connect = true)
      (sync : Key.Synced answers backend
        { key with interest := key.interest ∩ OpSet.connecting.complement }
        (key.interest ∩ OpSet.connecting.complement) state reply synced after) :
      Disarmed answers backend selector serial state (selector.setKey serial synced) after

theorem disarmed_of_runs {selector later : Selector} {backend : Backend} {serial : Nat}
    {state after : σ}
    (run : (selector.disarm backend serial).Runs answers state later after) :
    Disarmed answers backend selector serial state later after := by
  unfold disarm at run
  split at run
  · rename_i absent
    obtain ⟨rfl, rfl⟩ := run
    refine .kept ?_
    intro key found
    rw [absent] at found
    cases found
  · rename_i key found
    split at run
    · rename_i reported
      simp only [Program.runs_bind] at run
      obtain ⟨⟨reply, synced⟩, between, sync, rfl, rfl⟩ := run
      exact .disarmed found reported (Key.synced_of_runs sync)
    · rename_i silent
      obtain ⟨rfl, rfl⟩ := run
      refine .kept ?_
      intro other same
      rw [found] at same
      cases same
      exact Bool.eq_false_iff.mpr silent

/-- What dropping the interest in connections from a list of keys may lead to. -/
inductive DisarmedAll (answers : Answering σ) (backend : Backend) :
    List Nat → Selector → σ → Selector → σ → Prop where
  | nil {selector : Selector} {state : σ} :
      DisarmedAll answers backend [] selector state selector state
  | cons {serial : Nat} {rest : List Nat} {selector between later : Selector}
      {state middle after : σ}
      (first : Disarmed answers backend selector serial state between middle)
      (others : DisarmedAll answers backend rest between middle later after) :
      DisarmedAll answers backend (serial :: rest) selector state later after

theorem disarmedAll_of_runs {serials : List Nat} {selector later : Selector}
    {backend : Backend} {state after : σ}
    (run : (selector.disarmAll backend serials).Runs answers state later after) :
    DisarmedAll answers backend serials selector state later after := by
  induction serials generalizing selector state with
  | nil =>
      obtain ⟨rfl, rfl⟩ := run
      exact .nil
  | cons serial rest ih =>
      simp only [disarmAll, Program.runs_bind] at run
      obtain ⟨between, middle, first, others⟩ := run
      exact .cons (disarmed_of_runs first) (ih others)

inductive Polled (answers : Answering σ) (selector : Selector) :
    σ → Except Fault (List Nat) → Selector → σ → Prop where
  | shut {state : σ} (shut : selector.isOpen = false) :
      Polled answers selector state (.error .notOpen) selector state
  /-- The wait failed. -/
  | failed {state after : σ} {backend : Backend} {errno : Errno}
      (isOpen : selector.phase = .opened backend)
      (waited : answers.Quietly state after) :
      Polled answers selector state (.error (.backendFailed errno "epoll_wait"))
        { selector.enterPoll with polling := false } after
  | found {state between middle after : σ} {backend : Backend}
      {events : List ReadyEvent} {disarmed : Selector} {pending : Bool}
      (isOpen : selector.phase = .opened backend)
      (waited : answers.Quietly state between)
      (retired : DisarmedAll answers backend (selector.enterPoll.absorb events).selected
        (selector.enterPoll.absorb events).selector between disarmed middle)
      (consumed : answers.Quietly middle after) :
      Polled answers selector state (.ok (selector.enterPoll.absorb events).selected)
        { disarmed with wakeupPending := pending, polling := false } after

/-- A selector without a closed backend on its hands just lets go of its backend. -/
theorem endPoll_eq {selector : Selector} {backend : Backend}
    (isOpen : selector.phase = .opened backend) :
    selector.endPoll = pure { selector with polling := false } := by
  simp [endPoll, isOpen]

theorem Disarmed.eq_keys {selector later : Selector} {backend : Backend} {serial : Nat}
    {state after : σ}
    (outcome : Disarmed answers backend selector serial state later after) :
    later = { selector with keys := later.keys } := by
  cases outcome <;> rfl

/-- Nothing but keys changes. -/
theorem DisarmedAll.eq_keys {serials : List Nat} {selector later : Selector}
    {backend : Backend} {state after : σ}
    (outcome : DisarmedAll answers backend serials selector state later after) :
    later = { selector with keys := later.keys } := by
  induction outcome with
  | nil => rfl
  | cons first others ih =>
      rw [ih, first.eq_keys]

theorem consumeWakeup_isQuiet (selector : Selector) (backend : Backend) :
    (selector.consumeWakeup backend).Ensures Call.IsQuiet fun _ => True :=
  (only_consumeWakeup (fun _ => trivial) fun _ => trivial).mono fun _ _ => trivial

theorem eq_of_runs_consumeWakeup {selector later : Selector} {backend : Backend}
    {state after : σ}
    (run : (selector.consumeWakeup backend).Runs answers state later after) :
    later = selector.clearWakeup := by
  simp only [consumeWakeup, Program.runs_bind] at run
  obtain ⟨dropped, between, _, ⟨⟩, last, _, rfl, rfl⟩ := run
  rfl

/-- A selector that is not open has no backend to give. -/
theorem shut_of_backend {selector : Selector} {fault : Fault}
    (failed : selector.backend = .error fault) :
    fault = .notOpen ∧ selector.isOpen = false := by
  unfold Selector.backend at failed
  unfold isOpen
  cases phase : selector.phase <;> simp only [phase] at failed ⊢ <;> cases failed <;> simp

/-- What processing the events of a wait, and then letting go of the backend, may lead to. -/
inductive Processed (answers : Answering σ) (backend : Backend) (events : List ReadyEvent)
    (selector : Selector) : σ → Except Fault (List Nat) → Selector → σ → Prop where
  | found {state middle after : σ} {disarmed : Selector} {pending : Bool}
      (retired : DisarmedAll answers backend (selector.enterPoll.absorb events).selected
        (selector.enterPoll.absorb events).selector state disarmed middle)
      (consumed : answers.Quietly middle after) :
      Processed answers backend events selector state
        (.ok (selector.enterPoll.absorb events).selected)
        { disarmed with wakeupPending := pending, polling := false } after

theorem processed_of_runs {selector later : Selector} {backend : Backend}
    {events : List ReadyEvent} {state after : σ} {result : Except Fault (List Nat)}
    (isOpen : selector.phase = .opened backend)
    (run : Program.Runs answers
      (do
        let (selected, settled) ← selector.enterPoll.process backend events
        return (Except.ok selected, ← settled.endPoll))
      state (result, later) after) :
    Processed answers backend events selector state result later after := by
  simp only [process, Program.runs_bind] at run
  obtain ⟨⟨selected, settled⟩, middle, ⟨disarmed, former, retired, rest⟩, last, final, ended,
    same, rfl⟩ := run
  cases same
  have chain := disarmedAll_of_runs retired
  have sound := Absorbed.sound_absorb selector.ready_enterPoll events
  have phase : disarmed.phase = .opened backend := by
    rw [chain.eq_keys, sound.keys_only]
    exact isOpen
  split at rest
  · obtain ⟨cleared, noted, consumed, same, rfl⟩ := Program.runs_bind.mp rest
    cases same
    have quiet := disarmed.consumeWakeup_isQuiet backend
    obtain rfl := eq_of_runs_consumeWakeup consumed
    have outcome : Processed answers backend events selector state (.ok _)
        { disarmed with wakeupPending := false, polling := false } middle :=
      .found chain ⟨_, _, _, quiet, consumed⟩
    have stays : disarmed.clearWakeup.phase = .opened backend := phase
    rw [endPoll_eq stays] at ended
    obtain ⟨rfl, rfl⟩ := ended
    exact outcome
  · obtain ⟨same, rfl⟩ := rest
    cases same
    rw [endPoll_eq phase] at ended
    obtain ⟨rfl, rfl⟩ := ended
    exact .found chain .refl

/-- Processing the events of a wait in an open selector is the rest of a poll. -/
theorem Processed.polled {selector later : Selector} {backend : Backend}
    {events : List ReadyEvent} {state between after : σ} {result : Except Fault (List Nat)}
    (outcome : Processed answers backend events selector between result later after)
    (isOpen : selector.phase = .opened backend) (waited : answers.Quietly state between) :
    Polled answers selector state result later after := by
  cases outcome with
  | found retired consumed => exact .found isOpen waited retired consumed

theorem polled_of_runs {selector later : Selector} {limit : Option Duration}
    {state after : σ} {result : Except Fault (List Nat)}
    (run : (selector.poll limit).Runs answers state (result, later) after) :
    Polled answers selector state result later after := by
  unfold poll beginPoll at run
  cases reached : selector.backend with
  | error fault =>
      simp only [reached] at run
      obtain ⟨same, rfl⟩ := run
      cases same
      obtain ⟨rfl, shut⟩ := shut_of_backend reached
      exact .shut shut
  | ok backend =>
      have isOpen := backend_eq_ok_iff.mp reached
      simp only [reached, Backend.wait] at run
      obtain ⟨reply, between, waited, rest⟩ := Program.runs_bind.mp run
      have quiet : answers.Quietly state between := by
        refine ⟨_, _, _, ?_, waited⟩
        exact Program.ensures_request trivial fun _ => trivial
      match reply with
      | .ok events => exact (processed_of_runs isOpen rest).polled isOpen quiet
      | .error errno =>
          simp only [completePoll] at rest
          split at rest
          · exact (processed_of_runs isOpen rest).polled isOpen quiet
          · obtain ⟨last, final, ended, same, rfl⟩ := Program.runs_bind.mp rest
            cases same
            have stays : selector.enterPoll.phase = .opened backend := isOpen
            rw [endPoll_eq stays] at ended
            obtain ⟨rfl, rfl⟩ := ended
            exact .failed isOpen quiet

end Selector

end SocketReactor
