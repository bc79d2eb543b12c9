import SocketReactor.Proofs.Selector.Bookkeeping
import SocketReactor.Proofs.Selector.Teardown

/-!
# What closing leaves behind

However closes, wakeups and the sections of a poll fall between each other, no poll
that has the backend is left waiting on an empty pipe, and every key is either let
go, still registered, or in the hands of a thread that closes.  `Teardown.Torn` and
`Teardown.Accounted` are the two invariants.
-/

namespace SocketReactor

/-! ## What leaves the registry alone -/

namespace Selector

def IsShut (selector : Selector) : Prop :=
  selector.isOpen = false ∧ selector.phase ≠ .unopened

/-- Nothing has changed in the registry nor in the keys outside of it, and a selector that
is shut has stayed so. -/
structure Aside (selector later : Selector) : Prop where
  registry : later.registry = selector.registry
  apart : ∀ serial, serial ∉ selector.registered → later.key? serial = selector.key? serial
  shut : selector.IsShut → later.IsShut

variable {selector middle later : Selector} {backend : Backend} {serial : Nat}

theorem Aside.refl (selector : Selector) : selector.Aside selector :=
  ⟨rfl, fun _ _ => rfl, id⟩

theorem Aside.registered (aside : selector.Aside later) :
    later.registered = selector.registered := by
  rw [Selector.registered, Selector.registered, aside.registry]

theorem Aside.trans (first : selector.Aside middle) (second : middle.Aside later) :
    selector.Aside later where
  registry := second.registry.trans first.registry
  apart serial unlisted := by
    have unlisted' : serial ∉ middle.registered := by rwa [first.registered]
    exact (second.apart serial unlisted').trans (first.apart serial unlisted)
  shut := second.shut ∘ first.shut

/-- A change of keys in the registry. -/
theorem Aside.of_eq_keys (same : later = { selector with keys := later.keys })
    (apart : ∀ serial, serial ∉ selector.registered → later.key? serial = selector.key? serial) :
    selector.Aside later where
  registry := by rw [same]
  apart := apart
  shut shut := by
    rw [same]
    exact shut

theorem aside_setKey (listed : serial ∈ selector.registered) (key : Key) :
    selector.Aside (selector.setKey serial key) := by
  refine .of_eq_keys rfl fun other unlisted => ?_
  rw [key?_setKey, if_neg]
  rintro rfl
  exact unlisted listed

theorem aside_forgetReady (selector : Selector) : selector.Aside selector.forgetReady := by
  refine .of_eq_keys rfl fun serial unlisted => ?_
  rw [key?_forgetReady, if_neg unlisted]

/-- An event changes and selects registered keys only. -/
theorem aside_absorbEvent {state : Absorbed} (event : ReadyEvent)
    (aside : selector.Aside state.selector)
    (picked : ∀ serial ∈ state.selected, serial ∈ selector.registered) :
    selector.Aside (absorbEvent state event).selector ∧
      ∀ serial ∈ (absorbEvent state event).selected, serial ∈ selector.registered := by
  unfold absorbEvent
  split
  · exact ⟨aside, picked⟩
  · cases listed : state.selector.registry.get? event.token with
    | none => exact ⟨aside, picked⟩
    | some serial =>
        have registered : serial ∈ state.selector.registered := mem_registered_of_get? listed
        cases found : state.selector.key? serial with
        | none =>
            simp only [bind, Option.bind, found]
            exact ⟨aside, picked⟩
        | some key =>
            simp only [bind, Option.bind, found, pure]
            split
            · exact ⟨aside, picked⟩
            · refine ⟨aside.trans (aside_setKey registered _), ?_⟩
              dsimp only
              split
              · intro other mem
                rw [List.mem_append, List.mem_singleton] at mem
                rcases mem with mem | rfl
                · exact picked other mem
                · exact aside.registered ▸ registered
              · exact picked

theorem aside_absorb (selector : Selector) (events : List ReadyEvent) :
    selector.Aside (selector.absorb events).selector ∧
      ∀ serial ∈ (selector.absorb events).selected, serial ∈ selector.registered := by
  have folded : ∀ state : Absorbed, selector.Aside state.selector →
      (∀ serial ∈ state.selected, serial ∈ selector.registered) →
      selector.Aside (events.foldl absorbEvent state).selector ∧
        ∀ serial ∈ (events.foldl absorbEvent state).selected, serial ∈ selector.registered := by
    induction events with
    | nil => exact fun state aside picked => ⟨aside, picked⟩
    | cons event rest ih =>
        intro state aside picked
        obtain ⟨aside', picked'⟩ := aside_absorbEvent event aside picked
        exact ih _ aside' picked'
  exact folded ⟨selector, [], false⟩ (.refl selector) fun _ mem => absurd mem List.not_mem_nil

/-- Nothing is selected from an empty registry. -/
theorem selected_absorb_of_empty (empty : selector.registry = ∅) (events : List ReadyEvent) :
    (selector.absorb events).selected = [] := by
  refine List.eq_nil_iff_forall_not_mem.mpr fun serial mem => ?_
  have listed := (selector.aside_absorb events).2 serial mem
  rw [registered, empty] at listed
  cases listed

theorem Disarmed.aside {σ : Type} {answers : Answering σ} {state after : σ}
    (listed : serial ∈ selector.registered)
    (outcome : Disarmed answers backend selector serial state later after) :
    selector.Aside later := by
  cases outcome with
  | kept silent => exact .refl selector
  | disarmed found reported sync => exact aside_setKey listed _

theorem DisarmedAll.aside {σ : Type} {answers : Answering σ} {serials : List Nat}
    {state after : σ} (listed : ∀ serial ∈ serials, serial ∈ selector.registered)
    (outcome : DisarmedAll answers backend serials selector state later after) :
    selector.Aside later := by
  induction outcome with
  | nil => exact .refl _
  | cons first others ih =>
      have aside := first.aside (listed _ List.mem_cons_self)
      refine aside.trans (ih fun serial mem => ?_)
      rw [aside.registered]
      exact listed serial (List.mem_cons_of_mem _ mem)

theorem isShut_beginClose (selector : Selector) : selector.beginClose.2.IsShut := by
  unfold beginClose
  cases phase : selector.phase <;> simp [IsShut, isOpen, phase]

theorem key?_updateKey (selector : Selector) (serial other : Nat) (change : Key → Key) :
    (selector.updateKey serial change).key? other =
      if other = serial then (selector.key? other).map change else selector.key? other :=
  Table.get?_modify selector.keys serial other change

end Selector

/-! ## Keys that are let go of -/

/-- The key does not count, is not ready and is not armed. -/
structure Key.LetGo (key : Key) : Prop where
  invalid : key.valid = false
  unready : key.ready = .none
  unarmed : key.armed = false

/-- Whatever the key had lost before, it has lost now. -/
structure Key.Wanes (key later : Key) : Prop where
  valid : key.valid = false → later.valid = false
  ready : key.ready = .none → later.ready = .none
  armed : key.armed = false → later.armed = false

namespace Key

variable {key later : Key}

theorem Wanes.refl (key : Key) : key.Wanes key := ⟨id, id, id⟩

theorem wanes_invalidate (key : Key) : key.Wanes key.invalidate :=
  ⟨fun _ => rfl, fun _ => rfl, id⟩

theorem wanes_disarm (key : Key) : key.Wanes key.disarm := ⟨id, id, fun _ => rfl⟩

theorem LetGo.wane (gone : key.LetGo) (wanes : key.Wanes later) : later.LetGo :=
  ⟨wanes.valid gone.invalid, wanes.ready gone.unready, wanes.armed gone.unarmed⟩

end Key

/-! ## The sections of a close -/

namespace Closer

variable {shared later : Shared} {closer next : Closer} {deed : Deed}

def Emptied : Closer → Prop
  | releasing _ _ | disarming _ _ _ => True
  | _ => False

/-- The thread is to let go of the key with a number. -/
def Minds : Closer → Nat → Key → Prop
  | away, _, _ | entered _, _, _ => False
  | releasing _ hand, serial, _ => serial ∈ hand
  | disarming _ current hand, serial, key =>
      serial ∈ hand ∨ serial = current ∧ key.valid = false ∧ key.ready = .none

theorem Minds.mem_hand {serial : Nat} {key : Key} (minds : closer.Minds serial key) :
    serial ∈ closer.hand := by
  cases closer with
  | away | entered => cases minds
  | releasing found hand => exact minds
  | disarming found current hand =>
      rcases minds with mem | ⟨rfl, -⟩
      · exact List.mem_cons_of_mem _ mem
      · exact List.mem_cons_self

theorem Minds.wane {serial : Nat} {key later : Key} (minds : closer.Minds serial key)
    (wanes : key.Wanes later) : closer.Minds serial later := by
  cases closer with
  | away | entered => cases minds
  | releasing found hand => exact minds
  | disarming found current hand =>
      refine minds.imp_right ?_
      rintro ⟨same, invalid, unready⟩
      exact ⟨same, wanes.valid invalid, wanes.ready unready⟩

theorem Step.isShut (step : Step shared closer deed later next)
    (before : closer ≠ .away → shared.selector.IsShut) : later.selector.IsShut := by
  cases step with
  | shut => exact shared.selector.isShut_beginClose
  | empty | invalidate | disarm | notify | finish => exact before nofun

theorem Step.registry_eq_empty (step : Step shared closer deed later next)
    (empty : shared.selector.registry = ∅) : later.selector.registry = ∅ := by
  cases step with
  | shut => exact shared.selector.registry_beginClose.trans empty
  | empty => rfl
  | invalidate | disarm | notify | finish => exact empty

theorem Step.registry_of_emptied (step : Step shared closer deed later next)
    (before : closer.Emptied → shared.selector.registry = ∅) (emptied : next.Emptied) :
    later.selector.registry = ∅ := by
  cases step with
  | shut | notify | finish => cases emptied
  | empty => rfl
  | invalidate | disarm => exact before trivial

/-- No section takes anything out of the pipe. -/
theorem Step.contents_ne_nil (step : Step shared closer deed later next)
    (full : shared.contents ≠ []) : later.contents ≠ [] := by
  cases step with
  | notify notified => exact Backend.ne_nil_of_notify notified
  | shut | empty | invalidate | disarm | finish => exact full

/-- What a section does to a key: it takes things from it only, and if it takes it out of
the registry or out of the thread's hands, the thread has it in hand or it is let go. -/
theorem Step.minds (step : Step shared closer deed later next) {serial : Nat} {key : Key}
    (found : later.selector.key? serial = some key) :
    ∃ before, shared.selector.key? serial = some before ∧ before.Wanes key ∧
      (serial ∈ shared.selector.registered →
        serial ∈ later.selector.registered ∨ next.Minds serial key) ∧
      (closer.Minds serial before → next.Minds serial key ∨ key.LetGo) := by
  cases step with
  | shut =>
      rw [Selector.registered, Selector.registered, Selector.registry_beginClose]
      exact ⟨key, (shared.selector.key?_beginClose serial).symm.trans found, .refl key, .inl,
        False.elim⟩
  | empty => exact ⟨key, found, .refl key, .inr, False.elim⟩
  | @invalidate _ hand current listed =>
      rw [Selector.key?_updateKey] at found
      split at found
      · rename_i same
        obtain ⟨before, present, rfl⟩ := Option.map_eq_some_iff.mp found
        exact ⟨before, present, before.wanes_invalidate, .inl,
          fun _ => .inl (.inr ⟨same, rfl, rfl⟩)⟩
      · rename_i apart
        exact ⟨key, found, .refl key, .inl,
          fun mem => .inl (.inl ((List.mem_erase_of_ne apart).mpr mem))⟩
  | @disarm _ hand current =>
      rw [Selector.key?_updateKey] at found
      split at found
      · obtain ⟨before, present, rfl⟩ := Option.map_eq_some_iff.mp found
        refine ⟨before, present, before.wanes_disarm, .inl, ?_⟩
        rintro (mem | ⟨-, invalid, unready⟩)
        · exact .inl mem
        · exact .inr ⟨invalid, unready, rfl⟩
      · rename_i apart
        exact ⟨key, found, .refl key, .inl, fun minds =>
          .inl (minds.resolve_right fun other => apart other.1)⟩
  | notify | finish => exact ⟨key, found, .refl key, .inl, fun mem => absurd mem List.not_mem_nil⟩

end Closer

/-! ## The sections of a poll -/

namespace Backend

variable {backend : Backend} {contents : List UInt8}

/-- The pipe can always be written to. -/
theorem exists_runs_notify :
    ∃ reply after, backend.notify.Runs Pipe.Answers contents reply after :=
  ⟨_, _, Program.runs_bind.mpr ⟨.ok 1, contents ++ [1], Program.runs_request.mpr rfl, rfl, rfl⟩⟩

theorem exists_runs_drainUpTo (reads : Nat) :
    ∃ dropped after, (backend.drainUpTo reads).Runs Pipe.Answers contents dropped after := by
  induction reads generalizing contents with
  | zero => exact ⟨_, _, rfl, rfl⟩
  | succ reads ih =>
      simp only [drainUpTo, Program.runs_bind]
      cases held : contents with
      | nil =>
          have answered : (Program.request (.readPipe backend.reader drainChunk)).Runs
              Pipe.Answers [] (.error .tryAgain) [] := Program.runs_request.mpr ⟨rfl, rfl⟩
          exact ⟨_, _, _, _, answered, rfl, rfl⟩
      | cons octet rest =>
          have answered : (Program.request (.readPipe backend.reader drainChunk)).Runs
              Pipe.Answers (octet :: rest) (.ok (octet :: rest.take 63)) (rest.drop 63) :=
            Program.runs_request.mpr ⟨List.cons_ne_nil _ _, rfl, rfl⟩
          obtain ⟨dropped, after, run⟩ := @ih (rest.drop 63)
          exact ⟨_, _, _, _, answered, Program.runs_bind.mpr ⟨_, _, run, rfl, rfl⟩⟩

/-- The pipe can always be drained. -/
theorem exists_runs_drain :
    ∃ dropped after, backend.drain.Runs Pipe.Answers contents dropped after :=
  exists_runs_drainUpTo 1025

end Backend

namespace Waiter

variable {shared later : Shared} {waiter next : Waiter} {deed : Deed} {selected : List Nat}
  {count : Nat}

theorem Step.aside (step : Step shared waiter deed later next) :
    shared.selector.Aside later.selector := by
  cases step with
  | fetch | clear | leave => exact ⟨rfl, fun _ _ => rfl, id⟩
  | forget => exact shared.selector.aside_forgetReady
  | process found run =>
      obtain ⟨aside, picked⟩ := shared.selector.aside_absorb _
      refine aside.trans ((Selector.disarmedAll_of_runs run).aside ?_)
      intro serial mem
      rw [aside.registered]
      exact picked serial mem
  | wait | fail | drain | look | rewrite => exact .refl _

/-- Nobody comes to wait on a selector that is shut, and who waits leaves the pipe alone. -/
theorem Step.blocked (step : Step shared waiter deed later next)
    (shut : shared.selector.IsShut) (blocked : next.Blocked) :
    waiter.Blocked ∧ later.contents = shared.contents := by
  cases step with
  | fetch reached =>
      have isOpen := Selector.backend_eq_ok_iff.mp reached
      have closed := shut.1
      rw [Selector.isOpen, isOpen] at closed
      cases closed
  | forget => exact ⟨trivial, rfl⟩
  | process | look =>
      split at blocked <;> cases blocked
  | wait | fail | clear | drain | rewrite | leave => cases blocked

/-- The poll returns with these keys after so many more of its sections at most. -/
inductive Bound (selected : List Nat) : Waiter → Nat → Prop where
  | done : Bound selected (.done (.ok selected)) 1
  | owing {backend : Backend} : Bound selected (.owing backend selected) 2
  | drained {backend : Backend} : Bound selected (.drained backend selected) 3
  | cleared {backend : Backend} : Bound selected (.cleared backend selected) 4
  | told {backend : Backend} : Bound selected (.told backend selected) 5

theorem Bound.pos (bound : Bound selected waiter count) : 0 < count := by
  cases bound <;> decide

/-- A section brings the poll nearer to its return, or it is the return. -/
theorem Bound.step (bound : Bound selected waiter count)
    (step : Step shared waiter deed later next) :
    deed = .leave (.ok selected) ∨ ∃ fewer, fewer < count ∧ Bound selected next fewer := by
  cases bound with
  | done =>
      cases step with
      | leave => exact .inl rfl
  | owing =>
      cases step with
      | rewrite notified => exact .inr ⟨1, by decide, .done⟩
  | drained =>
      cases step with
      | look =>
          split
          · exact .inr ⟨2, by decide, .owing⟩
          · exact .inr ⟨1, by decide, .done⟩
  | cleared =>
      cases step with
      | drain run => exact .inr ⟨3, by decide, .drained⟩
  | told =>
      cases step with
      | clear => exact .inr ⟨4, by decide, .cleared⟩

theorem Bound.result {result : Except Fault (List Nat)} (bound : Bound selected waiter count)
    (step : Step shared waiter (.leave result) later next) : result = .ok selected := by
  cases bound with
  | done =>
      cases step with
      | leave => rfl
  | owing | drained | cleared | told => cases step

/-- Nothing keeps the poll from its next section. -/
theorem Bound.goes_on (bound : Bound selected waiter count) (shared : Shared) :
    ∃ deed later next, Step shared waiter deed later next := by
  cases bound with
  | done => exact ⟨_, _, _, .leave⟩
  | owing =>
      obtain ⟨reply, after, notified⟩ := Backend.exists_runs_notify
      exact ⟨_, _, _, .rewrite notified⟩
  | drained => exact ⟨_, _, _, .look⟩
  | cleared =>
      obtain ⟨dropped, after, run⟩ := Backend.exists_runs_drain
      exact ⟨_, _, _, .drain run⟩
  | told => exact ⟨_, _, _, .clear⟩

/-- A poll that processes its events on an empty registry will return without a key. -/
theorem bound_of_process (empty : shared.selector.registry = ∅)
    (step : Step shared waiter .process later next) :
    ∃ count, count ≤ 5 ∧ Bound [] next count := by
  cases step with
  | process found run =>
      rw [Selector.selected_absorb_of_empty empty]
      split
      · exact ⟨5, le_rfl, .told⟩
      · exact ⟨1, by decide, .done⟩

end Waiter

/-! ## All threads together -/

theorem Interplay.Step.aside {ι : Type} [DecidableEq ι] {state later : Interplay ι}
    {turning : Turning ι} (step : Interplay.Step state turning later)
    (away : state.poller = .away) (still : later.poller = .away) :
    state.selector.Aside later.selector ∧ (state.contents ≠ [] → later.contents ≠ []) := by
  cases step with
  | enter | join | note => exact ⟨⟨rfl, fun _ _ => rfl, id⟩, id⟩
  | write owing run =>
      obtain ⟨-, same, notified⟩ := Selector.notified_of_deliverWakeup run
      rw [same]
      exact ⟨.refl _, fun _ => Backend.ne_nil_of_notify notified⟩
  | begin | hear | clear | drain | look => cases still
  | pass before | leave before | rewrite before => cases away.symm.trans before

namespace Teardown

variable {ι : Type} [DecidableEq ι] {state middle later : Teardown ι} {deed : Deed ι}
  {deeds : List (Deed ι)}

/-- A step is one of a thread that closes, or it leaves the registry and those threads
alone. -/
theorem Step.aside_or (step : Step state deed later) :
    state.selector.Aside later.selector ∧ later.closer = state.closer ∨
      ∃ who next deed', Closer.Step state.toShared (state.closer who) deed' later.toShared next ∧
        later.closer = Function.update state.closer who next := by
  cases step with
  | wake woke still => exact .inl ⟨(woke.aside rfl still).1, rfl⟩
  | close closed => exact .inr ⟨_, _, _, closed, rfl⟩
  | poll polled => exact .inl ⟨polled.aside, rfl⟩
  | retire shut unheld run => exact .inl ⟨⟨rfl, fun _ _ => rfl, fun _ => ⟨rfl, nofun⟩⟩, rfl⟩

/-- A thread that closes has shut the selector, and later emptied the registry. -/
structure Ordered (state : Teardown ι) : Prop where
  shut : ∀ who, state.closer who ≠ .away → state.selector.IsShut
  empty : ∀ who, (state.closer who).Emptied → state.selector.registry = ∅

theorem Ordered.step (ordered : state.Ordered) (step : Step state deed later) :
    later.Ordered := by
  rcases step.aside_or with ⟨aside, same⟩ | ⟨who, next, deed', closed, updated⟩
  · constructor
    · intro who busy
      rw [same] at busy
      exact aside.shut (ordered.shut who busy)
    · intro who emptied
      rw [same] at emptied
      exact aside.registry.trans (ordered.empty who emptied)
  · constructor
    · intro other busy
      exact closed.isShut (ordered.shut who)
    · intro other emptied
      rw [updated, Function.update_apply] at emptied
      split at emptied
      · exact closed.registry_of_emptied (ordered.empty who) emptied
      · exact closed.registry_eq_empty (ordered.empty other emptied)

theorem shut_of_step (shut : state.selector.IsShut) (step : Step state deed later) :
    later.selector.IsShut := by
  rcases step.aside_or with ⟨aside, -⟩ | ⟨who, next, deed', closed, -⟩
  · exact aside.shut shut
  · exact closed.isShut fun _ => shut

/-- Nothing fills the registry again. -/
theorem empty_of_step (empty : state.selector.registry = ∅) (step : Step state deed later) :
    later.selector.registry = ∅ := by
  rcases step.aside_or with ⟨aside, -⟩ | ⟨who, next, deed', closed, -⟩
  · exact aside.registry.trans empty
  · exact closed.registry_eq_empty empty

/-- The selector is shut, its registry is empty, and no poll waits on an empty pipe. -/
structure Torn (state : Teardown ι) : Prop where
  shut : state.selector.IsShut
  empty : state.selector.registry = ∅
  roused : state.poller.Blocked → state.contents ≠ []

theorem Torn.step (torn : state.Torn) (step : Step state deed later) : later.Torn where
  shut := shut_of_step torn.shut step
  empty := empty_of_step torn.empty step
  roused := by
    intro blocked
    cases step with
    | wake woke still => exact (woke.aside rfl still).2 (torn.roused blocked)
    | close closed => exact closed.contents_ne_nil (torn.roused blocked)
    | poll polled =>
        -- Only a poll that is past its wait drains the pipe, and then nobody waits.
        obtain ⟨blocked', same⟩ := polled.blocked torn.shut blocked
        rw [same]
        exact torn.roused blocked'
    | retire shut unheld run =>
        rw [unheld.1] at blocked
        cases blocked

/-- A close that found the selector open leaves it torn. -/
theorem Ordered.torn {who : ι} (ordered : state.Ordered)
    (step : Step state (.close who .notify) later) : later.Torn := by
  have empty := ordered.empty who
  have shut := ordered.shut who
  cases step with
  | close closed =>
      generalize state.closer who = closer at closed empty shut
      cases closed with
      | notify notified =>
          exact ⟨shut nofun, empty trivial, fun _ => Backend.ne_nil_of_notify notified⟩

theorem empty_of_close {who : ι} (step : Step state (.close who .empty) later) :
    later.selector.registry = ∅ := by
  cases step with
  | close closed =>
      generalize state.closer who = closer at closed
      cases closed with
      | empty => rfl

omit [DecidableEq ι] in
theorem ordered_idle (selector : Selector) (contents : List UInt8) :
    (idle selector contents : Teardown ι).Ordered :=
  ⟨fun _ busy => absurd rfl busy, nofun⟩

/-- Every key is let go, registered, or in the hands of a thread that closes. -/
def Accounted (state : Teardown ι) : Prop :=
  ∀ serial key, state.selector.key? serial = some key →
    key.LetGo ∨ serial ∈ state.selector.registered ∨
      ∃ who, (state.closer who).Minds serial key

theorem Accounted.step (accounted : state.Accounted) (step : Step state deed later) :
    later.Accounted := by
  intro serial key found
  rcases step.aside_or with ⟨aside, same⟩ | ⟨who, next, deed', closed, updated⟩
  · -- Polls reach registered keys only, so any other key is as it was.
    rw [same, aside.registered]
    by_cases listed : serial ∈ state.selector.registered
    · exact .inr (.inl listed)
    · exact accounted serial key ((aside.apart serial listed).symm.trans found)
  · obtain ⟨before, present, wanes, listed, minds⟩ := closed.minds found
    rw [updated]
    have mine : next.Minds serial key →
        ∃ other, (Function.update state.closer who next other).Minds serial key :=
      fun minds => ⟨who, by rwa [Function.update_self]⟩
    rcases accounted serial before present with gone | registered | ⟨other, minds'⟩
    · exact .inl (gone.wane wanes)
    · exact .inr ((listed registered).imp_right mine)
    · by_cases same : other = who
      · subst same
        exact (minds minds').elim (fun kept => .inr (.inr (mine kept))) .inl
      · refine .inr (.inr ⟨other, ?_⟩)
        rw [Function.update_of_ne same]
        exact minds'.wane wanes

omit [DecidableEq ι] in
/-- Before anything is closed, a key is registered if it counts, as long as no token has
repeated. -/
theorem accounted_idle {selector : Selector} {contents : List UInt8} (kept : selector.Kept)
    (bound : selector.issued ≤ 2 ^ 64) : (idle selector contents : Teardown ι).Accounted := by
  intro serial key found
  cases valid : key.valid with
  | true =>
      exact .inr (.inl (Selector.mem_registered_of_get?
        (kept.registered bound serial key found valid)))
  | false =>
      exact .inl ⟨valid, (kept.sane serial key found).rested valid,
        kept.unwatched bound serial key found valid⟩

/-- As long as the poll has not returned, it comes nearer to its return with every section. -/
theorem bound_of_run {selected : List Nat} {count : Nat} (run : Run state deeds later)
    (bound : Waiter.Bound selected state.poller count)
    (unfinished : ∀ result, .poll (.leave result) ∉ deeds) :
    ∃ fewer, deeds.countP Deed.polls + fewer ≤ count ∧
      Waiter.Bound selected later.poller fewer := by
  induction run generalizing count with
  | nil => exact ⟨count, Nat.le_of_eq (Nat.zero_add _), bound⟩
  | @cons state middle later deed deeds first rest ih =>
      have unfinished' : ∀ result, .poll (.leave result) ∉ deeds := fun result did =>
        unfinished result (List.mem_cons_of_mem _ did)
      cases first with
      | poll polled =>
          rcases bound.step polled with rfl | ⟨nearer, less, bound'⟩
          · exact absurd List.mem_cons_self (unfinished _)
          · obtain ⟨fewer, within, bound''⟩ := ih bound' unfinished'
            refine ⟨fewer, ?_, bound''⟩
            rw [List.countP_cons_of_pos rfl]
            omega
      | wake | close | retire =>
          obtain ⟨fewer, within, bound'⟩ := ih bound unfinished'
          refine ⟨fewer, ?_, bound'⟩
          rw [List.countP_cons_of_neg Bool.false_ne_true]
          exact within

/-- A poll that processes its events now returns without a key: after four more of its
sections at most, from none of which it is kept. -/
def ReturnsEmpty (state : Teardown ι) : Prop :=
  ∀ middle deeds later, state.Step (.poll .process) middle → middle.Run deeds later →
    (∀ result, .poll (.leave result) ∉ deeds) →
      deeds.countP Deed.polls ≤ 4 ∧ (∃ deed last, later.Step (.poll deed) last) ∧
        ∀ result last, later.Step (.poll (.leave result)) last → result = .ok []

theorem returnsEmpty_of_empty (empty : state.selector.registry = ∅) : state.ReturnsEmpty := by
  intro middle deeds later first run unfinished
  have started : ∃ count, count ≤ 5 ∧ Waiter.Bound [] middle.poller count := by
    cases first with
    | poll polled => exact Waiter.bound_of_process empty polled
  obtain ⟨count, most, bound⟩ := started
  obtain ⟨fewer, within, bound'⟩ := bound_of_run run bound unfinished
  have some_left := bound'.pos
  refine ⟨by omega, ?_, ?_⟩
  · obtain ⟨deed, after, next, polled⟩ := bound'.goes_on later.toShared
    exact ⟨deed, _, .poll polled⟩
  · intro result last left
    cases left with
    | poll polled => exact bound'.result polled

end Teardown

end SocketReactor
