import SocketReactor.Proofs.Selector.Bookkeeping
import SocketReactor.Proofs.Selector.Gathering

/-!
# How a poll reckons the events of its wait

Taking the events in one after the other makes each registered key ready for
what they gather to, and selects the keys in the order of the first events that
rouse them.  `Absorbed.Tallied` is the invariant of that loop.  Afterwards the
keys that have reported a connection lose their interest in one.
-/

namespace SocketReactor

namespace Selector

/-- Whether the events under the token of a key concern it: it is registered, and its token
is not the one of the pipe. -/
def Hears (selector : Selector) (serial : Nat) (key : Key) : Prop :=
  selector.registry.get? key.token = some serial ∧ key.token ≠ Backend.notifyToken

instance (selector : Selector) (serial : Nat) (key : Key) : Decidable (selector.Hears serial key) :=
  inferInstanceAs (Decidable (_ ∧ _))

def roused? (selector : Selector) (event : ReadyEvent) : Option Nat := do
  let serial ← selector.registry.get? event.token
  let key ← selector.key? serial
  if event.token ≠ Backend.notifyToken ∧ key.gathered [event] ≠ .none then some serial else none

def told (selector : Selector) (events : List ReadyEvent) (serial : Nat) (key : Key) : Key :=
  if selector.Hears serial key then { key with ready := key.gathered events } else key

/-- The registered keys count, stand under their own tokens and are ready for nothing. -/
def Attentive (selector : Selector) : Prop :=
  ∀ token serial, selector.registry.get? token = some serial →
    ∃ key, selector.key? serial = some key ∧ key.valid = true ∧ key.token = token ∧
      key.ready = .none

theorem attentive_enterPoll {selector : Selector} (kept : selector.Kept) :
    selector.enterPoll.Attentive := by
  intro token serial listed
  obtain ⟨key, found, valid, own⟩ := kept.listed token serial listed
  have waiting : selector.enterPoll.key? serial = some { key with ready := .none } := by
    have registered : serial ∈ selector.registered := mem_registered_of_get? listed
    exact (selector.key?_forgetReady serial).trans (by rw [if_pos registered, found]; rfl)
  exact ⟨_, waiting, valid, own, rfl⟩

section Told

variable {start : Selector} {event : ReadyEvent} {past events : List ReadyEvent}
  {serial : Nat} {key : Key}

theorem told_nil (attentive : start.Attentive) (found : start.key? serial = some key) :
    start.told [] serial key = key := by
  unfold told
  split
  · rename_i hears
    obtain ⟨other, found', -, -, rested⟩ := attentive _ _ hears.1
    cases found.symm.trans found'
    rw [Key.gathered_nil, ← rested]
  · rfl

theorem told_of_quiet
    (quiet : start.Hears serial key → key.gathered [event] = .none) :
    start.told (past ++ [event]) serial key = start.told past serial key := by
  unfold told
  split
  · rename_i hears
    rw [Key.gathered_append, quiet hears, OpSet.union_none]
  · rfl

theorem roused?_eq_some_iff (attentive : start.Attentive) :
    start.roused? event = some serial ↔ ∃ key, start.key? serial = some key ∧
      start.Hears serial key ∧ key.gathered [event] ≠ .none := by
  constructor
  · intro roused
    obtain ⟨listed, registered, rest⟩ := Option.bind_eq_some_iff.mp roused
    obtain ⟨key, found, rest⟩ := Option.bind_eq_some_iff.mp rest
    split at rest
    · rename_i heard
      cases rest
      obtain ⟨other, found', -, own, -⟩ := attentive _ _ registered
      cases found.symm.trans found'
      exact ⟨key, found, ⟨own ▸ registered, own ▸ heard.1⟩, heard.2⟩
    · cases rest
  · rintro ⟨key, found, hears, some_ready⟩
    have own : event.token = key.token := by
      by_contra foreign
      exact some_ready (Key.gathered_of_foreign foreign)
    unfold roused?
    rw [own, hears.1]
    simp only [bind, Option.bind, found]
    exact if_pos ⟨hears.2, some_ready⟩

/-- Keys are among those that a list of events rouses just when the list as a whole makes
them ready for something. -/
theorem mem_roused_iff (attentive : start.Attentive) :
    serial ∈ events.filterMap start.roused? ↔ ∃ key, start.key? serial = some key ∧
      start.Hears serial key ∧ key.gathered events ≠ .none := by
  rw [List.mem_filterMap]
  constructor
  · rintro ⟨event, mem, roused⟩
    obtain ⟨key, found, hears, some_ready⟩ := (roused?_eq_some_iff attentive).mp roused
    exact ⟨key, found, hears, Key.gathered_ne_none_iff.mpr ⟨event, mem, some_ready⟩⟩
  · rintro ⟨key, found, hears, some_ready⟩
    obtain ⟨event, mem, some_ready⟩ := Key.gathered_ne_none_iff.mp some_ready
    exact ⟨event, mem, (roused?_eq_some_iff attentive).mpr ⟨key, found, hears, some_ready⟩⟩

end Told

namespace Absorbed

/-- Only a value that is new comes to those of a list without doubles. -/
theorem eraseDups_snoc (values : List Nat) (value : Nat) :
    (values ++ [value]).eraseDups =
      if value ∈ values then values.eraseDups else values.eraseDups ++ [value] := by
  rw [List.eraseDups_append]
  by_cases known : value ∈ values
  · have gone : [value].removeAll values = [] := by simp [List.removeAll, known]
    rw [gone, if_pos known, List.eraseDups_nil, List.append_nil]
  · have stays : [value].removeAll values = [value] := by simp [List.removeAll, known]
    rw [stays, if_neg known]
    rfl

/-- What the events that have been taken in come to. -/
structure Tallied (start : Selector) (events : List ReadyEvent) (state : Absorbed) : Prop where
  registry : state.selector.registry = start.registry
  keys : ∀ serial, state.selector.key? serial =
    (start.key? serial).map (start.told events serial)
  /-- The keys are selected in the order of the first events that rouse them. -/
  selected : state.selected = (events.filterMap start.roused?).eraseDups

namespace Tallied

variable {start : Selector} {past : List ReadyEvent} {event : ReadyEvent}
  {state : Absorbed}

theorem begin (attentive : start.Attentive) : Tallied start [] ⟨start, [], false⟩ where
  registry := rfl
  keys serial := by
    cases found : start.key? serial with
    | none => rfl
    | some key => rw [Option.map_some, told_nil attentive found]
  selected := rfl

/-- An event that makes no key ready. -/
theorem pass (attentive : start.Attentive) (tallied : Tallied start past state) (woke : Bool)
    (quiet : ∀ serial key, start.key? serial = some key → start.Hears serial key →
      key.gathered [event] = .none) :
    Tallied start (past ++ [event]) { state with woke := woke } where
  registry := tallied.registry
  keys serial := by
    rw [tallied.keys serial]
    cases found : start.key? serial with
    | none => rfl
    | some key => rw [Option.map_some, Option.map_some, told_of_quiet (quiet serial key found)]
  selected := by
    have silent : start.roused? event = none := by
      by_contra heard
      obtain ⟨serial, roused⟩ := Option.ne_none_iff_exists'.mp heard
      obtain ⟨key, found, hears, some_ready⟩ := (roused?_eq_some_iff attentive).mp roused
      exact some_ready (quiet serial key found hears)
    rw [List.filterMap_append, List.filterMap_cons_none silent, List.filterMap_nil,
      List.append_nil]
    exact tallied.selected

/-- An event that rouses a key, whether or not an earlier one has. -/
theorem rouse (attentive : start.Attentive) (tallied : Tallied start past state)
    {serial : Nat} {key : Key} (found : start.key? serial = some key)
    (hears : start.Hears serial key) (own : event.token = key.token)
    (some_ready : key.readiness event ≠ .none) :
    Tallied start (past ++ [event])
      { selector := state.selector.setKey serial
          { key with ready := key.gathered past ∪ key.readiness event }
        selected :=
          if (key.gathered past).isEmpty then state.selected ++ [serial] else state.selected
        woke := state.woke } where
  registry := tallied.registry
  keys other := by
    rw [key?_setKey]
    by_cases same : other = serial
    · subst same
      rw [if_pos rfl, found, Option.map_some, told, if_pos hears, Key.gathered_append,
        Key.gathered_of_own own]
    · rw [if_neg same, tallied.keys other]
      cases found' : start.key? other with
      | none => rfl
      | some key' =>
          rw [Option.map_some, Option.map_some, told_of_quiet]
          intro hears'
          refine Key.gathered_of_foreign ?_
          intro own'
          have entry := hears.1
          rw [← own, own', hears'.1] at entry
          exact same (Option.some.inj entry)
  selected := by
    have roused : start.roused? event = some serial :=
      (roused?_eq_some_iff attentive).mpr
        ⟨key, found, hears, (Key.gathered_of_own own).symm ▸ some_ready⟩
    -- The key is in the list exactly if what was gathered for it is not empty.
    have before : serial ∈ past.filterMap start.roused? ↔ key.gathered past ≠ .none := by
      rw [mem_roused_iff attentive]
      constructor
      · rintro ⟨key', found', -, some_ready⟩
        cases found.symm.trans found'
        exact some_ready
      · exact fun some_ready => ⟨key, found, hears, some_ready⟩
    have last : [event].filterMap start.roused? = [serial] := by
      simp [roused]
    rw [List.filterMap_append, last, eraseDups_snoc, ← tallied.selected]
    by_cases first : key.gathered past = .none
    · rw [if_pos ((OpSet.isEmpty_iff _).mpr first), if_neg fun mem => before.mp mem first]
    · rw [if_neg (mt (OpSet.isEmpty_iff _).mp first), if_pos (before.mpr first)]

/-- Taking one more event in comes to what the events come to with it. -/
theorem absorbEvent (attentive : start.Attentive) (tallied : Tallied start past state)
    (event : ReadyEvent) : Tallied start (past ++ [event]) (Selector.absorbEvent state event) := by
  unfold Selector.absorbEvent
  split
  · rename_i piped
    refine tallied.pass attentive true ?_
    intro serial key found hears
    refine Key.gathered_of_foreign ?_
    intro own
    exact hears.2 (own.symm.trans piped)
  · rename_i unpiped
    cases listed : state.selector.registry.get? event.token with
    | none =>
        refine tallied.pass attentive state.woke ?_
        intro serial key found hears
        refine Key.gathered_of_foreign ?_
        intro own
        rw [tallied.registry, own, hears.1] at listed
        cases listed
    | some serial =>
        rw [tallied.registry] at listed
        obtain ⟨key, found, valid, own, rested⟩ := attentive _ _ listed
        have hears : start.Hears serial key := ⟨own ▸ listed, own ▸ unpiped⟩
        have present := tallied.keys serial
        rw [found, Option.map_some, told, if_pos hears] at present
        simp only [bind, Option.bind, present, pure]
        split
        · rename_i idle
          rw [valid, Bool.not_true, Bool.false_or] at idle
          refine tallied.pass attentive state.woke ?_
          intro other key' found' hears'
          by_cases same : other = serial
          · subst same
            cases found.symm.trans found'
            rw [Key.gathered_of_own own.symm]
            exact (OpSet.isEmpty_iff _).mp idle
          · refine Key.gathered_of_foreign ?_
            intro own'
            rw [own', hears'.1] at listed
            exact same (Option.some.inj listed)
        · rename_i busy
          rw [valid, Bool.not_true, Bool.false_or] at busy
          exact tallied.rouse attentive found hears own.symm (mt (OpSet.isEmpty_iff _).mpr busy)

end Tallied

theorem tallied_absorb {start : Selector} (attentive : start.Attentive)
    (events : List ReadyEvent) : Tallied start events (start.absorb events) := by
  have tallied : ∀ past state, Tallied start past state →
      Tallied start (past ++ events) (events.foldl absorbEvent state) := by
    induction events with
    | nil => simp
    | cons event rest ih =>
        intro past state tallied
        have longer := ih _ _ (tallied.absorbEvent attentive event)
        rw [List.append_assoc] at longer
        exact longer
  exact tallied [] _ (.begin attentive)

end Absorbed

section Retiring

variable {σ : Type} {answers : Answering σ} {backend : Backend} {selector later : Selector}
  {serial other : Nat} {serials : List Nat} {key : Key} {state after : σ}

theorem Disarmed.spares (outcome : Disarmed answers backend selector serial state later after)
    (apart : other ≠ serial) : later.key? other = selector.key? other := by
  cases outcome with
  | kept silent => rfl
  | disarmed found reported sync => rw [key?_setKey, if_neg apart]

/-- A key that has reported a connection waits for one no longer, and nothing else of it
changes but whether its descriptor is watched. -/
theorem Disarmed.retires (outcome : Disarmed answers backend selector serial state later after)
    (found : selector.key? serial = some key) :
    ∃ armed, later.key? serial = some { key with
      interest := if key.ready.connect then key.interest ∩ OpSet.connecting.complement
        else key.interest
      armed := armed } := by
  cases outcome with
  | kept silent =>
      refine ⟨key.armed, ?_⟩
      rw [found, silent key found]
      rfl
  | disarmed present reported sync =>
      rename_i former synced reply
      cases found.symm.trans present
      refine ⟨synced.armed, ?_⟩
      rw [key?_setKey, if_pos rfl, if_pos reported, sync.eq_armed.1]

theorem DisarmedAll.spares
    (outcome : DisarmedAll answers backend serials selector state later after)
    (passed : other ∉ serials) : later.key? other = selector.key? other := by
  induction outcome with
  | nil => rfl
  | cons first others ih =>
      rw [List.mem_cons, not_or] at passed
      rw [ih passed.2, first.spares passed.1]

theorem DisarmedAll.retires
    (outcome : DisarmedAll answers backend serials selector state later after)
    (nodup : serials.Nodup) (mem : other ∈ serials) (found : selector.key? other = some key) :
    ∃ armed, later.key? other = some { key with
      interest := if key.ready.connect then key.interest ∩ OpSet.connecting.complement
        else key.interest
      armed := armed } := by
  induction outcome with
  | nil => cases mem
  | cons first others ih =>
      obtain ⟨fresh, nodup⟩ := List.nodup_cons.mp nodup
      rcases List.mem_cons.mp mem with rfl | later_on
      · rw [others.spares fresh]
        exact first.retires found
      · refine ih nodup later_on ((first.spares ?_).trans found)
        rintro rfl
        exact fresh later_on

end Retiring

/-- What a poll makes of the events of its wait: the selector before, the keys given and the
selector after. -/
structure Reckons (selector : Selector) (events : List ReadyEvent) (selected : List Nat)
    (later : Selector) : Prop where
  /-- The keys are given in the order of the first events that make them ready. -/
  order : selected = (events.filterMap selector.roused?).eraseDups
  nodup : selected.Nodup
  /-- The keys given are the registered ones that are ready. -/
  ready_iff : ∀ serial, serial ∈ selected ↔ ∃ key, later.key? serial = some key ∧
    later.registry.get? key.token = some serial ∧ key.ready ≠ .none
  /-- A registered key is ready for what the events say, and its interest loses connecting if
  it is ready for that. -/
  heard : ∀ serial key, selector.key? serial = some key → selector.Hears serial key →
    ∃ armed, later.key? serial = some { key with
      ready := key.gathered events
      interest := if (key.gathered events).connect
        then key.interest ∩ OpSet.connecting.complement else key.interest
      armed := armed }
  /-- A key under the token of the pipe hears nothing. -/
  deaf : ∀ serial key, selector.key? serial = some key →
    selector.registry.get? Backend.notifyToken = some serial →
    later.key? serial = some { key with ready := .none }
  unlisted : ∀ serial, serial ∉ selector.registered → later.key? serial = selector.key? serial
  registry : later.registry = selector.registry

section Reckoning

variable {σ : Type} {answers : Answering σ} {backend : Backend} {selector later : Selector}
  {events events' : List ReadyEvent} {serial : Nat} {key : Key} {state after : σ}

theorem key?_enterPoll_of_listed {token : UInt64} (found : selector.key? serial = some key)
    (listed : selector.registry.get? token = some serial) :
    selector.enterPoll.key? serial = some { key with ready := .none } := by
  have registered : serial ∈ selector.registered := mem_registered_of_get? listed
  exact (selector.key?_forgetReady serial).trans (by rw [if_pos registered, found]; rfl)

/-- Forgetting what was ready does not change which keys events make ready. -/
theorem roused?_enterPoll (selector : Selector) (event : ReadyEvent) :
    selector.enterPoll.roused? event = selector.roused? event := by
  unfold roused?
  cases listed : selector.registry.get? event.token with
  | none =>
      have listed' : selector.enterPoll.registry.get? event.token = none := listed
      rw [listed']
      rfl
  | some serial =>
      have listed' : selector.enterPoll.registry.get? event.token = some serial := listed
      rw [listed']
      cases found : selector.key? serial with
      | none =>
          have absent : selector.enterPoll.key? serial = none := by
            refine (selector.key?_forgetReady serial).trans ?_
            simp [found]
          simp only [bind, Option.bind, found, absent]
      | some key =>
          simp only [bind, Option.bind, found, key?_enterPoll_of_listed found listed]
          rfl

section Found

variable {disarmed : Selector} {middle : σ} (kept : selector.Kept)
  (retired : DisarmedAll answers backend (selector.enterPoll.absorb events).selected
    (selector.enterPoll.absorb events).selector state disarmed middle)

include kept

theorem mem_selected_iff :
    serial ∈ (selector.enterPoll.absorb events).selected ↔
      ∃ key, selector.key? serial = some key ∧ selector.Hears serial key ∧
        key.gathered events ≠ .none := by
  have attentive := attentive_enterPoll kept
  rw [(Absorbed.tallied_absorb attentive events).selected, List.mem_eraseDups,
    mem_roused_iff attentive]
  constructor
  · rintro ⟨key, waiting, hears, some_ready⟩
    have listed : selector.registry.get? key.token = some serial := hears.1
    obtain ⟨before, found, -, -⟩ := kept.listed _ _ listed
    cases waiting.symm.trans (key?_enterPoll_of_listed found listed)
    exact ⟨before, found, hears, some_ready⟩
  · rintro ⟨key, found, hears, some_ready⟩
    exact ⟨_, key?_enterPoll_of_listed found hears.1, hears, some_ready⟩

include retired

theorem heard_of_retired (found : selector.key? serial = some key)
    (hears : selector.Hears serial key) :
    ∃ armed, disarmed.key? serial = some { key with
      ready := key.gathered events
      interest := if (key.gathered events).connect
        then key.interest ∩ OpSet.connecting.complement else key.interest
      armed := armed } := by
  have attentive := attentive_enterPoll kept
  have absorbed := (Absorbed.tallied_absorb attentive events).keys serial
  have hears' : selector.enterPoll.Hears serial { key with ready := .none } := hears
  rw [key?_enterPoll_of_listed found hears.1, Option.map_some, told, if_pos hears'] at absorbed
  by_cases mem : serial ∈ (selector.enterPoll.absorb events).selected
  · have sound := Absorbed.sound_absorb selector.ready_enterPoll events
    exact retired.retires sound.nodup mem absorbed
  · -- A key that is not selected is ready for nothing, so it keeps its interest.
    have silent : key.gathered events = .none := by
      by_contra some_ready
      exact mem ((mem_selected_iff kept).mpr ⟨key, found, hears, some_ready⟩)
    have same : disarmed.key? serial = some { key with ready := key.gathered events } :=
      (retired.spares mem).trans absorbed
    refine ⟨key.armed, ?_⟩
    rw [same, silent]
    rfl

theorem unheard_of_retired
    (unheard : ∀ key, selector.enterPoll.key? serial = some key →
      ¬selector.enterPoll.Hears serial key) :
    disarmed.key? serial = selector.enterPoll.key? serial := by
  have absorbed := (Absorbed.tallied_absorb (attentive_enterPoll kept) events).keys serial
  have passed : serial ∉ (selector.enterPoll.absorb events).selected := by
    rw [mem_selected_iff kept]
    rintro ⟨key, found, hears, -⟩
    exact unheard _ (key?_enterPoll_of_listed found hears.1) hears
  rw [retired.spares passed, absorbed]
  cases waiting : selector.enterPoll.key? serial with
  | none => rfl
  | some key => rw [Option.map_some, told, if_neg (unheard key waiting)]

end Found

/-- Processing the events of a wait reckons them exactly. -/
theorem Processed.reckons {result : Except Fault (List Nat)} (kept : selector.Kept)
    (outcome : Processed answers backend events selector state result later after) :
    ∃ selected, result = .ok selected ∧ selector.Reckons events selected later := by
  cases outcome with
  | found retired consumed =>
      rename_i middle disarmed pending
      have tallied := Absorbed.tallied_absorb (attentive_enterPoll kept) events
      have registry : disarmed.registry = selector.registry := by
        rw [retired.eq_keys]
        exact tallied.registry
      -- A key whose token is that of the pipe is never told of anything.
      have deaf : ∀ serial key, selector.key? serial = some key →
          selector.registry.get? Backend.notifyToken = some serial →
          disarmed.key? serial = some { key with ready := .none } := by
        intro serial key found piped
        have waiting := key?_enterPoll_of_listed found piped
        obtain ⟨other, found', -, own⟩ := kept.listed _ _ piped
        cases found.symm.trans found'
        refine (unheard_of_retired kept retired ?_).trans waiting
        intro key' waiting' hears
        cases waiting.symm.trans waiting'
        exact hears.2 own
      refine ⟨_, rfl, ?_⟩
      constructor
      case order => rw [tallied.selected, funext selector.roused?_enterPoll]
      case nodup => exact (Absorbed.sound_absorb selector.ready_enterPoll events).nodup
      case ready_iff =>
        intro serial
        rw [mem_selected_iff kept]
        constructor
        · rintro ⟨key, found, hears, some_ready⟩
          obtain ⟨armed, present⟩ := heard_of_retired kept retired found hears
          exact ⟨_, present, registry ▸ hears.1, some_ready⟩
        · rintro ⟨key, present, listed, some_ready⟩
          have listed' : selector.registry.get? key.token = some serial := registry ▸ listed
          obtain ⟨before, found, -, own⟩ := kept.listed _ _ listed'
          by_cases piped : key.token = Backend.notifyToken
          · cases present.symm.trans (deaf serial before found (piped ▸ listed'))
            exact absurd rfl some_ready
          · have hears : selector.Hears serial before := ⟨own ▸ listed', own ▸ piped⟩
            obtain ⟨armed, present'⟩ := heard_of_retired kept retired found hears
            cases present.symm.trans present'
            exact ⟨before, found, hears, some_ready⟩
      case heard =>
        intro serial key found hears
        have present := heard_of_retired kept retired found hears
        exact present
      case deaf => exact deaf
      case unlisted =>
        intro serial unlisted
        have same : selector.enterPoll.key? serial = selector.key? serial :=
          (selector.key?_forgetReady serial).trans (if_neg unlisted)
        refine (unheard_of_retired kept retired ?_).trans same
        intro key waiting hears
        exact unlisted (mem_registered_of_get? hears.1)
      case registry => exact registry

/-- The order of the events matters neither for what is ready nor for which keys are given. -/
theorem Reckons.perm {selected selected' : List Nat} {later' : Selector} (kept : selector.Kept)
    (reckons : selector.Reckons events selected later)
    (reckons' : selector.Reckons events' selected' later') (shuffled : events.Perm events') :
    selected.Perm selected' ∧
      ∀ serial, (later.key? serial).map Key.ready = (later'.key? serial).map Key.ready := by
  constructor
  · rw [List.perm_ext_iff_of_nodup reckons.nodup reckons'.nodup]
    intro serial
    rw [reckons.order, reckons'.order, List.mem_eraseDups, List.mem_eraseDups]
    exact (shuffled.filterMap selector.roused?).mem_iff
  · intro serial
    by_cases listed : serial ∈ selector.registered
    · obtain ⟨⟨token, _⟩, entry, rfl⟩ := List.mem_map.mp listed
      have registered := (kept.unique.mem_entries_iff _ _).mp entry
      obtain ⟨key, found, -, rfl⟩ := kept.listed _ _ registered
      by_cases piped : key.token = Backend.notifyToken
      · rw [reckons.deaf _ _ found (piped ▸ registered),
          reckons'.deaf _ _ found (piped ▸ registered)]
      · obtain ⟨armed, present⟩ := reckons.heard _ _ found ⟨registered, piped⟩
        obtain ⟨armed', present'⟩ := reckons'.heard _ _ found ⟨registered, piped⟩
        rw [present, present']
        exact congrArg some (key.gathered_perm shuffled)
    · rw [reckons.unlisted serial listed, reckons'.unlisted serial listed]

end Reckoning

end Selector

end SocketReactor
