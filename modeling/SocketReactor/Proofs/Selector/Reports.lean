import SocketReactor.Proofs.Selector.Actions

/-!
# What polls report

The keys that a poll gives are registered, count, are ready within the interest
that they had before, and wait for a connection no longer once they have
reported one.  As long as no token has repeated, no other key is ready.
-/

namespace SocketReactor.Selector

variable {σ : Type} {answers : Answering σ} {selector later : Selector} {state after : σ}
  {backend : Backend}

/-- Dropping the interest in connections leaves every key as ready as it was, and the key
that it is about, if it has reported a connection, without that interest. -/
theorem Disarmed.calms {serial other : Nat} {key : Key}
    (outcome : Disarmed answers backend selector serial state later after)
    (found : later.key? other = some key) :
    ∃ before, selector.key? other = some before ∧ key.ready = before.ready ∧
      (before.interest.connect = false → key.interest.connect = false) ∧
      (other = serial → before.ready.connect = true → key.interest.connect = false) := by
  cases outcome with
  | kept silent =>
      refine ⟨key, found, rfl, id, ?_⟩
      rintro rfl reported
      rw [silent key found] at reported
      cases reported
  | disarmed present reported sync =>
      rename_i former synced reply
      have unmoved : synced.ready = former.ready ∧ synced.interest.connect = false := by
        rw [sync.eq_armed.1]
        exact ⟨rfl, OpSet.connect_inter_complement _⟩
      rw [key?_setKey] at found
      split at found
      · rename_i same
        cases found
        exact ⟨former, same ▸ present, unmoved.1, fun _ => unmoved.2, fun _ _ => unmoved.2⟩
      · rename_i apart
        exact ⟨key, found, rfl, id, fun same => absurd same apart⟩

theorem DisarmedAll.calms {serials : List Nat} {other : Nat} {key : Key}
    (outcome : DisarmedAll answers backend serials selector state later after)
    (found : later.key? other = some key) :
    ∃ before, selector.key? other = some before ∧ key.ready = before.ready ∧
      (before.interest.connect = false → key.interest.connect = false) ∧
      (other ∈ serials → before.ready.connect = true → key.interest.connect = false) := by
  induction outcome with
  | nil => exact ⟨key, found, rfl, id, fun mem => absurd mem List.not_mem_nil⟩
  | cons first others ih =>
      obtain ⟨between, present, same, calm, retired⟩ := ih found
      obtain ⟨before, present', same', calm', retired'⟩ := first.calms present
      refine ⟨before, present', same.trans same', calm ∘ calm', ?_⟩
      intro mem reported
      rcases List.mem_cons.mp mem with here | there
      · exact calm (retired' here reported)
      · exact retired there (same' ▸ reported)

/-- A key while a poll waits is the key from before, perhaps no longer ready. -/
theorem key_of_enterPoll {serial : Nat} {key : Key}
    (found : selector.enterPoll.key? serial = some key) :
    ∃ before, selector.key? serial = some before ∧ key = { before with ready := key.ready } := by
  have entered : selector.forgetReady.key? serial = some key := found
  rw [key?_forgetReady] at entered
  split at entered
  · obtain ⟨before, present, rfl⟩ := Option.map_eq_some_iff.mp entered
    exact ⟨before, present, rfl⟩
  · exact ⟨key, entered, rfl⟩

structure Reported (selector later : Selector) (serial : Nat) (before key : Key) : Prop where
  former : selector.key? serial = some before
  found : later.key? serial = some key
  registered : later.registry.get? key.token = some serial
  valid : key.valid = true
  ready : key.ready ≠ .none
  /-- It is ready only for what it was interested in when the poll began. -/
  wanted : before.interest.contains key.ready = true
  within : key.validOps.contains before.interest = true
  retired : key.ready.connect = true → key.interest.connect = false

theorem Polled.reports {selected : List Nat} (kept : selector.Kept)
    (outcome : Polled answers selector state (.ok selected) later after) :
    later.isOpen = true ∧ selected.Nodup ∧
      ∀ serial ∈ selected, ∃ before key, Reported selector later serial before key := by
  have rekeyed : Rekeyed (fun _ => False) True selector later := outcome.rekeyed kept
  cases outcome with
  | found isOpen waited retired consumed =>
      rename_i backend events disarmed pending
      have sound := Absorbed.sound_absorb selector.ready_enterPoll events
      refine ⟨?_, sound.nodup, ?_⟩
      · rw [Selector.isOpen, rekeyed.phase, isOpen]
      · intro serial mem
        obtain ⟨token, waiting, ready, listed, entered, valid, nonempty, within, known⟩ :=
          sound.picked serial mem
        obtain ⟨before, present, remains⟩ := key_of_enterPoll entered
        rw [remains] at valid within known
        obtain ⟨own, present', counts, same_token⟩ := kept.listed token serial listed
        cases present.symm.trans present'
        obtain ⟨key, found, retuned⟩ := rekeyed.forth present
        have found' : disarmed.key? serial = some key := found
        obtain ⟨absorbed, known', same, calm, quits⟩ := retired.calms found'
        cases known.symm.trans known'
        refine ⟨before, key, present, found, ?_, retuned.counts.trans counts, ?_, ?_, ?_, ?_⟩
        · rw [rekeyed.registry, retuned.token, same_token]
          exact listed
        · rw [same]
          exact nonempty
        · rw [same]
          exact within
        · rw [retuned.validOps]
          exact (kept.sane serial before present).within
        · intro reported
          exact quits mem (same ▸ reported)

/-- As long as no token has repeated, nothing is ready while a poll waits. -/
theorem ready_of_enterPoll {serial : Nat} {key : Key} (kept : selector.Kept)
    (bound : selector.issued ≤ 2 ^ 64) (found : selector.enterPoll.key? serial = some key) :
    key.ready = .none := by
  by_cases listed : serial ∈ selector.registered
  · exact selector.ready_enterPoll serial listed key found
  · have same : selector.enterPoll.key? serial = selector.key? serial :=
      (selector.key?_forgetReady serial).trans (if_neg listed)
    have present := same.symm.trans found
    refine (kept.sane serial key present).rested ?_
    by_contra valid
    have entry := kept.registered bound serial key present (Bool.eq_true_of_not_eq_false valid)
    exact listed (mem_registered_of_get? entry)

/-- As long as no token has repeated, only the keys that a poll gives are ready after it. -/
theorem Polled.selected_of_ready {result : Except Fault (List Nat)} {serial : Nat} {key : Key}
    (kept : selector.Kept) (bound : selector.issued ≤ 2 ^ 64)
    (outcome : Polled answers selector state result later after)
    (found : later.key? serial = some key) (ready : key.ready ≠ .none) :
    ∃ selected, result = .ok selected ∧ serial ∈ selected := by
  cases outcome with
  | shut shut =>
      have counts : key.valid = true := by
        by_contra invalid
        exact ready ((kept.sane serial key found).rested (Bool.eq_false_iff.mpr invalid))
      have entry := kept.registered bound serial key found counts
      rw [kept.shut shut] at entry
      cases entry
  | failed isOpen waited => exact absurd (ready_of_enterPoll kept bound found) ready
  | found isOpen waited retired consumed =>
      rename_i backend events disarmed pending
      have sound := Absorbed.sound_absorb selector.ready_enterPoll events
      refine ⟨_, rfl, ?_⟩
      by_contra passed
      have found' : disarmed.key? serial = some key := found
      obtain ⟨absorbed, known, same, -⟩ := retired.calms found'
      rw [sound.passed serial passed] at known
      rw [same, ready_of_enterPoll kept bound known] at ready
      exact ready rfl

end SocketReactor.Selector
