import Mathlib.Algebra.Group.Nat.Defs
import SocketReactor.Proofs.Selector.Polls

/-!
# The books of a selector

What a selector keeps to between operations, whatever the host answers: the
registry lists keys that count, under their own tokens, and a key that does not
count is not ready.  That every key that counts is listed, and that a key that
does not count is no longer watched, holds until tokens begin to repeat.
-/

namespace SocketReactor

namespace Key

structure Sane (key : Key) : Prop where
  within : key.validOps.contains key.interest = true
  wanted : key.armed = true → key.interest ≠ .none
  rested : key.valid = false → key.ready = .none

/-- What a key may have become.  Its interest takes connecting in only if that was asked
for, and it is ready for something new only after a poll. -/
structure Becomes (asked polled : Prop) (key later : Key) : Prop where
  token : later.token = key.token
  descriptor : later.descriptor = key.descriptor
  validOps : later.validOps = key.validOps
  valid : later.valid = true → key.valid = true
  connect : later.interest.connect = true → key.interest.connect = true ∨ asked
  ready : later.ready = key.ready ∨ later.ready = .none ∨ polled

/-- What a key may have become that counts as much as before. -/
structure Retuned (asked polled : Prop) (key later : Key) : Prop
    extends Becomes asked polled key later where
  counts : later.valid = key.valid
  sane : key.Sane → later.Sane ∧ (later.valid = false → later.armed = key.armed)

section Changes

variable {asked polled : Prop} {key middle later : Key}

theorem Becomes.refl (key : Key) : Becomes asked polled key key :=
  ⟨rfl, rfl, rfl, id, .inl, .inl rfl⟩

theorem Becomes.trans (first : Becomes asked polled key middle)
    (second : Becomes asked polled middle later) : Becomes asked polled key later where
  token := second.token.trans first.token
  descriptor := second.descriptor.trans first.descriptor
  validOps := second.validOps.trans first.validOps
  valid := first.valid ∘ second.valid
  connect wants := (second.connect wants).elim first.connect .inr
  ready := by
    rcases second.ready with same | empty | polled
    · rw [same]
      exact first.ready
    · exact .inr (.inl empty)
    · exact .inr (.inr polled)

/-- A key that has been let go. -/
theorem Becomes.release (key : Key) (armed : Bool) :
    Becomes asked polled key { key.invalidate with armed := armed } :=
  ⟨rfl, rfl, rfl, nofun, .inl, .inr (.inl rfl)⟩

theorem Retuned.refl (key : Key) : Retuned asked polled key key :=
  ⟨.refl key, rfl, fun sane => ⟨sane, fun _ => rfl⟩⟩

theorem Retuned.trans (first : Retuned asked polled key middle)
    (second : Retuned asked polled middle later) : Retuned asked polled key later where
  toBecomes := first.toBecomes.trans second.toBecomes
  counts := second.counts.trans first.counts
  sane := by
    intro sane
    obtain ⟨sane', armed⟩ := first.sane sane
    obtain ⟨sane'', armed'⟩ := second.sane sane'
    refine ⟨sane'', ?_⟩
    intro invalid
    rw [armed' invalid]
    exact armed (second.counts ▸ invalid)

/-- A key whose interest has been brought to the backend. -/
theorem Retuned.sync {interest : OpSet} {armed : Bool} (valid : key.valid = true)
    (within : key.validOps.contains interest = true) (wanted : armed = true → interest ≠ .none)
    (connect : interest.connect = true → key.interest.connect = true ∨ asked) :
    Retuned asked polled key { key with interest := interest, armed := armed } where
  token := rfl
  descriptor := rfl
  validOps := rfl
  valid := id
  connect := connect
  ready := .inl rfl
  counts := rfl
  sane sane := ⟨⟨within, wanted, sane.rested⟩, fun invalid => by
    rw [show (key.valid = false) from invalid] at valid
    cases valid⟩

end Changes

end Key

namespace Selector

structure Kept (selector : Selector) : Prop where
  unique : selector.registry.Unique
  counted : ∀ serial key, selector.key? serial = some key → serial < selector.issued
  token : ∀ serial key, selector.key? serial = some key → key.token = UInt64.ofNat serial
  sane : ∀ serial key, selector.key? serial = some key → key.Sane
  /-- What is registered counts, and is registered under its own token. -/
  listed : ∀ token serial, selector.registry.get? token = some serial →
    ∃ key, selector.key? serial = some key ∧ key.valid = true ∧ key.token = token
  /-- Nothing is registered with a selector that is not open. -/
  shut : selector.isOpen = false → ∀ token, selector.registry.get? token = none
  /-- As long as no token has repeated, everything that counts is registered. -/
  registered : selector.issued ≤ 2 ^ 64 → ∀ serial key, selector.key? serial = some key →
    key.valid = true → selector.registry.get? key.token = some serial
  /-- As long as no token has repeated, what does not count is not watched. -/
  unwatched : selector.issued ≤ 2 ^ 64 → ∀ serial key, selector.key? serial = some key →
    key.valid = false → key.armed = false

/-- Only keys have changed, none of them in whether it counts. -/
structure Rekeyed (asked : Nat → Prop) (polled : Prop) (selector later : Selector) : Prop where
  phase : later.phase = selector.phase
  registry : later.registry = selector.registry
  issued : later.issued = selector.issued
  keys : ∀ serial, Option.Rel (Key.Retuned (asked serial) polled)
    (selector.key? serial) (later.key? serial)

section Rekeying

variable {asked : Nat → Prop} {polled : Prop} {selector middle later : Selector}
  {serial : Nat} {key : Key}

theorem Rekeyed.forth (rekeyed : Rekeyed asked polled selector later)
    (found : selector.key? serial = some key) :
    ∃ after, later.key? serial = some after ∧ Key.Retuned (asked serial) polled key after := by
  have related := rekeyed.keys serial
  rw [found] at related
  cases known : later.key? serial with
  | none => rw [known] at related; cases related
  | some after =>
      rw [known] at related
      cases related with
      | some retuned => exact ⟨after, rfl, retuned⟩

theorem Rekeyed.back (rekeyed : Rekeyed asked polled selector later)
    (found : later.key? serial = some key) :
    ∃ before, selector.key? serial = some before ∧
      Key.Retuned (asked serial) polled before key := by
  have related := rekeyed.keys serial
  rw [found] at related
  cases known : selector.key? serial with
  | none => rw [known] at related; cases related
  | some before =>
      rw [known] at related
      cases related with
      | some retuned => exact ⟨before, rfl, retuned⟩

theorem Rekeyed.trans (first : Rekeyed asked polled selector middle)
    (second : Rekeyed asked polled middle later) : Rekeyed asked polled selector later where
  phase := second.phase.trans first.phase
  registry := second.registry.trans first.registry
  issued := second.issued.trans first.issued
  keys serial := by
    have one := first.keys serial
    have other := second.keys serial
    generalize selector.key? serial = before at one ⊢
    generalize middle.key? serial = between at one other
    generalize later.key? serial = after at other ⊢
    cases one with
    | none =>
        cases other
        exact .none
    | some retuned =>
        cases other with
        | some retuned' => exact .some (retuned.trans retuned')

theorem rekeyed_setKey (found : selector.key? serial = some key) {after : Key}
    (retuned : Key.Retuned (asked serial) polled key after) :
    Rekeyed asked polled selector (selector.setKey serial after) where
  phase := rfl
  registry := rfl
  issued := rfl
  keys other := by
    rw [key?_setKey]
    by_cases same : other = serial
    · subst same
      rw [if_pos rfl, found]
      exact .some retuned
    · rw [if_neg same]
      cases selector.key? other with
      | none => exact .none
      | some key => exact .some (.refl key)

/-- A change of keys alone leaves the books in order. -/
theorem Kept.rekey (kept : selector.Kept) (rekeyed : Rekeyed asked polled selector later) :
    later.Kept where
  unique := by
    rw [rekeyed.registry]
    exact kept.unique
  counted := by
    intro serial key found
    obtain ⟨before, known, -⟩ := rekeyed.back found
    rw [rekeyed.issued]
    exact kept.counted serial before known
  token := by
    intro serial key found
    obtain ⟨before, known, retuned⟩ := rekeyed.back found
    rw [retuned.token]
    exact kept.token serial before known
  sane := by
    intro serial key found
    obtain ⟨before, known, retuned⟩ := rekeyed.back found
    exact (retuned.sane (kept.sane serial before known)).1
  listed := by
    intro token serial listed
    rw [rekeyed.registry] at listed
    obtain ⟨before, known, valid, same⟩ := kept.listed token serial listed
    obtain ⟨after, found, retuned⟩ := rekeyed.forth known
    exact ⟨after, found, retuned.counts.trans valid, retuned.token.trans same⟩
  shut := by
    unfold isOpen
    rw [rekeyed.phase, rekeyed.registry]
    exact kept.shut
  registered := by
    intro bound serial key found valid
    obtain ⟨before, known, retuned⟩ := rekeyed.back found
    rw [rekeyed.issued] at bound
    rw [rekeyed.registry, retuned.token]
    exact kept.registered bound serial before known (retuned.counts ▸ valid)
  unwatched := by
    intro bound serial key found invalid
    obtain ⟨before, known, retuned⟩ := rekeyed.back found
    rw [rekeyed.issued] at bound
    rw [(retuned.sane (kept.sane serial before known)).2 invalid]
    exact kept.unwatched bound serial before known (retuned.counts ▸ invalid)

end Rekeying

end Selector

end SocketReactor
