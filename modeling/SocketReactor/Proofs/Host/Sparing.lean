import SocketReactor.Proofs.Host.Kernel

/-!
# What a kernel spares

`Kernel.Spares` says that a kernel may have changed, but not where some descriptors
are concerned.  A descriptor that is opened was not in use before, so whoever keeps to
descriptors of its own spares those of everybody else.
-/

namespace SocketReactor.Kernel

variable {kernel between after : Kernel} {used : Descriptor → Prop}
  {backend descriptor : Descriptor} {watch : Option (UInt64 × UInt32)}

/-- The descriptors in use are open, but for those that are none. -/
def Knows (kernel : Kernel) (used : Descriptor → Prop) : Prop :=
  ∀ descriptor, used descriptor → descriptor = .absent ∨ descriptor ∈ kernel.opened

/-- The descriptors in use are as open as before, and each that is a backend watches what it
watched, except that it may have lost some that are not in use. -/
structure Spares (used : Descriptor → Prop) (kernel after : Kernel) : Prop where
  opened : ∀ descriptor, used descriptor →
    (descriptor ∈ after.opened ↔ descriptor ∈ kernel.opened)
  watch : ∀ backend, used backend → ∀ descriptor,
    after.watch? backend descriptor = kernel.watch? backend descriptor ∨
      (¬used descriptor ∧ after.watch? backend descriptor = none)

namespace Spares

theorem refl (kernel : Kernel) : Spares used kernel kernel :=
  ⟨fun _ _ => .rfl, fun _ _ _ => .inl rfl⟩

theorem trans (first : Spares used kernel between) (second : Spares used between after) :
    Spares used kernel after where
  opened descriptor uses :=
    (second.opened descriptor uses).trans (first.opened descriptor uses)
  watch := by
    intro backend uses descriptor
    rcases second.watch backend uses descriptor with same | lost
    · rw [same]
      exact first.watch backend uses descriptor
    · exact .inr lost

theorem knows (spares : Spares used kernel after) (known : kernel.Knows used) :
    after.Knows used := by
  intro descriptor uses
  exact (known descriptor uses).imp_right (spares.opened descriptor uses).mpr

/-- Opening a descriptor disturbs none in use. -/
theorem openFile (known : kernel.Knows used) (fresh : kernel.Fresh descriptor) :
    Spares used kernel (kernel.openFile descriptor) where
  opened := by
    intro other uses
    rw [fresh.mem_openFile]
    constructor
    · rintro (rfl | mem)
      · exact ((known other uses).resolve_left fresh.2)
      · exact mem
    · exact .inr
  watch _ _ _ := .inl rfl

/-- Closing a descriptor disturbs no other. -/
theorem closeFile (unused : ¬used descriptor) :
    Spares used kernel (kernel.closeFile descriptor) where
  opened := by
    intro other uses
    rw [mem_closeFile]
    refine and_iff_right ?_
    rintro rfl
    exact unused uses
  watch := by
    intro backend uses other
    rw [watch?_closeFile]
    split
    · rename_i gone
      rcases gone with rfl | rfl
      · exact absurd uses unused
      · exact .inr ⟨unused, rfl⟩
    · exact .inl rfl

/-- Telling a backend what to watch disturbs no other. -/
theorem setWatch (unused : ¬used backend) :
    Spares used kernel (kernel.setWatch backend descriptor watch) where
  opened _ _ := .rfl
  watch := by
    intro holder uses other
    refine .inl (watch?_setWatch_of_ne ?_)
    rintro ⟨rfl, -⟩
    exact unused uses

/-- Opening descriptors one after the other disturbs none in use, and none of them is. -/
theorem opens {descriptors : List Descriptor} (known : kernel.Knows used)
    (opens : kernel.Opens descriptors after) :
    Spares used kernel after ∧ ∀ descriptor ∈ descriptors, ¬used descriptor := by
  induction descriptors generalizing kernel with
  | nil =>
      obtain rfl := opens
      exact ⟨refl _, fun _ mem => absurd mem List.not_mem_nil⟩
  | cons descriptor rest ih =>
      obtain ⟨fresh, others⟩ := opens
      have first := openFile known fresh
      obtain ⟨second, unused⟩ := ih (first.knows known) others
      refine ⟨first.trans second, List.forall_mem_cons.mpr ⟨?_, unused⟩⟩
      intro uses
      exact (known descriptor uses).elim fresh.2 fresh.1

end Spares

/-- A change of what a backend watches leaves the kernel alone or tells that backend. -/
theorem eq_setWatch_of_answers {change : WatchChange} {reply : Except Errno Unit}
    (answered : Answers (.watch backend change) kernel reply after) :
    after = kernel ∨ ∃ descriptor watch, after = kernel.setWatch backend descriptor watch := by
  cases reply with
  | error errno => exact .inl answered.2
  | ok value =>
      have changed : kernel.change? backend change = some after := answered
      cases change <;> simp only [change?] at changed <;> split at changed <;> cases changed
      all_goals exact .inr ⟨_, _, rfl⟩

/-- A backend is told to watch no longer what it watches. -/
theorem eq_setWatch_of_delete {descriptor : Descriptor} {reply : Except Errno Unit}
    (watched : kernel.watch? backend descriptor ≠ none)
    (answered : Answers (.watch backend (.delete descriptor)) kernel reply after) :
    after = kernel.setWatch backend descriptor none := by
  cases reply with
  | error errno =>
      obtain ⟨refused, -⟩ := answered
      simp [change?, watched] at refused
  | ok value =>
      have changed : kernel.change? backend _ = some after := answered
      simp only [change?, if_neg watched] at changed
      exact (Option.some.inj changed).symm

/-- A backend is told to watch otherwise what it watches. -/
theorem eq_setWatch_of_modify {descriptor : Descriptor} {token : UInt64} {events : UInt32}
    {reply : Except Errno Unit} (watched : kernel.watch? backend descriptor ≠ none)
    (answered : Answers (.watch backend (.modify descriptor token events)) kernel reply after) :
    after = kernel.setWatch backend descriptor (some (token, events)) := by
  cases reply with
  | error errno =>
      obtain ⟨refused, -⟩ := answered
      simp [change?, watched] at refused
  | ok value =>
      have changed : kernel.change? backend _ = some after := answered
      simp only [change?, if_neg watched] at changed
      exact (Option.some.inj changed).symm

/-- Quiet calls leave the kernel alone. -/
theorem eq_of_quiet_answers (quietly : Answering.Quietly Answers kernel after) :
    after = kernel := by
  obtain ⟨α, program, result, quiet, run⟩ := quietly
  exact eq_of_quietly ⟨α, program, result, quiet, run.mono id fun _ _ _ _ => Answers.allows⟩

end SocketReactor.Kernel
