import Mathlib.Data.Finset.Erase
import Mathlib.Data.Finset.Insert
import SocketReactor.Proofs.Host.Runs

/-!
# Kernels

The part of a host that descriptors live in: which of them are open, and under
which token and for which events each readiness backend watches which of them.
`Kernel.Allows` leaves every call free to fail.  `Kernel.Answers` says besides
when a change of what a backend watches is refused: adding exactly if the
descriptor is not open or watched already, modifying and deleting exactly if it
is not watched.
-/

namespace SocketReactor

/-- The open descriptors of a host, and what each backend watches. -/
@[ext] structure Kernel where
  opened : Finset Descriptor
  /-- The token and the events under which a backend watches a descriptor. -/
  watch? : Descriptor → Descriptor → Option (UInt64 × UInt32)
  absent_not_mem : Descriptor.absent ∉ opened
  watch_mem : ∀ backend descriptor, watch? backend descriptor ≠ none →
    backend ∈ opened ∧ descriptor ∈ opened

namespace Kernel

variable {kernel after : Kernel} {backend descriptor other : Descriptor}

def Fresh (kernel : Kernel) (descriptor : Descriptor) : Prop :=
  descriptor ∉ kernel.opened ∧ descriptor ≠ .absent

def openFile (kernel : Kernel) (descriptor : Descriptor) : Kernel where
  opened := (insert descriptor kernel.opened).erase .absent
  watch? := kernel.watch?
  absent_not_mem := Finset.notMem_erase _ _
  watch_mem := by
    intro backend watched found
    have known := kernel.watch_mem backend watched found
    have present : ∀ file ∈ kernel.opened,
        file ∈ (insert descriptor kernel.opened).erase .absent := by
      intro file mem
      refine Finset.mem_erase.mpr ⟨?_, Finset.mem_insert_of_mem mem⟩
      rintro rfl
      exact kernel.absent_not_mem mem
    exact ⟨present _ known.1, present _ known.2⟩

def closeFile (kernel : Kernel) (descriptor : Descriptor) : Kernel where
  opened := kernel.opened.erase descriptor
  watch? := fun backend watched =>
    if backend = descriptor ∨ watched = descriptor then none
    else kernel.watch? backend watched
  absent_not_mem := fun mem => kernel.absent_not_mem (Finset.mem_of_mem_erase mem)
  watch_mem := by
    intro backend watched found
    split at found
    · exact absurd rfl found
    · rename_i apart
      have known := kernel.watch_mem backend watched found
      exact ⟨Finset.mem_erase.mpr ⟨fun same => apart (.inl same), known.1⟩,
        Finset.mem_erase.mpr ⟨fun same => apart (.inr same), known.2⟩⟩

def setWatch (kernel : Kernel) (backend descriptor : Descriptor)
    (watch : Option (UInt64 × UInt32)) : Kernel where
  opened := kernel.opened
  watch? := fun holder watched =>
    if holder = backend ∧ watched = descriptor then
      if backend ∈ kernel.opened ∧ descriptor ∈ kernel.opened then watch else none
    else kernel.watch? holder watched
  absent_not_mem := kernel.absent_not_mem
  watch_mem := by
    intro holder watched found
    split at found
    · rename_i same
      obtain ⟨rfl, rfl⟩ := same
      split at found
      · assumption
      · exact absurd rfl found
    · exact kernel.watch_mem holder watched found

/-- The kernel after a change of what a backend watches, unless the change is refused. -/
def change? (kernel : Kernel) (backend : Descriptor) : WatchChange → Option Kernel
  | .add descriptor token events =>
      if backend ∈ kernel.opened ∧ descriptor ∈ kernel.opened ∧
          kernel.watch? backend descriptor = none then
        some (kernel.setWatch backend descriptor (some (token, events)))
      else none
  | .modify descriptor token events =>
      if kernel.watch? backend descriptor = none then none
      else some (kernel.setWatch backend descriptor (some (token, events)))
  | .delete descriptor =>
      if kernel.watch? backend descriptor = none then none
      else some (kernel.setWatch backend descriptor none)

def Opens (kernel : Kernel) : List Descriptor → Kernel → Prop
  | [], after => after = kernel
  | descriptor :: rest, after =>
      kernel.Fresh descriptor ∧ (kernel.openFile descriptor).Opens rest after

/-- What the kernel may answer if every call may fail.  A call that fails changes nothing,
but a descriptor that is closed is gone even if closing it reports a failure. -/
def Allows : Answering Kernel
  | .socket _ _ _, kernel, .ok descriptor, after => kernel.Opens [descriptor] after
  | .accept _, kernel, .ok (descriptor, _), after => kernel.Opens [descriptor] after
  | .openBackend, kernel, .ok descriptor, after => kernel.Opens [descriptor] after
  | .openPipe, kernel, .ok (reader, writer), after => kernel.Opens [reader, writer] after
  | .close descriptor, kernel, _, after => after = kernel.closeFile descriptor
  | .watch backend change, kernel, .ok (), after =>
      kernel.change? backend change = some after
  | _, kernel, _, after => after = kernel

/-- What the kernel may answer if it refuses a change of what a backend watches only for
the descriptor's sake. -/
def Answers : Answering Kernel
  | .watch backend change, kernel, .ok (), after =>
      kernel.change? backend change = some after
  | .watch backend change, kernel, .error _, after =>
      kernel.change? backend change = none ∧ after = kernel
  | call, kernel, reply, after => Allows call kernel reply after

end Kernel

/-- A call that opens and closes nothing and leaves what is watched alone. -/
def Call.IsQuiet : Call → Prop
  | .socket _ _ _ | .accept _ | .close _ | .openBackend | .openPipe | .watch _ _ => False
  | _ => True

def Answering.Quietly {σ : Type} (answers : Answering σ) (state after : σ) : Prop :=
  ∃ (α : Type) (program : Program α) (result : α),
    program.Ensures Call.IsQuiet (fun _ => True) ∧ program.Runs answers state result after

theorem Answering.Quietly.refl {σ : Type} {answers : Answering σ} {state : σ} :
    answers.Quietly state state := ⟨Unit, .done (), (), trivial, rfl, rfl⟩

/-- A program of quiet calls comes to its end by them. -/
theorem Program.Ensures.quietly {σ α : Type} {answers : Answering σ} {post : α → Prop}
    {program : Program α} {result : α} {state after : σ}
    (ensures : program.Ensures Call.IsQuiet post)
    (run : program.Runs answers state result after) :
    answers.Quietly state after ∧ post result :=
  ⟨⟨α, program, result, ensures.mono fun _ _ => trivial, run⟩, ensures.of_runs run⟩

namespace Kernel

variable {kernel after : Kernel} {backend descriptor other : Descriptor}
  {watch : Option (UInt64 × UInt32)}

theorem Fresh.mem_openFile (fresh : kernel.Fresh descriptor) :
    other ∈ (kernel.openFile descriptor).opened ↔
      other = descriptor ∨ other ∈ kernel.opened := by
  simp only [openFile, Finset.mem_erase, Finset.mem_insert]
  constructor
  · exact And.right
  · rintro (rfl | mem)
    · exact ⟨fresh.2, .inl rfl⟩
    · exact ⟨fun same => kernel.absent_not_mem (same ▸ mem), .inr mem⟩

@[simp] theorem watch?_openFile :
    (kernel.openFile descriptor).watch? = kernel.watch? := rfl

@[simp] theorem mem_closeFile :
    other ∈ (kernel.closeFile descriptor).opened ↔
      other ≠ descriptor ∧ other ∈ kernel.opened := Finset.mem_erase

theorem watch?_closeFile (holder watched : Descriptor) :
    (kernel.closeFile descriptor).watch? holder watched =
      if holder = descriptor ∨ watched = descriptor then none
      else kernel.watch? holder watched := rfl

theorem watch?_setWatch_of_ne {holder watched : Descriptor}
    (apart : ¬(holder = backend ∧ watched = descriptor)) :
    (kernel.setWatch backend descriptor watch).watch? holder watched =
      kernel.watch? holder watched := if_neg apart

theorem watch?_setWatch_self (holder_open : backend ∈ kernel.opened)
    (file_open : watch ≠ none → descriptor ∈ kernel.opened) :
    (kernel.setWatch backend descriptor watch).watch? backend descriptor = watch := by
  rw [setWatch]
  simp only [and_self, if_true, holder_open, true_and]
  split
  · rfl
  · rename_i closed
    by_contra different
    exact closed (file_open (fun empty => different empty.symm))

/-- Nothing watches a descriptor that is not open, nor does it watch anything. -/
theorem watch?_eq_none_of_not_mem (closed : descriptor ∉ kernel.opened) :
    kernel.watch? descriptor other = none ∧ kernel.watch? other descriptor = none := by
  constructor
  · by_contra found
    exact closed (kernel.watch_mem _ _ found).1
  · by_contra found
    exact closed (kernel.watch_mem _ _ found).2

/-- Telling a backend what it knows already changes nothing. -/
theorem setWatch_eq_self (same : kernel.watch? backend descriptor = watch) :
    kernel.setWatch backend descriptor watch = kernel := by
  refine Kernel.ext rfl ?_
  funext holder watched
  by_cases here : holder = backend ∧ watched = descriptor
  · obtain ⟨rfl, rfl⟩ := here
    subst same
    rw [setWatch]
    simp only [and_self, if_true]
    split
    · rfl
    · rename_i closed
      by_contra found
      exact closed (kernel.watch_mem _ _ (Ne.symm found))
  · exact watch?_setWatch_of_ne here

/-- Closing a descriptor that has just been opened leaves the kernel as it was. -/
theorem Fresh.closeFile_openFile (fresh : kernel.Fresh descriptor) :
    (kernel.openFile descriptor).closeFile descriptor = kernel := by
  refine Kernel.ext ?_ ?_
  · ext other
    rw [mem_closeFile, fresh.mem_openFile]
    constructor
    · rintro ⟨apart, same | mem⟩
      · exact absurd same apart
      · exact mem
    · intro mem
      exact ⟨fun same => fresh.1 (same ▸ mem), .inr mem⟩
  · funext holder watched
    rw [watch?_closeFile]
    split
    · rename_i same
      obtain rfl | rfl := same
      · exact (watch?_eq_none_of_not_mem fresh.1).1.symm
      · exact (watch?_eq_none_of_not_mem fresh.1).2.symm
    · rfl

/-- A kernel that refuses changes only for the descriptor's sake is one that may refuse. -/
theorem Answers.allows {call : Call} {reply : call.Reply}
    (answered : Answers call kernel reply after) : Allows call kernel reply after := by
  cases call with
  | watch backend change =>
      cases reply with
      | ok value => exact answered
      | error errno => exact answered.2
  | _ => exact answered

theorem Allows.eq_of_isQuiet {call : Call} {reply : call.Reply}
    (answered : Allows call kernel reply after) (quiet : call.IsQuiet) :
    after = kernel := by
  cases call with
  | socket | accept | close | openBackend | openPipe | watch => exact quiet.elim
  | _ => exact answered

/-- Quiet calls leave the kernel alone. -/
theorem eq_of_quietly (quietly : Answering.Quietly Allows kernel after) : after = kernel := by
  obtain ⟨α, program, result, quiet, run⟩ := quietly
  exact quiet.fixes id (fun _ _ _ _ allowed answered => answered.eq_of_isQuiet allowed) run

end Kernel

end SocketReactor
