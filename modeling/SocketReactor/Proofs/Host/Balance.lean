import Mathlib.Logic.Function.Basic
import SocketReactor.Proofs.Host.Custody

/-!
# Ledgers in balance

The descriptors that are open according to a log are those that somebody holds, and each has
one holder.  A step in which some of the holders act leaves what the others hold as it is.
-/

namespace SocketReactor

namespace Log

variable {ι : Type} {base : Descriptor → Prop} {held? other? : ι → Option Descriptor}
  {log after : Log} {hand : List Hold} {post : List Hold → Prop} {group : ι → Prop}

structure Balanced (base : Descriptor → Prop) (held? : ι → Option Descriptor) (log : Log) :
    Prop where
  sane : log.Sane base
  held : ∀ descriptor, descriptor ∈ log.opened ↔ ∃ holder, held? holder = some descriptor
  apart : ∀ holder other descriptor, held? holder = some descriptor →
    held? other = some descriptor → holder = other

/-- In hand is what a group of holders has, once each. -/
structure Grouped (held? : ι → Option Descriptor) (group : ι → Prop) (hand : List Hold) :
    Prop where
  mem : ∀ descriptor, descriptor ∈ hand.map Hold.descriptor ↔
    ∃ holder, group holder ∧ held? holder = some descriptor
  apart : ∀ holder other descriptor, group holder → group other →
    held? holder = some descriptor → held? other = some descriptor → holder = other

/-- A step leaves this in hand, and what nobody of a group holds is as it was. -/
structure Handed (held? : ι → Option Descriptor) (group : ι → Prop) (last : List Hold)
    (log after : Log) : Prop where
  subset : ∀ hold ∈ last, hold ∈ after.holds
  kept : ∀ holder, ¬group holder → ∀ hold ∈ log.holds, held? holder = some hold.descriptor →
    hold ∈ after.holds

/-- In hand is what one holder has. -/
theorem grouped_single (holder : ι) (fits : hand.map Hold.descriptor = (held? holder).toList) :
    Grouped held? (· = holder) hand where
  mem := by
    intro descriptor
    simp [fits]
  apart := by
    rintro one other descriptor rfl rfl _ _
    rfl

/-- Nobody has anything in hand. -/
theorem grouped_nil (held? : ι → Option Descriptor) : Grouped held? (fun _ => False) [] :=
  ⟨fun descriptor => by simp, nofun⟩

namespace Balanced

/-- Descriptors that are held can be taken in hand. -/
theorem exists_hand (balanced : log.Balanced base held?) {descriptors : List Descriptor}
    (held : ∀ descriptor ∈ descriptors, ∃ holder, held? holder = some descriptor) :
    ∃ hand : List Hold,
      hand.map Hold.descriptor = descriptors ∧ ∀ hold ∈ hand, hold ∈ log.holds := by
  induction descriptors with
  | nil => exact ⟨[], rfl, nofun⟩
  | cons descriptor rest ih =>
      obtain ⟨others, same, subset⟩ := ih fun other mem => held other (List.mem_cons_of_mem _ mem)
      obtain ⟨hold, mem, rfl⟩ := List.mem_map.mp
        ((balanced.held descriptor).mpr (held descriptor List.mem_cons_self))
      refine ⟨hold :: others, congrArg (hold.descriptor :: ·) same, ?_⟩
      intro one inside
      rcases List.mem_cons.mp inside with rfl | inside
      · exact mem
      · exact subset one inside

/-- A group of holders acts. -/
theorem regroup (balanced : log.Balanced base held?) (subset : ∀ hold ∈ hand, hold ∈ log.holds)
    (grouped : Grouped held? group hand)
    (tended : (Log.Answers base).Tended Call.Minds hand post log after)
    (others : ∀ holder, ¬group holder → other? holder = held? holder)
    (ends : ∀ last, post last → Grouped other? group last) :
    ∃ last, post last ∧ after.Balanced base other? ∧ Handed held? group last log after := by
  obtain ⟨last, right, sane, splits⟩ :=
    (splits_of_subset subset balanced.sane).tended balanced.sane tended
  have settled := ends last right
  refine ⟨last, right, ⟨sane, ?_, ?_⟩, ?_, ?_⟩
  · intro descriptor
    constructor
    · intro mem
      obtain ⟨hold, inside, rfl⟩ := List.mem_map.mp mem
      rcases (splits.mem hold).mp inside with ⟨former, apart⟩ | held
      · obtain ⟨holder, has⟩ := (balanced.held _).mp (List.mem_map_of_mem former)
        refine ⟨holder, (others holder fun within => apart ?_).trans has⟩
        exact (grouped.mem _).mpr ⟨holder, within, has⟩
      · obtain ⟨holder, -, has⟩ := (settled.mem _).mp (List.mem_map_of_mem held)
        exact ⟨holder, has⟩
    · rintro ⟨holder, has⟩
      by_cases within : group holder
      · obtain ⟨hold, held, rfl⟩ :=
          List.mem_map.mp ((settled.mem descriptor).mpr ⟨holder, within, has⟩)
        exact List.mem_map_of_mem ((splits.mem hold).mpr (.inr held))
      · rw [others holder within] at has
        obtain ⟨hold, former, rfl⟩ := List.mem_map.mp ((balanced.held descriptor).mpr ⟨holder, has⟩)
        refine List.mem_map_of_mem ((splits.mem hold).mpr (.inl ⟨former, fun inside => ?_⟩))
        obtain ⟨other, within', has'⟩ := (grouped.mem _).mp inside
        exact within (balanced.apart other holder _ has' has ▸ within')
  -- No holder outside of the group has what one inside is left with.
  · have alone : ∀ holder other descriptor, group holder → ¬group other →
        other? holder = some descriptor → other? other ≠ some descriptor := by
      intro holder other descriptor within without has has'
      have inside := (settled.mem descriptor).mpr ⟨holder, within, has⟩
      rw [others other without] at has'
      obtain ⟨hold, former, rfl⟩ := List.mem_map.mp ((balanced.held descriptor).mpr ⟨other, has'⟩)
      refine splits.apart hold ⟨former, fun before => ?_⟩ inside
      obtain ⟨another, within', has''⟩ := (grouped.mem _).mp before
      exact without (balanced.apart another other _ has'' has' ▸ within')
    intro holder other descriptor has has'
    by_cases one : group holder <;> by_cases two : group other
    · exact settled.apart holder other descriptor one two has has'
    · exact absurd has' (alone holder other descriptor one two has)
    · exact absurd has (alone other holder descriptor two one has')
    · rw [others holder one] at has
      rw [others other two] at has'
      exact balanced.apart holder other descriptor has has'
  · exact fun hold held => (splits.mem hold).mpr (.inr held)
  · intro holder without hold former has
    refine (splits.mem hold).mpr (.inl ⟨former, fun inside => ?_⟩)
    obtain ⟨other, within, has'⟩ := (grouped.mem _).mp inside
    exact without (balanced.apart other holder _ has' has ▸ within)

/-- One holder acts. -/
theorem update [DecidableEq ι] (holder : ι) (given : Option Descriptor)
    (balanced : log.Balanced base held?) (subset : ∀ hold ∈ hand, hold ∈ log.holds)
    (fits : hand.map Hold.descriptor = (held? holder).toList)
    (tended : (Log.Answers base).Tended Call.Minds hand post log after)
    (ends : ∀ last, post last → last.map Hold.descriptor = given.toList) :
    ∃ last, post last ∧ after.Balanced base (Function.update held? holder given) ∧
      Handed held? (· = holder) last log after := by
  refine balanced.regroup subset (grouped_single holder fits) tended ?_ ?_
  · exact fun other apart => Function.update_of_ne apart _ _
  · intro last right
    refine grouped_single holder ?_
    rw [Function.update_self]
    exact ends last right

/-- Holders may be renamed. -/
theorem rename {κ : Type} (balanced : log.Balanced base held?) (change : κ ≃ ι) :
    log.Balanced base (held? ∘ change) where
  sane := balanced.sane
  held descriptor := (balanced.held descriptor).trans change.surjective.exists
  apart _ _ descriptor has has' := change.injective (balanced.apart _ _ descriptor has has')

end Balanced

end Log

end SocketReactor
