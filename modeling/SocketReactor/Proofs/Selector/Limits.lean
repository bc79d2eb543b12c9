import Mathlib.Order.Bounds.Basic
import SocketReactor.Proofs.Host.Words
import SocketReactor.Proofs.Selector.Calls

/-!
# How long a poll waits

A poll with a limit waits for the fewest milliseconds that cover it, as far as they fit 32 bits with
a sign: it never ends before its limit for being rounded, never waits forever, and returns at once
only if the limit is nothing.  `Duration.waitMilliseconds?` works the milliseconds out in words of
128 bits, step by step, and has no result if a step overflows.
-/

namespace SocketReactor

namespace Duration

/-- The milliseconds of a wait, worked out in words of 128 bits, unless that overflows, and narrowed
to 32 bits with the sign bit to spare. -/
def waitMilliseconds? (duration : Duration) : Option Nat :=
  (Word.fit? 128 (duration.seconds.toNat * 1000000000)).bind fun whole =>
    (Word.fit? 128 (whole + duration.nanoseconds)).bind fun total =>
      (Word.ceilDiv? 128 total 1000000).bind fun rounded => Word.fit? 31 (min rounded longestWait)

def fewestMilliseconds (duration : Duration) : Nat := (duration.totalNanoseconds + 999999) / 1000000

/-- They are rounded up, and to no more than that. -/
theorem isLeast_fewestMilliseconds (duration : Duration) :
    IsLeast {count : Nat | duration.totalNanoseconds ≤ count * 1000000}
      duration.fewestMilliseconds := by
  constructor
  · simp only [Set.mem_ofPred_eq, fewestMilliseconds]
    omega
  · intro count covers
    simp only [Set.mem_ofPred_eq] at covers
    unfold fewestMilliseconds
    omega

theorem fewestMilliseconds_mono {shorter longer : Duration}
    (within : shorter.totalNanoseconds ≤ longer.totalNanoseconds) :
    shorter.fewestMilliseconds ≤ longer.fewestMilliseconds :=
  shorter.isLeast_fewestMilliseconds.2 (within.trans longer.isLeast_fewestMilliseconds.1)

theorem fewestMilliseconds_eq_zero_iff (duration : Duration) :
    duration.fewestMilliseconds = 0 ↔ duration.seconds = 0 ∧ duration.nanoseconds = 0 := by
  rw [← UInt64.toNat_inj, fewestMilliseconds, totalNanoseconds, UInt64.toNat_zero]
  omega

theorem min_longestWait_lt (duration : Duration) :
    min duration.fewestMilliseconds longestWait < 2 ^ 31 :=
  Nat.lt_of_le_of_lt (Nat.min_le_right _ _) (by decide)

/-- What is handed over stands for the fewest milliseconds, or for the longest wait. -/
theorem toInt_waitMilliseconds (duration : Duration) :
    duration.waitMilliseconds.toInt = (min duration.fewestMilliseconds longestWait : Nat) :=
  Int32.toInt_ofNat_of_lt duration.min_longestWait_lt

theorem waitMilliseconds_eq_zero_iff (duration : Duration) :
    duration.waitMilliseconds = 0 ↔ duration.seconds = 0 ∧ duration.nanoseconds = 0 := by
  rw [← Int32.toInt_inj, toInt_waitMilliseconds, ← fewestMilliseconds_eq_zero_iff]
  change ((min _ 2147483647 : Nat) : Int) = 0 ↔ _
  omega

/-- A number of nanoseconds has 94 bits. -/
theorem totalNanoseconds_lt (duration : Duration) : duration.totalNanoseconds < 2 ^ 94 := by
  have seconds := duration.seconds.toNat_lt
  have below := duration.nanoseconds_lt
  unfold totalNanoseconds
  omega

theorem ceilDiv?_totalNanoseconds (duration : Duration) :
    Word.ceilDiv? 128 duration.totalNanoseconds 1000000 = some duration.fewestMilliseconds := by
  have bound := duration.totalNanoseconds_lt
  unfold Word.ceilDiv? fewestMilliseconds
  split
  · exact congrArg some (by omega)
  · rw [Word.fit?_of_lt (by omega)]
    exact congrArg some (by omega)

/-- There is room for everything that is worked out on the way. -/
theorem waitMilliseconds?_eq (duration : Duration) :
    duration.waitMilliseconds? = some (min duration.fewestMilliseconds longestWait) := by
  have bound := duration.totalNanoseconds_lt
  have room : duration.totalNanoseconds < 2 ^ 128 := by omega
  have whole : Word.fit? 128 (duration.seconds.toNat * 1000000000) =
      some (duration.seconds.toNat * 1000000000) :=
    Word.fit?_of_lt (Nat.lt_of_le_of_lt (Nat.le_add_right _ _) room)
  have total : Word.fit? 128 (duration.seconds.toNat * 1000000000 + duration.nanoseconds) =
      some duration.totalNanoseconds := Word.fit?_of_lt room
  rw [waitMilliseconds?, whole, Option.bind_some, total, Option.bind_some,
    ceilDiv?_totalNanoseconds, Option.bind_some]
  exact Word.fit?_of_lt duration.min_longestWait_lt

end Duration

def Call.WaitsFor (milliseconds : Int32) : Call → Prop
  | .await _ _ handed => handed = milliseconds
  | _ => True

/-- Every wait of a poll is for what its limit comes to. -/
theorem Selector.waitsFor_of_poll (selector : Selector) (limit : Option Duration) :
    (selector.poll limit).Ensures (Call.WaitsFor (Backend.waitMilliseconds limit)) fun _ => True :=
  only_poll limit (fun _ _ => rfl)
    (fun _ => ⟨fun _ => trivial, fun _ => trivial, fun _ => trivial⟩) fun _ => trivial

/-- What is handed over for a duration is the least number of milliseconds that cover it, or the
greatest number of 32 bits with a sign if that is less; it is not negative, is zero for no other
duration than zero, grows with the duration, and is worked out with no step that overflows.  A poll
of an open selector begins with a wait for so many milliseconds, and no wait of a poll is for any
other number. -/
theorem waits_are_rounded_up :
    (∀ duration : Duration,
      (∃ least : Nat, IsLeast {count : Nat | duration.totalNanoseconds ≤ count * 1000000} least ∧
        duration.waitMilliseconds.toInt =
          if least ≤ 2147483647 then (least : Int) else 2147483647) ∧
      0 ≤ duration.waitMilliseconds.toInt ∧
      (duration.waitMilliseconds = 0 ↔ duration.seconds = 0 ∧ duration.nanoseconds = 0) ∧
      (∀ longer : Duration, duration.totalNanoseconds ≤ longer.totalNanoseconds →
        duration.waitMilliseconds.toInt ≤ longer.waitMilliseconds.toInt) ∧
      ∃ number : Nat, duration.waitMilliseconds? = some number ∧
        duration.waitMilliseconds.toInt = number) ∧
    ∀ (selector : Selector) (duration : Duration),
      (selector.poll (some duration)).Ensures (Call.WaitsFor duration.waitMilliseconds)
        (fun _ => True) ∧
      ∀ backend, selector.phase = .opened backend → ∃ capacity next,
        selector.poll (some duration) =
          .ask (.await backend.poll capacity duration.waitMilliseconds) next := by
  constructor
  · intro duration
    have handed := duration.toInt_waitMilliseconds
    refine ⟨⟨_, duration.isLeast_fewestMilliseconds, ?_⟩, ?_, duration.waitMilliseconds_eq_zero_iff,
      ?_, _, duration.waitMilliseconds?_eq, handed⟩
    · rw [handed, Duration.longestWait]
      split <;> omega
    · rw [handed]
      exact Int.natCast_nonneg _
    · intro longer within
      have fewer := Duration.fewestMilliseconds_mono within
      rw [handed, longer.toInt_waitMilliseconds]
      omega
  · intro selector duration
    exact ⟨selector.waitsFor_of_poll (some duration), fun backend isOpen =>
      ⟨_, _, Selector.poll_eq_ask isOpen (some duration)⟩⟩

def Duration.longest : Duration := ⟨18446744073709551615, 999999999, by decide⟩

/-- One nanosecond over the last number of milliseconds but one is waited for as the last, and so
is the longest duration of all. -/
theorem longest_limit_is_cut :
    Duration.totalNanoseconds ⟨2147483, 646000001, by decide⟩ ≤ Duration.longest.totalNanoseconds ∧
    Duration.waitMilliseconds ⟨2147483, 646000001, by decide⟩ = 2147483647 ∧
    Duration.longest.waitMilliseconds = 2147483647 ∧
    (Duration.waitMilliseconds ⟨2147483, 646000001, by decide⟩).toInt ≤
      Duration.longest.waitMilliseconds.toInt ∧
    ∃ capacity next,
      Selector.poll { Selector.new .usual with phase := .opened ⟨⟨3⟩, ⟨4⟩, ⟨5⟩⟩ }
          (some Duration.longest) =
        .ask (.await ⟨3⟩ capacity Duration.longest.waitMilliseconds) next := by
  obtain ⟨rounded, polls⟩ := waits_are_rounded_up
  have within : Duration.totalNanoseconds ⟨2147483, 646000001, by decide⟩ ≤
      Duration.longest.totalNanoseconds := by decide
  obtain ⟨-, -, -, mono, -⟩ := rounded ⟨2147483, 646000001, by decide⟩
  exact ⟨within, by decide, by decide, mono _ within,
    (polls { Selector.new .usual with phase := .opened ⟨⟨3⟩, ⟨4⟩, ⟨5⟩⟩ } .longest).2 _ rfl⟩

end SocketReactor
