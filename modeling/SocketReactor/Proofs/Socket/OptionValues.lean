import Mathlib.Logic.Function.Basic
import Mathlib.Order.Bounds.Basic
import SocketReactor.Proofs.Host.Words
import SocketReactor.Proofs.Host.Yields
import SocketReactor.Socket.Options

/-!
# Values of options and back

Limits on waiting cross to the host as seconds and microseconds with a sign, lingering as a switch
and seconds with a sign.  Every limit and every lingering comes back as it was, and of a span that
the host makes up itself the whole milliseconds are told.  `TimeValue.milliseconds?` works these out
in words of 64 bits, step by step, and has no result if a step overflows.
-/

namespace SocketReactor

namespace TimeValue

/-! ## Spans of time -/

def totalMicroseconds (value : TimeValue) : Int :=
  value.seconds.toInt * 1000000 + value.microseconds.toInt

/-- The whole milliseconds, unless working them out in words of 64 bits overflows. -/
def milliseconds? (value : TimeValue) : Option Nat :=
  (Word.fit? 64 (value.seconds.toUInt64.toNat * 1000)).bind fun whole =>
    Word.fit? 64 (whole + value.microseconds.toUInt64.toNat / 1000)

/-- A span that is not negative, with less than a second in microseconds. -/
structure Normal (value : TimeValue) : Prop where
  seconds_nonneg : 0 ≤ value.seconds.toInt
  microseconds_nonneg : 0 ≤ value.microseconds.toInt
  microseconds_lt : value.microseconds.toInt < 1000000

def HasRoom (value : TimeValue) : Prop :=
  value.seconds.toUInt64.toNat * 1000 + value.microseconds.toUInt64.toNat / 1000 < 2 ^ 64

variable {value other : TimeValue}

/-- The most seconds that have room whatever is added in microseconds. -/
theorem Normal.hasRoom (normal : value.Normal)
    (short : value.seconds.toInt ≤ 18446744073709550) : value.HasRoom := by
  have seconds := toNat_toUInt64 normal.seconds_nonneg
  have microseconds := toNat_toUInt64 normal.microseconds_nonneg
  have below := normal.microseconds_lt
  unfold HasRoom
  omega

/-- What has room is worked out exactly. -/
theorem HasRoom.toNat_milliseconds (room : value.HasRoom) :
    value.milliseconds.toNat =
      value.seconds.toUInt64.toNat * 1000 + value.microseconds.toUInt64.toNat / 1000 := by
  have product : (value.seconds.toUInt64 * 1000).toNat = value.seconds.toUInt64.toNat * 1000 := by
    rw [UInt64.toNat_mul]
    exact Nat.mod_eq_of_lt (Nat.lt_of_le_of_lt (Nat.le_add_right _ _) room)
  have quotient : (value.microseconds.toUInt64 / 1000).toNat =
      value.microseconds.toUInt64.toNat / 1000 := UInt64.toNat_div _ _
  rw [milliseconds, UInt64.toNat_add, product, quotient]
  exact Nat.mod_eq_of_lt room

/-- What has room is worked out without a step that overflows. -/
theorem HasRoom.milliseconds? (room : value.HasRoom) :
    value.milliseconds? = some value.milliseconds.toNat := by
  have product : Word.fit? 64 (value.seconds.toUInt64.toNat * 1000) =
      some (value.seconds.toUInt64.toNat * 1000) :=
    Word.fit?_of_lt (Nat.lt_of_le_of_lt (Nat.le_add_right _ _) room)
  rw [TimeValue.milliseconds?, product, Option.bind_some, room.toNat_milliseconds]
  exact Word.fit?_of_lt room

/-- Of a span the whole milliseconds are told, and the rest is dropped. -/
theorem Normal.isGreatest (normal : value.Normal) (room : value.HasRoom) :
    IsGreatest {count : Nat | (count : Int) * 1000 ≤ value.totalMicroseconds}
      value.milliseconds.toNat := by
  have seconds := toNat_toUInt64 normal.seconds_nonneg
  have microseconds := toNat_toUInt64 normal.microseconds_nonneg
  have exactly := room.toNat_milliseconds
  constructor
  · simp only [Set.mem_ofPred_eq, totalMicroseconds]
    omega
  · intro count within
    simp only [Set.mem_ofPred_eq, totalMicroseconds] at within
    have below := normal.microseconds_lt
    omega

/-- A longer span is told by no fewer milliseconds. -/
theorem Normal.milliseconds_mono (normal : value.Normal) (room : value.HasRoom)
    (normal' : other.Normal) (room' : other.HasRoom)
    (longer : value.totalMicroseconds ≤ other.totalMicroseconds) :
    value.milliseconds ≤ other.milliseconds :=
  UInt64.le_iff_toNat_le.mpr <|
    (normal.isGreatest room).mono (normal'.isGreatest room') fun _ within => within.trans longer

/-! ## Limits on waiting -/

theorem seconds_ofMilliseconds (number : UInt64) :
    (ofMilliseconds number).seconds.toInt = (number.toNat / 1000 : Nat) := by
  have quotient : (number / 1000).toNat = number.toNat / 1000 := UInt64.toNat_div _ _
  have bound := number.toNat_lt
  rw [ofMilliseconds, toInt_toInt64 (by omega), quotient]

theorem microseconds_ofMilliseconds (number : UInt64) :
    (ofMilliseconds number).microseconds.toInt = (number.toNat % 1000 * 1000 : Nat) := by
  have product : (number % 1000 * 1000).toNat = number.toNat % 1000 * 1000 := by
    rw [UInt64.toNat_mul, UInt64.toNat_mod]
    exact Nat.mod_eq_of_lt (by simp; omega)
  rw [ofMilliseconds, toInt_toInt64 (by omega), product]

theorem normal_ofMilliseconds (number : UInt64) : (ofMilliseconds number).Normal where
  seconds_nonneg := by rw [seconds_ofMilliseconds]; omega
  microseconds_nonneg := by rw [microseconds_ofMilliseconds]; omega
  microseconds_lt := by rw [microseconds_ofMilliseconds]; omega

/-- Nothing of a limit is lost on the way to the host. -/
theorem totalMicroseconds_ofMilliseconds (number : UInt64) :
    (ofMilliseconds number).totalMicroseconds = number.toNat * 1000 := by
  rw [totalMicroseconds, seconds_ofMilliseconds, microseconds_ofMilliseconds]
  omega

theorem toNat_ofMilliseconds (number : UInt64) :
    (ofMilliseconds number).seconds.toUInt64.toNat * 1000 +
      (ofMilliseconds number).microseconds.toUInt64.toNat / 1000 = number.toNat := by
  have normal := normal_ofMilliseconds number
  have seconds := toNat_toUInt64 normal.seconds_nonneg
  have microseconds := toNat_toUInt64 normal.microseconds_nonneg
  rw [seconds_ofMilliseconds] at seconds
  rw [microseconds_ofMilliseconds] at microseconds
  omega

theorem hasRoom_ofMilliseconds (number : UInt64) : (ofMilliseconds number).HasRoom := by
  rw [HasRoom, toNat_ofMilliseconds]
  exact number.toNat_lt

/-- A limit comes back as it was. -/
theorem milliseconds_ofMilliseconds (number : UInt64) :
    (ofMilliseconds number).milliseconds = number := by
  rw [← UInt64.toNat_inj, (hasRoom_ofMilliseconds number).toNat_milliseconds,
    toNat_ofMilliseconds]

/-- No limit but zero, which stands for none, is handed over as zero. -/
theorem ofMilliseconds_eq_zero_iff (number : UInt64) :
    ofMilliseconds number = ⟨0, 0⟩ ↔ number = 0 := by
  constructor
  · intro zero
    rw [← milliseconds_ofMilliseconds number, zero]
    rfl
  · rintro rfl
    rfl

end TimeValue

/-! ## Lingering -/

/-- Lingering comes back as it was. -/
theorem LingerValue.seconds?_ofSeconds (seconds : Option UInt32) :
    (ofSeconds seconds).seconds? = seconds := by
  cases seconds with
  | none => rfl
  | some seconds => exact congrArg some seconds.toUInt32_toInt32

/-! ## Writing and reading -/

variable {σ : Type} {answers : Answering σ} {descriptor : Descriptor} {state between after : σ}

/-- What the host has taken of a limit or of lingering it tells as it is. -/
structure Answering.Stores (answers : Answering σ) : Prop where
  time : ∀ {descriptor option value state between reply after},
    answers (.setTimeOption descriptor option value) state (.ok ()) between →
    answers (.timeOption descriptor option) between reply after → reply = .ok value
  linger : ∀ {descriptor value state between reply after},
    answers (.setLingerOption descriptor value) state (.ok ()) between →
    answers (.lingerOption descriptor) between reply after → reply = .ok value

namespace Answering.Stores

/-- A limit that was written is read as it was. -/
theorem timeout (stores : answers.Stores) {option : TimeOption} {milliseconds : UInt64}
    {outcome : Except Fault UInt64}
    (written : ((OptionWrite.timeout option milliseconds).apply descriptor).run.Runs answers state
      (.ok ()) between)
    (read : (descriptor.timeoutOption option).run.Runs answers between outcome after) :
    outcome = .ok milliseconds := by
  have taken := Program.runs_request.mp (Attempt.runs_ofCall_ok.mp written)
  obtain ⟨reply, told, rfl⟩ := Attempt.runs_ofCall_map.mp read
  obtain rfl := stores.time taken (Program.runs_request.mp told)
  exact congrArg Except.ok (TimeValue.milliseconds_ofMilliseconds milliseconds)

/-- Lingering that was written is read as it was. -/
theorem lingering (stores : answers.Stores) {seconds : Option UInt32}
    {outcome : Except Fault (Option UInt32)}
    (written : ((OptionWrite.lingering seconds).apply descriptor).run.Runs answers state (.ok ())
      between)
    (read : descriptor.lingerOption.run.Runs answers between outcome after) :
    outcome = .ok seconds := by
  have taken := Program.runs_request.mp (Attempt.runs_ofCall_ok.mp written)
  obtain ⟨reply, told, rfl⟩ := Attempt.runs_ofCall_map.mp read
  obtain rfl := stores.linger taken (Program.runs_request.mp told)
  exact congrArg Except.ok (LingerValue.seconds?_ofSeconds seconds)

end Answering.Stores

/-- Every limit is handed over as a normal span of its length, which is zero for no other limit
than zero, and comes back as it was with no step that overflows.  Of a normal span of so many
seconds the whole milliseconds are told, again with no step that overflows, and of a longer one no
fewer.  All lingering comes back as it was.  So does a limit or lingering that is written to a host
that stores it, and then read. -/
theorem option_values_come_back :
    (∀ number : UInt64,
      (TimeValue.ofMilliseconds number).Normal ∧
      (TimeValue.ofMilliseconds number).totalMicroseconds = number.toNat * 1000 ∧
      (TimeValue.ofMilliseconds number = ⟨0, 0⟩ ↔ number = 0) ∧
      (TimeValue.ofMilliseconds number).milliseconds? = some number.toNat ∧
      (TimeValue.ofMilliseconds number).milliseconds = number) ∧
    (∀ value : TimeValue, value.Normal → value.seconds.toInt ≤ 18446744073709550 →
      value.milliseconds? = some value.milliseconds.toNat ∧
      IsGreatest {count : Nat | (count : Int) * 1000 ≤ value.totalMicroseconds}
        value.milliseconds.toNat ∧
      ∀ other : TimeValue, other.Normal → other.seconds.toInt ≤ 18446744073709550 →
        value.totalMicroseconds ≤ other.totalMicroseconds →
        value.milliseconds ≤ other.milliseconds) ∧
    (∀ seconds : Option UInt32, (LingerValue.ofSeconds seconds).seconds? = seconds) ∧
    ∀ (σ : Type) (answers : Answering σ), answers.Stores →
      (∀ descriptor option milliseconds state between outcome after,
        ((OptionWrite.timeout option milliseconds).apply descriptor).run.Runs answers state (.ok ())
          between →
        (descriptor.timeoutOption option).run.Runs answers between outcome after →
        outcome = .ok milliseconds) ∧
      ∀ descriptor seconds state between outcome after,
        ((OptionWrite.lingering seconds).apply descriptor).run.Runs answers state (.ok ()) between →
        descriptor.lingerOption.run.Runs answers between outcome after → outcome = .ok seconds := by
  refine ⟨?_, ?_, LingerValue.seconds?_ofSeconds, ?_⟩
  · intro number
    have exactly := TimeValue.milliseconds_ofMilliseconds number
    have worked := (TimeValue.hasRoom_ofMilliseconds number).milliseconds?
    rw [exactly] at worked
    exact ⟨TimeValue.normal_ofMilliseconds number,
      TimeValue.totalMicroseconds_ofMilliseconds number,
      TimeValue.ofMilliseconds_eq_zero_iff number, worked, exactly⟩
  · intro value normal short
    have room := normal.hasRoom short
    refine ⟨room.milliseconds?, normal.isGreatest room, ?_⟩
    intro other normal' short' longer
    exact normal.milliseconds_mono room normal' (normal'.hasRoom short') longer
  · intro σ answers stores
    constructor
    · intro descriptor option milliseconds state between outcome after written read
      exact stores.timeout written read
    · intro descriptor seconds state between outcome after written read
      exact stores.lingering written read

/-- What a host has stored for each descriptor. -/
structure Stored where
  times : Descriptor → TimeOption → TimeValue
  lingering : Descriptor → LingerValue

def storingHost : Program.Machine Stored
  | .setTimeOption descriptor option value, stored =>
      some (.ok (), { stored with
        times := Function.update stored.times descriptor
          (Function.update (stored.times descriptor) option value) })
  | .timeOption descriptor option, stored => some (.ok (stored.times descriptor option), stored)
  | .setLingerOption descriptor value, stored =>
      some (.ok (), { stored with
        lingering := Function.update stored.lingering descriptor value })
  | .lingerOption descriptor, stored => some (.ok (stored.lingering descriptor), stored)
  | _, _ => none

theorem stores_storingHost : (Answering.ofMachine storingHost).Stores where
  time := by
    intro descriptor option value state between reply after taken told
    cases taken
    cases told
    simp
  linger := by
    intro descriptor value state between reply after taken told
    cases taken
    cases told
    simp

def Stored.nothing : Stored := ⟨fun _ _ => ⟨0, 0⟩, fun _ => ⟨0, 0⟩⟩

/-- The longest limit and the longest lingering come back, although the seconds of the lingering
are handed over as a negative number.  The longest span is told whole, and told longer than one
that is shorter by a millisecond. -/
theorem longest_values_come_back :
    (Answering.ofMachine storingHost).Stores ∧
    (⟨18446744073709550, 999999⟩ : TimeValue).Normal ∧
    (⟨18446744073709550, 998999⟩ : TimeValue).Normal ∧
    (⟨18446744073709550, 999999⟩ : TimeValue).milliseconds? = some 18446744073709550999 ∧
    (⟨18446744073709550, 998999⟩ : TimeValue).milliseconds ≤
      (⟨18446744073709550, 999999⟩ : TimeValue).milliseconds ∧
    (LingerValue.ofSeconds (some 4294967295)).seconds = -1 ∧
    ∃ limited lingering : Stored,
      ((OptionWrite.timeout .sendTimeout 18446744073709551615).apply ⟨3⟩).run.run storingHost
        .nothing = some (.ok (), limited) ∧
      (Descriptor.timeoutOption ⟨3⟩ .sendTimeout).run.run storingHost limited =
        some (.ok 18446744073709551615, limited) ∧
      ((OptionWrite.lingering (some 4294967295)).apply ⟨3⟩).run.run storingHost limited =
        some (.ok (), lingering) ∧
      (Descriptor.lingerOption ⟨3⟩).run.run storingHost lingering =
        some (.ok (some 4294967295), lingering) := by
  have longest : (⟨18446744073709550, 999999⟩ : TimeValue).Normal :=
    ⟨by decide, by decide, by decide⟩
  have shorter : (⟨18446744073709550, 998999⟩ : TimeValue).Normal :=
    ⟨by decide, by decide, by decide⟩
  obtain ⟨-, told, -, stored⟩ := option_values_come_back
  obtain ⟨limits, lingers⟩ := stored _ _ stores_storingHost
  obtain ⟨worked, -, -⟩ := told _ longest (by decide)
  obtain ⟨-, -, mono⟩ := told _ shorter (by decide)
  refine ⟨stores_storingHost, longest, shorter, worked, mono _ longest (by decide) (by decide), rfl,
    _, _, rfl, ?_, rfl, ?_⟩
  · have came_back := limits ⟨3⟩ .sendTimeout 18446744073709551615 .nothing _ _ _
      (Program.runs_ofMachine.mpr rfl) (Program.runs_ofMachine.mpr rfl)
    exact came_back ▸ rfl
  · have came_back := lingers ⟨3⟩ (some 4294967295) .nothing _ _ _
      (Program.runs_ofMachine.mpr rfl) (Program.runs_ofMachine.mpr rfl)
    exact came_back ▸ rfl

end SocketReactor
