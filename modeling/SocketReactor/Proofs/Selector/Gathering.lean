import SocketReactor.Proofs.Selector.Outcomes

/-!
# What events make a key ready for

`Key.gathered` says what a list of events makes a key ready for, with no regard
to how they are taken in: by the interest of the key, and by whether one of the
events under its token tells of reading and one of writing.
-/

namespace SocketReactor

namespace ReadyEvent

/-- Whether an event tells of something to read, of an end or of an error. -/
def reads (event : ReadyEvent) : Bool :=
  event.events &&& (inputEvent ||| readHangUpEvent ||| errorEvent ||| hangUpEvent) ≠ 0

def writes (event : ReadyEvent) : Bool :=
  event.events &&& (outputEvent ||| errorEvent ||| hangUpEvent) ≠ 0

theorem ne_zero_or {bits first second : UInt32} :
    bits &&& (first ||| second) ≠ 0 ↔ bits &&& first ≠ 0 ∨ bits &&& second ≠ 0 := by
  have split : bits &&& (first ||| second) = bits &&& first ||| bits &&& second :=
    UInt32.toBitVec_inj.mp BitVec.and_or_distrib_left
  rw [split, Ne, UInt32.or_eq_zero_iff, Decidable.not_and_iff_not_or_not]

/-- Bits that are watched for some directions tell of one of them. -/
theorem tells_of_watched (event : ReadyEvent) {directions : Directions}
    (watched : event.events &&& directions.events ≠ 0) :
    (event.readable = true ∧ directions.readable = true) ∨
      (event.writable = true ∧ directions.writable = true) := by
  rw [Directions.events, ne_zero_or] at watched
  rcases watched with reads | writes
  · split at reads
    · exact .inl ⟨decide_eq_true reads, ‹_›⟩
    · exact absurd UInt32.and_zero reads
  · split at writes
    · exact .inr ⟨decide_eq_true writes, ‹_›⟩
    · exact absurd UInt32.and_zero writes

theorem reads_eq (event : ReadyEvent) : event.reads = (event.readable || event.failed) := by
  rw [Bool.eq_iff_iff, Bool.or_eq_true]
  simp only [reads, readable, failed, decide_eq_true_eq, ne_zero_or, or_assoc]

theorem writes_eq (event : ReadyEvent) : event.writes = (event.writable || event.failed) := by
  rw [Bool.eq_iff_iff, Bool.or_eq_true]
  simp only [writes, writable, failed, decide_eq_true_eq, ne_zero_or, or_assoc]

end ReadyEvent

namespace OpSet

/-- What an interest has a key become ready for: reading and accepting once there is
something to read, and once there is room to write a pending connection alone, or writing
where no connection is waited for. -/
def roused (interest : OpSet) (reads writes : Bool) : OpSet :=
  (if reads then interest ∩ (.reading ∪ .accepting) else .none) ∪
    (if writes && interest.connect then .connecting else .none) ∪
    (if writes && !interest.connect then interest ∩ .writing else .none)

@[simp] theorem union_none (set : OpSet) : set ∪ none = set := by
  obtain ⟨accept, connect, read, write⟩ := set
  simp [Union.union, union, none]

@[simp] theorem none_union (set : OpSet) : none ∪ set = set := by
  obtain ⟨accept, connect, read, write⟩ := set
  simp [Union.union, union, none]

theorem union_ne_none_iff {first second : OpSet} :
    first ∪ second ≠ none ↔ first ≠ none ∨ second ≠ none := by
  constructor
  · intro some
    by_cases empty : first = none
    · rw [empty, none_union] at some
      exact .inr some
    · exact .inl empty
  · rintro (some | some) empty
    · obtain ⟨accept, connect, read, write⟩ := first
      simp only [Union.union, union, none, mk.injEq, Bool.or_eq_false_iff] at empty
      simp [none, empty] at some
    · exact union_ne_none some empty

@[simp] theorem roused_false (interest : OpSet) : interest.roused false false = none := rfl

/-- What several events rouse is what each of them rouses. -/
theorem roused_or (interest : OpSet) (reads writes reads' writes' : Bool) :
    interest.roused (reads || reads') (writes || writes') =
      interest.roused reads writes ∪ interest.roused reads' writes' := by
  obtain ⟨accept, connect, read, write⟩ := interest
  cases reads <;> cases writes <;> cases reads' <;> cases writes' <;> cases connect <;>
    simp [roused, Union.union, union, Inter.inter, inter, none, reading, accepting,
      connecting, writing]

/-- An interest has a key become ready just when one of the directions is told of in which
it has a descriptor watched. -/
theorem roused_ne_none_iff {interest : OpSet} {reads writes : Bool} :
    interest.roused reads writes ≠ none ↔
      (reads = true ∧ (Directions.ofOps interest).readable = true) ∨
        (writes = true ∧ (Directions.ofOps interest).writable = true) := by
  obtain ⟨accept, connect, read, write⟩ := interest
  cases reads <;> cases writes <;> cases accept <;> cases connect <;> cases read <;>
    cases write <;> decide

end OpSet

namespace Key

def gathered (key : Key) (events : List ReadyEvent) : OpSet :=
  let told := events.filter fun event => event.token = key.token
  key.interest.roused (told.any ReadyEvent.reads) (told.any ReadyEvent.writes)

@[simp] theorem gathered_nil (key : Key) : key.gathered [] = .none := rfl

theorem gathered_append (key : Key) (past events : List ReadyEvent) :
    key.gathered (past ++ events) = key.gathered past ∪ key.gathered events := by
  simp only [gathered, List.filter_append, List.any_append, OpSet.roused_or]

theorem gathered_singleton {key : Key} {event : ReadyEvent} (own : event.token = key.token) :
    key.gathered [event] = key.interest.roused event.reads event.writes := by
  simp [gathered, own]

/-- One event under the token of a key makes it ready as a poll has it. -/
theorem gathered_of_own {key : Key} {event : ReadyEvent} (own : event.token = key.token) :
    key.gathered [event] = key.readiness event := by
  rw [gathered_singleton own, ReadyEvent.reads_eq, ReadyEvent.writes_eq]
  simp only [OpSet.roused, readiness]
  cases event.readable || event.failed <;> cases event.writable || event.failed <;>
    cases key.interest.connect <;> simp

/-- Events under other tokens do not concern a key. -/
theorem gathered_of_foreign {key : Key} {event : ReadyEvent}
    (foreign : event.token ≠ key.token) : key.gathered [event] = .none := by
  simp [gathered, foreign]

/-- A list of events rouses a key just when one of them does. -/
theorem gathered_ne_none_iff {key : Key} {events : List ReadyEvent} :
    key.gathered events ≠ .none ↔ ∃ event ∈ events, key.gathered [event] ≠ .none := by
  induction events with
  | nil => simp
  | cons event rest ih =>
      rw [show event :: rest = [event] ++ rest from rfl, gathered_append,
        OpSet.union_ne_none_iff, ih]
      simp

theorem gathered_perm (key : Key) {events events' : List ReadyEvent}
    (shuffled : events.Perm events') : key.gathered events = key.gathered events' := by
  have told := shuffled.filter fun event => event.token = key.token
  simp only [gathered, told.any_eq]

/-- An event within the bits that are watched for a key, an error or an end makes the key
ready for something. -/
theorem gathered_ne_none_of_within {key : Key} {event : ReadyEvent}
    (own : event.token = key.token) (wanted : key.interest ≠ .none)
    (some_bits : event.events ≠ 0)
    (within : event.events &&&
      ((Directions.ofOps key.interest).events ||| errorEvent ||| hangUpEvent) = event.events) :
    key.gathered [event] ≠ .none := by
  rw [gathered_singleton own, OpSet.roused_ne_none_iff, ReadyEvent.reads_eq,
    ReadyEvent.writes_eq, Bool.or_eq_true, Bool.or_eq_true]
  rw [← within, ReadyEvent.ne_zero_or, ReadyEvent.ne_zero_or, or_assoc] at some_bits
  rcases some_bits with watched | failed
  · rcases event.tells_of_watched watched with ⟨tells, reads⟩ | ⟨tells, writes⟩
    · exact .inl ⟨.inl tells, reads⟩
    · exact .inr ⟨.inl tells, writes⟩
  · -- An error concerns both directions, and the key has at least one of them watched.
    have failed : event.failed = true := decide_eq_true (ReadyEvent.ne_zero_or.mpr failed)
    have watches := mt (Directions.isEmpty_ofOps key.interest).mp wanted
    cases reads : (Directions.ofOps key.interest).readable with
    | true => exact .inl ⟨.inr failed, rfl⟩
    | false =>
        refine .inr ⟨.inr failed, ?_⟩
        simpa [Directions.isEmpty, reads] using watches

end Key

end SocketReactor
