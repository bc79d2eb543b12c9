/-!
# Sets of operations

The operations that a channel can become ready for, and sets of them. A set has
a number, one bit for each operation, and a text that lists its operations.
-/

namespace SocketReactor

/-- A set of the operations that a channel can become ready for. -/
structure OpSet where
  /-- A connection is queued on a listener. -/
  accept : Bool
  /-- A pending connection has been made or refused. -/
  connect : Bool
  /-- There is something to receive. -/
  read : Bool
  /-- There is room to send. -/
  write : Bool
  deriving DecidableEq, Repr

namespace OpSet

def none : OpSet := ⟨false, false, false, false⟩

def all : OpSet := ⟨true, true, true, true⟩

def accepting : OpSet := { none with accept := true }

def connecting : OpSet := { none with connect := true }

def reading : OpSet := { none with read := true }

def writing : OpSet := { none with write := true }

instance : Inhabited OpSet := ⟨none⟩

def union (first second : OpSet) : OpSet :=
  ⟨first.accept || second.accept, first.connect || second.connect,
    first.read || second.read, first.write || second.write⟩

def inter (first second : OpSet) : OpSet :=
  ⟨first.accept && second.accept, first.connect && second.connect,
    first.read && second.read, first.write && second.write⟩

def complement (set : OpSet) : OpSet := ⟨!set.accept, !set.connect, !set.read, !set.write⟩

instance : Union OpSet := ⟨union⟩

instance : Inter OpSet := ⟨inter⟩

def isEmpty (set : OpSet) : Bool := set = none

def contains (set other : OpSet) : Bool := set ∩ other = other

/-- Whether two sets have an operation in common. -/
def intersects (first second : OpSet) : Bool := !(first ∩ second).isEmpty

def bits (set : OpSet) : UInt32 :=
  (if set.accept then 1 else 0) + (if set.connect then 2 else 0) +
    (if set.read then 4 else 0) + (if set.write then 8 else 0)

/-- The set with a number; bits beyond the four operations do not count. -/
def ofBits (bits : UInt32) : OpSet :=
  ⟨bits.toNat.testBit 0, bits.toNat.testBit 1, bits.toNat.testBit 2, bits.toNat.testBit 3⟩

def names (set : OpSet) : List String :=
  (if set.accept then ["ACCEPT"] else []) ++ (if set.connect then ["CONNECT"] else []) ++
    (if set.read then ["READ"] else []) ++ (if set.write then ["WRITE"] else [])

/-- The names of the operations with bars between them. -/
def text (set : OpSet) : String :=
  if set.isEmpty then "NONE" else " | ".intercalate set.names

/-- A set has every operation of another if it has each that the other has. -/
theorem contains_iff (set other : OpSet) :
    set.contains other = true ↔
      (other.accept = true → set.accept = true) ∧ (other.connect = true → set.connect = true) ∧
        (other.read = true → set.read = true) ∧ (other.write = true → set.write = true) := by
  obtain ⟨accept, connect, read, write⟩ := set
  obtain ⟨accept', connect', read', write'⟩ := other
  cases accept' <;> cases connect' <;> cases read' <;> cases write' <;>
    simp [contains, Inter.inter, inter]

@[simp] theorem isEmpty_iff (set : OpSet) : set.isEmpty = true ↔ set = none := by
  simp [isEmpty]

theorem contains_trans {first second third : OpSet} (larger : first.contains second = true)
    (smaller : second.contains third = true) : first.contains third = true := by
  rw [contains_iff] at *
  exact ⟨larger.1 ∘ smaller.1, larger.2.1 ∘ smaller.2.1, larger.2.2.1 ∘ smaller.2.2.1,
    larger.2.2.2 ∘ smaller.2.2.2⟩

theorem contains_union {set first second : OpSet} (one : set.contains first = true)
    (other : set.contains second = true) : set.contains (first ∪ second) = true := by
  rw [contains_iff] at *
  simp only [Union.union, union, Bool.or_eq_true]
  exact ⟨Or.rec one.1 other.1, Or.rec one.2.1 other.2.1, Or.rec one.2.2.1 other.2.2.1,
    Or.rec one.2.2.2 other.2.2.2⟩

theorem contains_inter (set other : OpSet) : set.contains (set ∩ other) = true := by
  rw [contains_iff]
  simp only [Inter.inter, inter, Bool.and_eq_true]
  exact ⟨And.left, And.left, And.left, And.left⟩

theorem union_ne_none {first second : OpSet} (some : second ≠ none) :
    first ∪ second ≠ none := by
  intro empty
  apply some
  obtain ⟨accept, connect, read, write⟩ := second
  simp only [Union.union, union, none, mk.injEq, Bool.or_eq_false_iff] at empty
  simp [none, empty]

/-- Taking connecting away leaves a set without it. -/
@[simp] theorem connect_inter_complement (set : OpSet) :
    (set ∩ connecting.complement).connect = false := by
  simp [Inter.inter, inter, connecting, complement, none]

end OpSet

end SocketReactor
