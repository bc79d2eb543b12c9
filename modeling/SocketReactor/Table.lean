/-!
# Tables

Finite maps from keys to values. A key has at most one entry; `get?_insert` and
`get?_erase` say what each change does to every key.
-/

namespace SocketReactor

/-- A finite map, the entry set last at its front. -/
structure Table (κ α : Type) where
  entries : List (κ × α)
  deriving DecidableEq, Repr

namespace Table

variable {κ α β : Type} [DecidableEq κ]

def empty : Table κ α := ⟨[]⟩

instance : EmptyCollection (Table κ α) := ⟨empty⟩

instance : Inhabited (Table κ α) := ⟨empty⟩

def get? (table : Table κ α) (key : κ) : Option α :=
  (table.entries.find? fun entry => entry.1 = key).map Prod.snd

def erase (table : Table κ α) (key : κ) : Table κ α :=
  ⟨table.entries.filter fun entry => entry.1 ≠ key⟩

def insert (table : Table κ α) (key : κ) (value : α) : Table κ α :=
  ⟨(key, value) :: (table.erase key).entries⟩

def modify (table : Table κ α) (key : κ) (change : α → α) : Table κ α :=
  ⟨table.entries.map fun entry => if entry.1 = key then (entry.1, change entry.2) else entry⟩

def map (table : Table κ α) (change : α → β) : Table κ β :=
  ⟨table.entries.map fun entry => (entry.1, change entry.2)⟩

def contains (table : Table κ α) (key : κ) : Bool := (table.get? key).isSome

def keys (table : Table κ α) : List κ := table.entries.map Prod.fst

def size (table : Table κ α) : Nat := table.entries.length

/-- A table that gives nothing has no entries. -/
theorem eq_empty_of_get? (table : Table κ α) (absent : ∀ key, table.get? key = none) :
    table = ∅ := by
  obtain ⟨entries⟩ := table
  cases entries with
  | nil => rfl
  | cons entry rest =>
      have first := absent entry.1
      simp [get?] at first

theorem get?_erase (table : Table κ α) (key other : κ) :
    (table.erase key).get? other = if other = key then none else table.get? other := by
  obtain ⟨entries⟩ := table
  simp only [get?, erase]
  induction entries with
  | nil => simp
  | cons entry rest ih =>
      by_cases found : entry.1 = key <;> by_cases same : entry.1 = other <;>
        simp_all

theorem get?_insert (table : Table κ α) (key other : κ) (value : α) :
    (table.insert key value).get? other = if other = key then some value else table.get? other := by
  by_cases same : other = key
  · simp [get?, insert, same]
  · have kept := get?_erase table key other
    simp only [same, if_false, get?, erase] at kept ⊢
    simp only [insert, erase, List.find?_cons, decide_eq_false (fun h : key = other => same h.symm)]
    exact kept

@[simp] theorem get?_insert_self (table : Table κ α) (key : κ) (value : α) :
    (table.insert key value).get? key = some value := by
  simp [get?_insert]

theorem get?_modify (table : Table κ α) (key other : κ) (change : α → α) :
    (table.modify key change).get? other =
      if other = key then (table.get? other).map change else table.get? other := by
  obtain ⟨entries⟩ := table
  simp only [get?, modify]
  induction entries with
  | nil => simp
  | cons entry rest ih =>
      by_cases found : entry.1 = key <;> by_cases same : entry.1 = other <;>
        by_cases changed : other = key <;> simp_all

/-- Changing the values at a list of keys, where changing twice is changing once. -/
theorem get?_foldl_modify (change : α → α) (again : ∀ value, change (change value) = change value)
    (keys : List κ) (table : Table κ α) (key : κ) :
    (keys.foldl (fun changed key => changed.modify key change) table).get? key =
      if key ∈ keys then (table.get? key).map change else table.get? key := by
  induction keys generalizing table with
  | nil => simp
  | cons first rest ih =>
      rw [List.foldl_cons, ih, get?_modify]
      by_cases here : key = first
      · subst here
        by_cases later : key ∈ rest
        · cases table.get? key <;> simp [later, again]
        · simp [later]
      · simp [here]

def Unique (table : Table κ α) : Prop := table.keys.Nodup

omit [DecidableEq κ] in
theorem unique_empty : (∅ : Table κ α).Unique := List.nodup_nil

theorem Unique.erase {table : Table κ α} (unique : table.Unique) (key : κ) :
    (table.erase key).Unique :=
  List.Sublist.nodup (List.Sublist.map _ List.filter_sublist) unique

theorem Unique.insert {table : Table κ α} (unique : table.Unique) (key : κ) (value : α) :
    (table.insert key value).Unique := by
  refine List.nodup_cons.mpr ⟨?_, unique.erase key⟩
  intro found
  obtain ⟨entry, kept, same⟩ := List.mem_map.mp found
  simp only [Table.erase, List.mem_filter] at kept
  simp [same] at kept

/-- In a table without doubles every entry is the one that its key gives. -/
theorem Unique.mem_entries_iff {table : Table κ α} (unique : table.Unique) (key : κ) (value : α) :
    (key, value) ∈ table.entries ↔ table.get? key = some value := by
  obtain ⟨entries⟩ := table
  simp only [Unique, keys] at unique
  simp only [get?]
  induction entries with
  | nil => simp
  | cons entry rest ih =>
      obtain ⟨first, held⟩ := entry
      rw [List.map_cons, List.nodup_cons] at unique
      by_cases here : first = key
      · subst here
        have alone : (first, value) ∉ rest := fun found =>
          unique.1 (List.mem_map.mpr ⟨(first, value), found, rfl⟩)
        simp [alone, eq_comm]
      · have apart : key ≠ first := fun same => here same.symm
        simp [here, apart, ih unique.2]

end Table

end SocketReactor
