import SocketReactor.Proofs.Endpoint.Text

/-!
# One text for each address

Many literals may stand for one address.  Reading takes all of them, and writing
gives one, the canonical text: in lower case, without leading zeros, two colons
for the leftmost longest run of at least two zero groups, and a mapped address
dotted.  Here this text is described through what it looks like, not through how
the run is found; `Ipv6.canonical_iff` says that it is what is written, and
`Address.parse_canonicalizes` puts reading and writing together.
-/

namespace SocketReactor

namespace Ipv4

variable {text : List Char} {octet : UInt8} {ip : Ipv4}

theorem WritesOctet.eq_octetChars (written : WritesOctet text octet) :
    text = octetChars octet :=
  (Numeral.plain_iff (by decide) (by decide)).mp
    ⟨written.1, written.2, written.1.not_isUpper (by decide)⟩

/-- A dotted literal is spelled in one way only. -/
theorem literal_iff : Literal text ip ↔ text = ip.chars := by
  constructor
  · rintro ⟨a, b, c, d, rfl, first, second, third, fourth⟩
    rw [first.eq_octetChars, second.eq_octetChars, third.eq_octetChars, fourth.eq_octetChars]
    rfl
  · rintro rfl
    exact ip.literal_chars

end Ipv4

namespace Ipv6

/-- The text is plain numerals of groups with colons between them, and empty for no group. -/
def Joins (text : List Char) (groups : List UInt16) : Prop :=
  ∃ pieces, text = [':'].intercalate pieces ∧
    List.Forall₂ (fun piece group => Numeral.Plain 16 piece group.toNat) pieces groups

/-- Between the groups before and after stand so many zeros, at least two.  Nowhere in the
groups are there more, and nowhere further left as many. -/
structure LongestGap (groups before : List UInt16) (zeros : Nat) (after : List UInt16) : Prop
    where
  whole : groups = before ++ List.replicate zeros 0 ++ after
  two_le : 2 ≤ zeros
  longest : ∀ front count back, groups = front ++ List.replicate count 0 ++ back →
    count ≤ zeros
  leftmost : ∀ front back, groups = front ++ List.replicate zeros 0 ++ back →
    before.length ≤ front.length

/-- The groups are those of a mapped address: five zeros, one of ones, and the two of an IPv4
address. -/
def IsMapped (ip : Ipv6) (tail : Ipv4) : Prop :=
  ip.groups = List.replicate 5 0 ++ 0xffff :: dottedGroups tail

/-- The text is the canonical one: dotted for a mapped address, otherwise with two colons for
the leftmost longest gap, and with all groups if there is no gap. -/
inductive Canonical : List Char → Ipv6 → Prop where
  | mapped {text : List Char} {tail : Ipv4} {ip : Ipv6} (isMapped : ip.IsMapped tail)
      (written : Ipv4.Literal text tail) : Canonical ("::ffff:".toList ++ text) ip
  | gap {front back : List Char} {before after : List UInt16} {zeros : Nat} {ip : Ipv6}
      (unmapped : ∀ tail, ¬ip.IsMapped tail) (gap : LongestGap ip.groups before zeros after)
      (left : Joins front before) (right : Joins back after) :
      Canonical (front ++ ':' :: ':' :: back) ip
  | full {text : List Char} {ip : Ipv6}
      (gapless : ∀ front back, ip.groups ≠ front ++ [0, 0] ++ back)
      (written : Joins text ip.groups) : Canonical text ip

variable {text : List Char} {groups before after before' after' : List UInt16}
  {zeros zeros' start : Nat} {ip : Ipv6} {tail : Ipv4}

/-! ## Plain groups -/

theorem joins_iff : Joins text groups ↔ text = joined groups := by
  have plain : ∀ pieces : List (List Char),
      List.Forall₂ (fun piece group => Numeral.Plain 16 piece group.toNat) pieces groups ↔
        pieces = groups.map fun group => Nat.toDigits 16 group.toNat := by
    intro pieces
    simp only [Numeral.plain_iff (by decide : 1 < 16) (by decide : 16 ≤ 16)]
    rw [← List.forall₂_map_right_iff, List.forall₂_eq_eq_eq]
  simp only [Joins, plain, exists_eq_right]
  rfl

theorem joins_joined (groups : List UInt16) : Joins (joined groups) groups := joins_iff.mpr rfl

/-! ## The gap -/

theorem count_le_zerosFrom {front back : List UInt16} {count : Nat}
    (whole : groups = front ++ List.replicate count 0 ++ back) :
    count ≤ zerosFrom groups front.length := by
  have zeros : ∀ group ∈ List.replicate count (0 : UInt16), decide (group = 0) = true := by
    intro group member
    exact decide_eq_true (List.eq_of_mem_replicate member)
  rw [zerosFrom, whole, List.append_assoc, List.drop_left, List.takeWhile_append_of_pos zeros,
    List.length_append, List.length_replicate]
  exact Nat.le_add_right _ _

/-- The best of the first positions: none of them is followed by more zeros, and none further
left by as many. -/
theorem foldl_best (groups : List UInt16) (count : Nat) :
    let best := (List.range count).foldl
      (fun best start => if zerosFrom groups best < zerosFrom groups start then start else best) 0
    (∀ start < count, zerosFrom groups start ≤ zerosFrom groups best) ∧
    (∀ start < best, zerosFrom groups start < zerosFrom groups best) ∧ best ≤ count := by
  induction count with
  | zero => simp
  | succ count ih =>
      rw [List.range_succ, List.foldl_append]
      obtain ⟨longest, leftmost, inside⟩ := ih
      simp only [List.foldl_cons, List.foldl_nil]
      generalize (List.range count).foldl _ 0 = best at longest leftmost inside
      split
      · rename_i better
        refine ⟨?_, ?_, Nat.le_succ count⟩
        · intro start below
          rcases Nat.lt_succ_iff_lt_or_eq.mp below with earlier | rfl
          · exact (longest start earlier).trans better.le
          · exact le_rfl
        · intro start below
          exact (longest start below).trans_lt better
      · rename_i worse
        refine ⟨?_, leftmost, inside.trans (Nat.le_succ count)⟩
        intro start below
        rcases Nat.lt_succ_iff_lt_or_eq.mp below with earlier | rfl
        · exact longest start earlier
        · exact Nat.le_of_not_lt worse

theorem zerosFrom_le_gapStart (groups : List UInt16) (start : Nat) :
    zerosFrom groups start ≤ zerosFrom groups (gapStart groups) := by
  by_cases inside : start < groups.length
  · exact (foldl_best groups groups.length).1 start inside
  · rw [zerosFrom, List.drop_eq_nil_of_le (Nat.le_of_not_lt inside)]
    exact Nat.zero_le _

theorem zerosFrom_lt_gapStart (left : start < gapStart groups) :
    zerosFrom groups start < zerosFrom groups (gapStart groups) :=
  (foldl_best groups groups.length).2.1 start left

/-- What is found is the leftmost longest gap, if it is a gap. -/
theorem longestGap_gapStart (long : 2 ≤ zerosFrom groups (gapStart groups)) :
    LongestGap groups (groups.take (gapStart groups)) (zerosFrom groups (gapStart groups))
      (groups.drop (gapStart groups + zerosFrom groups (gapStart groups))) where
  whole := eq_around_zeros groups (gapStart groups)
  two_le := long
  longest := fun front _ _ whole =>
    (count_le_zerosFrom whole).trans (zerosFrom_le_gapStart groups front.length)
  leftmost := by
    intro front back whole
    refine (List.length_take_le _ _).trans ?_
    by_contra left
    have fewer := zerosFrom_lt_gapStart (Nat.lt_of_not_le left)
    have many := count_le_zerosFrom whole
    omega

theorem LongestGap.long (gap : LongestGap groups before zeros after) :
    2 ≤ zerosFrom groups (gapStart groups) :=
  gap.two_le.trans <| (count_le_zerosFrom gap.whole).trans <|
    zerosFrom_le_gapStart groups before.length

/-- There is one leftmost longest gap at most. -/
theorem LongestGap.unique (gap : LongestGap groups before zeros after)
    (other : LongestGap groups before' zeros' after') : before = before' ∧ after = after' := by
  obtain rfl : zeros = zeros' :=
    Nat.le_antisymm (other.longest _ _ _ gap.whole) (gap.longest _ _ _ other.whole)
  have length : before.length = before'.length :=
    Nat.le_antisymm (gap.leftmost _ _ other.whole) (other.leftmost _ _ gap.whole)
  have same := gap.whole.symm.trans other.whole
  rw [List.append_assoc, List.append_assoc] at same
  obtain ⟨front, rest⟩ := List.append_inj same length
  exact ⟨front, List.append_cancel_left rest⟩

/-! ## The whole text -/

theorem mapped?_eq_some_iff : ip.mapped? = some tail ↔ ip.IsMapped tail := by
  constructor
  · exact groups_of_mapped?
  · intro isMapped
    have same : (mapped tail).groups = ip.groups := isMapped.symm
    have read := ofGroups?_groups ip
    rw [← same, ofGroups?_groups] at read
    rw [← Option.some.inj read, mapped?_mapped]

theorem mapped?_eq_none (unmapped : ∀ tail, ¬ip.IsMapped tail) : ip.mapped? = none := by
  rw [Option.eq_none_iff_forall_ne_some]
  exact fun tail found => unmapped tail (mapped?_eq_some_iff.mp found)

theorem canonical_chars (ip : Ipv6) : Canonical ip.chars ip := by
  rw [chars]
  cases found : ip.mapped? with
  | some tail =>
      dsimp only
      exact .mapped (mapped?_eq_some_iff.mp found) tail.literal_chars
  | none =>
      dsimp only
      split
      · rename_i long
        have unmapped : ∀ tail, ¬ip.IsMapped tail := by
          intro tail isMapped
          rw [mapped?_eq_some_iff.mpr isMapped] at found
          cases found
        rw [List.append_assoc, List.cons_append, List.cons_append, List.nil_append]
        exact .gap unmapped (longestGap_gapStart long) (joins_joined _) (joins_joined _)
      · rename_i short
        refine .full (fun front back whole => short ?_) (joins_joined _)
        have counted : 2 ≤ zerosFrom _ front.length := count_le_zerosFrom whole
        exact counted.trans (zerosFrom_le_gapStart _ _)

theorem Canonical.eq_chars (canonical : Canonical text ip) : text = ip.chars := by
  cases canonical with
  | mapped isMapped written =>
      rw [chars, mapped?_eq_some_iff.mpr isMapped, Ipv4.literal_iff.mp written]
  | gap unmapped gap left right =>
      obtain ⟨rfl, rfl⟩ := gap.unique (longestGap_gapStart gap.long)
      rw [chars, mapped?_eq_none unmapped, joins_iff.mp left, joins_iff.mp right]
      dsimp only
      rw [if_pos gap.long, List.append_assoc, List.cons_append, List.cons_append,
        List.nil_append]
  | full gapless written =>
      have unmapped : ∀ tail, ¬ip.IsMapped tail := fun tail isMapped =>
        gapless [] ([0, 0, 0] ++ 0xffff :: dottedGroups tail) (isMapped.trans rfl)
      have short : ¬2 ≤ zerosFrom ip.groups (gapStart ip.groups) := by
        intro long
        have whole := eq_around_zeros ip.groups (gapStart ip.groups)
        obtain ⟨more, many⟩ := Nat.exists_eq_add_of_le long
        rw [many, List.replicate_add, ← List.append_assoc, List.append_assoc] at whole
        exact gapless _ _ whole
      rw [chars, mapped?_eq_none unmapped, joins_iff.mp written]
      dsimp only
      rw [if_neg short]

/-- What is written for an address is its canonical text, and no other text is. -/
theorem canonical_iff : Canonical text ip ↔ text = ip.chars :=
  ⟨Canonical.eq_chars, fun same => same ▸ ip.canonical_chars⟩

end Ipv6

namespace Address

def Literal (text : List Char) : Address → Prop
  | v4 ip => Ipv4.Literal text ip
  | v6 ip => Ipv6.Literal text ip

def Canonical (text : List Char) : Address → Prop
  | v4 ip => Ipv4.Literal text ip
  | v6 ip => Ipv6.Canonical text ip

variable {text : String} {address : Address} {family : Family}

theorem parseV4_eq_ok_iff :
    parseV4 text = .ok address ↔ Literal text.toList address ∧ address.family = .inet4 := by
  rw [parseV4]
  cases read : Ipv4.parse? text.toList with
  | none =>
      cases address with
      | v4 ip => simp [Literal, ← Ipv4.parse?_eq_some_iff, read]
      | v6 ip => simp [family]
  | some found =>
      cases address with
      | v4 ip => simp [Literal, ← Ipv4.parse?_eq_some_iff, read, family]
      | v6 ip => simp [family]

theorem parseV6_eq_ok_iff :
    parseV6 text = .ok address ↔ Literal text.toList address ∧ address.family = .inet6 := by
  rw [parseV6]
  cases read : Ipv6.parse? text.toList with
  | none =>
      cases address with
      | v4 ip => simp [family]
      | v6 ip => simp [Literal, ← Ipv6.parse?_eq_some_iff, read]
  | some found =>
      cases address with
      | v4 ip => simp [family]
      | v6 ip => simp [Literal, ← Ipv6.parse?_eq_some_iff, read, family]

/-- Reading takes the literals of either family, and no other text. -/
theorem parse_eq_ok_iff : parse text = .ok address ↔ Literal text.toList address := by
  constructor
  · intro read
    rw [parse] at read
    split at read
    · exact (parseV6_eq_ok_iff.mp read).1
    · exact (parseV4_eq_ok_iff.mp read).1
  · intro literal
    cases address with
    | v4 ip => exact parse_of_literal_v4 literal
    | v6 ip => exact parse_of_literal_v6 literal

/-- What is refused is refused with the text and the family that a colon decides on. -/
theorem fault_of_parse {fault : Fault} (refused : parse text = .error fault) :
    fault = .badAddress text (if ':' ∈ text.toList then "inet6" else "inet4") := by
  unfold parse parseV6 parseV4 at refused
  split at refused
  · rename_i colon
    split at refused
    · cases refused
    · cases refused
      rw [if_pos colon]
      rfl
  · rename_i plain
    split at refused
    · cases refused
    · cases refused
      rw [if_neg plain]
      rfl

theorem parse_of_not_literal (foreign : ∀ address, ¬Literal text.toList address) :
    parse text =
      .error (.badAddress text (if ':' ∈ text.toList then "inet6" else "inet4")) := by
  cases read : parse text with
  | ok address => exact absurd (parse_eq_ok_iff.mp read) (foreign address)
  | error fault => rw [fault_of_parse read]

/-- Nothing is lost when the family is given: a text of one family is read as that family
alone, and never as another. -/
theorem parseFamily_eq_ok_iff :
    parseFamily text family = .ok address ↔ parse text = .ok address ∧ address.family = family := by
  rw [parse_eq_ok_iff]
  cases family with
  | inet4 => exact parseV4_eq_ok_iff
  | inet6 => exact parseV6_eq_ok_iff
  | unix => cases address <;> simp [parseFamily, Address.family]

theorem canonical_iff {chars : List Char} :
    Canonical chars address ↔ chars = address.text.toList := by
  cases address with
  | v4 ip => rw [toList_text_v4]; exact Ipv4.literal_iff
  | v6 ip => rw [toList_text_v6]; exact Ipv6.canonical_iff

/-- Every text is read as the address that it is a literal of, and refused if it is of none.
With a family given, it is read just when it is read without and the family is that one.  What
is written for an address that was read is its canonical text, and no other text is; so two
texts are read as one address just when the same text is written for both. -/
theorem parse_canonicalizes (text : String) :
    (∀ address, parse text = .ok address ↔ Literal text.toList address) ∧
    ((∀ address, ¬Literal text.toList address) → parse text =
      .error (.badAddress text (if ':' ∈ text.toList then "inet6" else "inet4"))) ∧
    (∀ family address, parseFamily text family = .ok address ↔
      parse text = .ok address ∧ address.family = family) ∧
    (∀ address, parse text = .ok address →
      ∀ written : String, Canonical written.toList address ↔ written = address.text) ∧
    ∀ other address address', parse text = .ok address → parse other = .ok address' →
      (address = address' ↔ address.text = address'.text) := by
  refine ⟨fun address => parse_eq_ok_iff, parse_of_not_literal,
    fun family address => parseFamily_eq_ok_iff, ?_, ?_⟩
  · intro address _ written
    rw [canonical_iff, String.toList_inj]
  · intro other address address' _ _
    exact text_injective.eq_iff.symm

/-- The leftmost of two gaps of the same length is left out, whatever literal was read. -/
example : parse "2001:DB8:0:0:1::0.0.0.1" = parse "2001:db8::1:0:0:1" ∧
    parse "2001:db8::1:0:0:1" = .ok (.v6 ⟨0x2001, 0xdb8, 0, 0, 1, 0, 0, 1⟩) := by
  decide +kernel

end Address

end SocketReactor
