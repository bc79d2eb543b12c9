import SocketReactor.Address.Literal
import SocketReactor.Proofs.Text.Numerals

/-!
# The grammar of address literals

Dotted and grouped addresses as texts put together from their parts.  Reading
takes exactly the literals of the grammar (`Ipv4.parse?_eq_some_iff`,
`Ipv6.parse?_eq_some_iff`), and what is written for an address is one of them.
-/

namespace SocketReactor

namespace Ipv4

/-- The text is an octet: a decimal numeral without a leading zero. -/
def WritesOctet (text : List Char) (octet : UInt8) : Prop :=
  Numeral.Denotes 10 text octet.toNat ∧ (text.head? = some '0' → text = ['0'])

def Literal (text : List Char) (ip : Ipv4) : Prop :=
  ∃ a b c d, text = ['.'].intercalate [a, b, c, d] ∧
    WritesOctet a ip.a ∧ WritesOctet b ip.b ∧ WritesOctet c ip.c ∧ WritesOctet d ip.d

variable {text : List Char} {octet : UInt8} {ip : Ipv4} {c : Char}

theorem octet?_eq_some_iff : octet? text = some octet ↔ WritesOctet text octet := by
  rw [octet?, Option.ite_none_left_eq_some, WritesOctet, ← Numeral.read?_eq_some_iff (by decide)]
  have canonical : ¬(text.head? = some '0' ∧ text ≠ ['0']) ↔
      (text.head? = some '0' → text = ['0']) := by
    rw [not_and, not_not]
  rw [canonical, and_comm]
  refine and_congr_left fun _ => ?_
  cases Numeral.read? 10 text with
  | none => simp
  | some value =>
      have bound := octet.toNat_lt
      simp only [Option.ite_none_right_eq_some, Option.some.injEq]
      constructor
      · rintro ⟨small, rfl⟩
        rw [UInt8.toNat_ofNat_of_lt' small]
      · rintro rfl
        exact ⟨bound, UInt8.ofNat_toNat⟩

theorem WritesOctet.ne_dot (written : WritesOctet text octet) : '.' ∉ text := fun member =>
  absurd (written.1.isAlphanum (by decide) member) (by decide)

theorem parse?_eq_some_iff : parse? text = some ip ↔ Literal text ip := by
  constructor
  · intro found
    unfold parse? at found
    split at found
    · rename_i a b c d pieces
      split at found
      · rename_i first second third fourth
        cases found
        refine ⟨a, b, c, d, ?_, octet?_eq_some_iff.mp first, octet?_eq_some_iff.mp second,
          octet?_eq_some_iff.mp third, octet?_eq_some_iff.mp fourth⟩
        rw [← pieces, List.intercalate_splitOn]
      · cases found
    · cases found
  · rintro ⟨a, b, c, d, rfl, first, second, third, fourth⟩
    have split : (['.'].intercalate [a, b, c, d]).splitOn '.' = [a, b, c, d] := by
      refine List.splitOn_intercalate '.' ?_ (List.cons_ne_nil _ _)
      simp [first.ne_dot, second.ne_dot, third.ne_dot, fourth.ne_dot]
    simp only [parse?, split, octet?_eq_some_iff.mpr first, octet?_eq_some_iff.mpr second,
      octet?_eq_some_iff.mpr third, octet?_eq_some_iff.mpr fourth]

/-- A literal has only digits and points. -/
theorem Literal.chars_of_mem (literal : Literal text ip) (member : c ∈ text) :
    c.isAlphanum = true ∨ c = '.' := by
  obtain ⟨a, b, c', d, rfl, first, second, third, fourth⟩ := literal
  have digits : ∀ {piece octet}, WritesOctet piece octet → c ∈ piece → c.isAlphanum = true :=
    fun written => written.1.isAlphanum (by decide)
  simp only [List.intercalate, List.intersperse, List.flatten_cons, List.flatten_nil,
    List.append_nil, List.mem_append, List.mem_singleton] at member
  rcases member with one | point | two | point | three | point | four
  · exact .inl (digits first one)
  · exact .inr point
  · exact .inl (digits second two)
  · exact .inr point
  · exact .inl (digits third three)
  · exact .inr point
  · exact .inl (digits fourth four)

theorem Literal.dot_mem (literal : Literal text ip) : '.' ∈ text := by
  obtain ⟨a, b, c, d, rfl, -⟩ := literal
  simp [List.intercalate, List.intersperse]

theorem literal_chars (ip : Ipv4) : Literal ip.chars ip :=
  parse?_eq_some_iff.mp (parse?_chars ip)

end Ipv4

namespace Ipv6

/-- The text is a group: one to four hexadecimal digits. -/
def WritesGroup (text : List Char) (group : UInt16) : Prop :=
  Numeral.Denotes 16 text group.toNat ∧ text.length ≤ 4

/-- The text is groups with colons between them.  With `dotted` the last two may stand as a
dotted literal. -/
inductive Groups (dotted : Bool) : List Char → List UInt16 → Prop where
  | last {text : List Char} {group : UInt16} (written : WritesGroup text group) :
      Groups dotted text [group]
  | dotted {text : List Char} {ip : Ipv4} (allowed : dotted = true)
      (written : Ipv4.Literal text ip) : Groups dotted text (dottedGroups ip)
  | cons {text rest : List Char} {group : UInt16} {groups : List UInt16}
      (written : WritesGroup text group) (others : Groups dotted rest groups) :
      Groups dotted (text ++ ':' :: rest) (group :: groups)

/-- The text is the groups on one side of the two colons, which may be none. -/
inductive Side (dotted : Bool) : List Char → List UInt16 → Prop where
  | blank : Side dotted [] []
  | filled {text : List Char} {groups : List UInt16} (written : Groups dotted text groups) :
      Side dotted text groups

/-- The text is an address: all eight groups, or two colons in the place of one or more groups
that are zero. -/
inductive Literal : List Char → Ipv6 → Prop where
  | full {text : List Char} {ip : Ipv6} (written : Groups true text ip.groups) :
      Literal text ip
  | gap {front back : List Char} {before after : List UInt16} {ip : Ipv6} {zeros : Nat}
      (left : Side false front before) (right : Side true back after) (some_zero : 0 < zeros)
      (groups : ip.groups = before ++ List.replicate zeros 0 ++ after) :
      Literal (front ++ ':' :: ':' :: back) ip

variable {text front back : List Char} {group : UInt16} {groups : List UInt16} {dotted : Bool}
  {ip : Ipv6} {c : Char}

/-! ## Groups -/

theorem group?_eq_some_iff : group? text = some group ↔ WritesGroup text group := by
  rw [group?, Option.ite_none_right_eq_some, WritesGroup, and_comm]
  refine and_congr_left fun short => ?_
  simp only [Option.map_eq_some_iff, Numeral.read?_eq_some_iff (by decide : 16 ≤ 16)]
  constructor
  · rintro ⟨number, denotes, rfl⟩
    have small : number < 2 ^ 16 :=
      (denotes.lt_pow (by decide)).trans_le (Nat.pow_le_pow_right (by decide) short)
    rwa [UInt16.toNat_ofNat_of_lt' small]
  · intro denotes
    exact ⟨group.toNat, denotes, UInt16.ofNat_toNat⟩

theorem WritesGroup.isAlphanum (written : WritesGroup text group) (member : c ∈ text) :
    c.isAlphanum = true :=
  written.1.isAlphanum (by decide) member

theorem WritesGroup.ne_colon (written : WritesGroup text group) : ':' ∉ text := fun member =>
  absurd (written.isAlphanum member) (by decide)

theorem group?_of_dotted {tail : Ipv4} (literal : Ipv4.Literal text tail) : group? text = none := by
  rw [Option.eq_none_iff_forall_ne_some]
  intro group found
  exact absurd ((group?_eq_some_iff.mp found).isAlphanum literal.dot_mem) (by decide)

theorem ne_colon_of_dotted {tail : Ipv4} (literal : Ipv4.Literal text tail) : ':' ∉ text := by
  intro member
  rcases literal.chars_of_mem member with digit | point
  · exact absurd digit (by decide)
  · exact absurd point (by decide)

/-- Groups have only digits, points and colons. -/
theorem Groups.chars_of_mem (written : Groups dotted text groups) (member : c ∈ text) :
    c.isAlphanum = true ∨ c = '.' ∨ c = ':' := by
  induction written with
  | last written => exact .inl (written.isAlphanum member)
  | dotted allowed written => exact (written.chars_of_mem member).imp_right .inl
  | cons written others ih =>
      rcases List.mem_append.mp member with here | later
      · exact .inl (written.isAlphanum here)
      · rcases List.mem_cons.mp later with colon | rest
        · exact .inr (.inr colon)
        · exact ih rest

theorem Groups.head_ne_colon (written : Groups dotted text groups) :
    ∃ first rest, text = first :: rest ∧ first ≠ ':' := by
  have begun : ∀ {text : List Char}, text ≠ [] → ':' ∉ text →
      ∃ first rest, text = first :: rest ∧ first ≠ ':' := by
    intro text some_char apart
    obtain ⟨first, rest, rfl⟩ := List.exists_cons_of_ne_nil some_char
    exact ⟨first, rest, rfl, fun same => apart (same ▸ List.mem_cons_self)⟩
  cases written with
  | last written => exact begun written.1.1 written.ne_colon
  | dotted allowed written =>
      exact begun (List.ne_nil_of_mem written.dot_mem) (ne_colon_of_dotted written)
  | cons written others =>
      obtain ⟨first, rest, rfl, other⟩ := begun written.1.1 written.ne_colon
      exact ⟨first, _, List.cons_append, other⟩

/-- No two colons stand in groups, nor where groups end. -/
theorem Groups.splitFirst_append (written : Groups dotted text groups) (rest : List Char) :
    Text.splitFirst [':', ':'] (text ++ rest) =
      (Text.splitFirst [':', ':'] rest).map fun (before, after) => (text ++ before, after) := by
  induction written with
  | last written => exact Text.splitFirst_append written.ne_colon rest
  | dotted allowed written => exact Text.splitFirst_append (ne_colon_of_dotted written) rest
  | cons written others ih =>
      obtain ⟨first, tail, rfl, other⟩ := others.head_ne_colon
      have missed : [':', ':'].isPrefixOf (':' :: first :: (tail ++ rest)) = false := by
        simp [List.isPrefixOf, other.symm]
      rw [List.append_assoc, Text.splitFirst_append written.ne_colon, List.cons_append,
        List.cons_append, Text.splitFirst, missed, if_neg Bool.false_ne_true,
        ← List.cons_append, ih, Option.map_map, Option.map_map]
      congr 1
      funext parts
      simp

theorem Groups.groups?_splitOn (written : Groups dotted text groups) :
    groups? dotted (text.splitOn ':') = some groups := by
  induction written with
  | last written =>
      rw [List.splitOn_eq_singleton written.ne_colon]
      simp only [groups?, group?_eq_some_iff.mpr written]
  | dotted allowed written =>
      rw [List.splitOn_eq_singleton (ne_colon_of_dotted written)]
      simp only [groups?, group?_of_dotted written, allowed, if_true,
        Ipv4.parse?_eq_some_iff.mpr written, Option.map_some]
  | cons written others ih =>
      rw [List.splitOn_append_cons_self_of_not_mem written.ne_colon]
      rw [groups?, group?_eq_some_iff.mpr written, ih]
      exact List.splitOn_ne_nil ':' _

theorem groups_of_groups? {pieces : List (List Char)} (some_piece : pieces ≠ [])
    (found : groups? dotted pieces = some groups) :
    Groups dotted ([':'].intercalate pieces) groups := by
  induction pieces generalizing groups with
  | nil => exact absurd rfl some_piece
  | cons piece rest ih =>
      cases rest with
      | nil =>
          simp only [groups?] at found
          split at found
          · rename_i group read
            cases found
            simpa using Groups.last (group?_eq_some_iff.mp read)
          · rename_i unread
            rw [Option.ite_none_right_eq_some, Option.map_eq_some_iff] at found
            obtain ⟨allowed, tail, read, rfl⟩ := found
            simpa using Groups.dotted allowed (Ipv4.parse?_eq_some_iff.mp read)
      | cons next others =>
          simp only [groups?] at found
          split at found
          · rename_i group later read more
            cases found
            have written := Groups.cons (group?_eq_some_iff.mp read)
              (ih (List.cons_ne_nil _ _) more)
            simpa [List.intercalate, List.intersperse] using written
          · cases found

theorem groups?_eq_some_iff :
    groups? dotted (text.splitOn ':') = some groups ↔ Groups dotted text groups := by
  constructor
  · intro found
    have written := groups_of_groups? (List.splitOn_ne_nil ':' text) found
    rwa [List.intercalate_splitOn] at written
  · exact Groups.groups?_splitOn

/-! ## Sides -/

theorem side?_eq_some_iff : side? dotted text = some groups ↔ Side dotted text groups := by
  rw [side?]
  constructor
  · intro found
    split at found
    · rename_i empty
      cases found
      rw [empty]
      exact .blank
    · exact .filled (groups?_eq_some_iff.mp found)
  · rintro (_ | written)
    · rfl
    · obtain ⟨first, rest, rfl, -⟩ := written.head_ne_colon
      rw [if_neg (List.cons_ne_nil _ _)]
      exact written.groups?_splitOn

theorem Side.splitFirst_append (left : Side dotted front groups) (back : List Char) :
    Text.splitFirst [':', ':'] (front ++ ':' :: ':' :: back) = some (front, back) := by
  have here : Text.splitFirst [':', ':'] (':' :: ':' :: back) = some ([], back) :=
    Text.splitFirst_separator (List.cons_ne_nil _ _) back
  cases left with
  | blank => exact here
  | filled written =>
      rw [written.splitFirst_append, here]
      simp

theorem Side.chars_of_mem (side : Side dotted text groups) (member : c ∈ text) :
    c.isAlphanum = true ∨ c = '.' ∨ c = ':' := by
  cases side with
  | blank => cases member
  | filled written => exact written.chars_of_mem member

/-! ## Addresses -/

theorem ofGroups?_eq_some_iff : ofGroups? groups = some ip ↔ ip.groups = groups := by
  constructor
  · intro found
    unfold ofGroups? at found
    split at found
    · cases found
      rfl
    · cases found
  · rintro rfl
    exact ofGroups?_groups ip

theorem length_groups (ip : Ipv6) : ip.groups.length = 8 := rfl

theorem literal_of_parse? (found : parse? text = some ip) : Literal text ip := by
  unfold parse? at found
  split at found
  · obtain ⟨groups, read, whole⟩ := Option.bind_eq_some_iff.mp found
    rw [ofGroups?_eq_some_iff] at whole
    exact .full (whole ▸ groups?_eq_some_iff.mp read)
  · rename_i front back cut
    split at found
    · rename_i before after left right
      rw [Option.ite_none_right_eq_some, ofGroups?_eq_some_iff] at found
      have whole := Text.eq_append_of_splitFirst cut
      rw [whole, List.append_assoc]
      exact .gap (side?_eq_some_iff.mp left) (side?_eq_some_iff.mp right) (by omega) found.2
    · cases found

theorem Literal.parse? (literal : Literal text ip) : Ipv6.parse? text = some ip := by
  cases literal with
  | full written =>
      have uncut := written.splitFirst_append []
      rw [List.append_nil] at uncut
      have none_left : Text.splitFirst [':', ':'] [] = none := rfl
      rw [none_left, Option.map_none] at uncut
      simp only [Ipv6.parse?, uncut, written.groups?_splitOn, Option.bind_some,
        ofGroups?_groups]
  | @gap front back before after _ zeros left right some_zero groups =>
      have length := congrArg List.length groups
      simp only [length_groups, List.length_append, List.length_replicate] at length
      have few : before.length + after.length < 8 := by omega
      have rest : 8 - (before.length + after.length) = zeros := by omega
      simp only [Ipv6.parse?, left.splitFirst_append, side?_eq_some_iff.mpr left,
        side?_eq_some_iff.mpr right, if_pos few, rest]
      exact ofGroups?_eq_some_iff.mpr groups

theorem parse?_eq_some_iff : Ipv6.parse? text = some ip ↔ Literal text ip :=
  ⟨literal_of_parse?, Literal.parse?⟩

/-- A literal has only digits, points and colons. -/
theorem Literal.chars_of_mem (literal : Literal text ip) (member : c ∈ text) :
    c.isAlphanum = true ∨ c = '.' ∨ c = ':' := by
  cases literal with
  | full written => exact written.chars_of_mem member
  | gap left right some_zero groups =>
      rcases List.mem_append.mp member with front | colons
      · exact left.chars_of_mem front
      · rcases List.mem_cons.mp colons with colon | colons
        · exact .inr (.inr colon)
        · rcases List.mem_cons.mp colons with colon | back
          · exact .inr (.inr colon)
          · exact right.chars_of_mem back

theorem Groups.length_le (written : Groups dotted text groups) :
    groups.length ≤ text.count ':' + 2 := by
  induction written with
  | last written => exact Nat.le_add_left 1 _
  | dotted allowed written => exact Nat.le_add_left 2 _
  | cons written others ih =>
      rw [List.length_cons, List.count_append, List.count_cons_self]
      omega

/-- A literal has at least two colons. -/
theorem Literal.two_le_count (literal : Literal text ip) : 2 ≤ text.count ':' := by
  cases literal with
  | full written =>
      have enough := written.length_le
      rw [length_groups] at enough
      omega
  | gap left right some_zero groups =>
      rw [List.count_append, List.count_cons_self, List.count_cons_self]
      omega

/-! ## What is written -/

theorem writesGroup_toDigits (group : UInt16) :
    WritesGroup (Nat.toDigits 16 group.toNat) group :=
  ⟨Numeral.denotes_toDigits (by decide) (by decide) group.toNat,
    Nat.toDigits_length 16 group.toNat 4 (by decide) group.toNat_lt⟩

theorem groups_joined (some_group : groups ≠ []) : Groups dotted (joined groups) groups := by
  induction groups with
  | nil => exact absurd rfl some_group
  | cons group rest ih =>
      cases rest with
      | nil => simpa [joined] using Groups.last (writesGroup_toDigits group)
      | cons next others =>
          have written := Groups.cons (writesGroup_toDigits group) (ih (List.cons_ne_nil _ _))
          simpa [joined, List.intercalate, List.intersperse] using written

theorem side_joined (groups : List UInt16) : Side dotted (joined groups) groups := by
  by_cases some_group : groups = []
  · rw [some_group]
    exact .blank
  · exact .filled (groups_joined some_group)

/-- Around the zero groups that follow a position stand all the others. -/
theorem eq_around_zeros (groups : List UInt16) (start : Nat) :
    groups = groups.take start ++ List.replicate (zerosFrom groups start) 0 ++
      groups.drop (start + zerosFrom groups start) := by
  have zeros : (groups.drop start).takeWhile (fun group => group = 0) =
      List.replicate (zerosFrom groups start) 0 := by
    rw [List.eq_replicate_iff]
    refine ⟨rfl, ?_⟩
    intro group member
    simpa using List.all_eq_true.mp List.all_takeWhile group member
  have others : (groups.drop start).dropWhile (fun group => group = 0) =
      groups.drop (start + zerosFrom groups start) := by
    rw [← List.drop_drop]
    conv_rhs => rw [← List.takeWhile_append_dropWhile (p := fun group => group = 0)
      (l := groups.drop start)]
    exact List.drop_left.symm
  rw [← zeros, ← others, List.append_assoc, List.takeWhile_append_dropWhile,
    List.take_append_drop]

/-- Two colons may stand in the place of the zero groups that follow a position. -/
theorem literal_of_gap {start : Nat} (same : ip.groups = groups)
    (some_zero : 0 < zerosFrom groups start) :
    Literal (joined (groups.take start) ++ [':', ':'] ++
      joined (groups.drop (start + zerosFrom groups start))) ip := by
  rw [List.append_assoc]
  exact .gap (side_joined _) (side_joined _) some_zero (same.trans (eq_around_zeros groups start))

/-- A mapped address is five zero groups, one of ones, and the two of its IPv4 address. -/
theorem groups_of_mapped? {tail : Ipv4} (found : ip.mapped? = some tail) :
    ip.groups = [] ++ List.replicate 5 0 ++ 0xffff :: dottedGroups tail := by
  rw [mapped?, Option.ite_none_right_eq_some] at found
  obtain ⟨marked, same⟩ := found
  cases same
  rw [← List.take_append_drop 6 ip.groups, marked]
  simp [groups, dottedGroups, Octets.word16_high_low]

/-- What is written for an address is a literal of it. -/
theorem literal_chars (ip : Ipv6) : Literal ip.chars ip := by
  rw [chars]
  cases isMapped : ip.mapped? with
  | some tail =>
      have digits : Nat.toDigits 16 (0xffff : UInt16).toNat = ['f', 'f', 'f', 'f'] := by decide
      have ones : WritesGroup ['f', 'f', 'f', 'f'] 0xffff := digits ▸ writesGroup_toDigits 0xffff
      have right : Side true (['f', 'f', 'f', 'f'] ++ ':' :: tail.chars)
          (0xffff :: dottedGroups tail) :=
        .filled (.cons ones (.dotted rfl tail.literal_chars))
      have marked : "::ffff:".toList = [':', ':', 'f', 'f', 'f', 'f', ':'] := by decide
      dsimp only
      rw [marked]
      exact .gap .blank right (by decide) (groups_of_mapped? isMapped)
  | none =>
      dsimp only
      split
      · rename_i long
        exact literal_of_gap rfl (Nat.zero_lt_of_lt long)
      · exact .full (groups_joined (List.cons_ne_nil _ _))

end Ipv6

end SocketReactor
