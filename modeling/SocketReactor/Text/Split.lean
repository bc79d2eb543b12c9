/-!
# Splitting text

Text before and after a separator: after the first place where a word stands, or
the last place where a character stands. Joining the two parts around the
separator gives the text again.
-/

namespace SocketReactor.Text

/-- The text before and after the first place where `separator` stands. -/
def splitFirst (separator : List Char) : List Char → Option (List Char × List Char)
  | [] => if separator = [] then some ([], []) else none
  | c :: rest =>
      if separator.isPrefixOf (c :: rest) then some ([], (c :: rest).drop separator.length)
      else (splitFirst separator rest).map fun (front, back) => (c :: front, back)

/-- The text before and after the last place where `separator` stands. -/
def splitLast (separator : Char) (text : List Char) : Option (List Char × List Char) :=
  (splitFirst [separator] text.reverse).map fun (back, front) => (front.reverse, back.reverse)

theorem eq_append_of_splitFirst {separator text front back : List Char}
    (found : splitFirst separator text = some (front, back)) :
    text = front ++ separator ++ back := by
  induction text generalizing front with
  | nil =>
      simp only [splitFirst] at found
      split at found
      · simp_all
      · cases found
  | cons c rest ih =>
      rw [splitFirst] at found
      split at found
      · rename_i starts
        obtain ⟨rfl, rfl⟩ : [] = front ∧ (c :: rest).drop separator.length = back := by
          simpa using found
        obtain ⟨tail, whole⟩ := List.isPrefixOf_iff_prefix.mp starts
        rw [← whole]
        simp
      · obtain ⟨⟨first, last⟩, inner, same⟩ := Option.map_eq_some_iff.mp found
        obtain ⟨rfl, rfl⟩ : c :: first = front ∧ last = back := by simpa using same
        rw [ih inner]
        simp

theorem eq_append_of_splitLast {separator : Char} {text front back : List Char}
    (found : splitLast separator text = some (front, back)) :
    text = front ++ separator :: back := by
  obtain ⟨⟨first, last⟩, inner, same⟩ := Option.map_eq_some_iff.mp found
  obtain ⟨rfl, rfl⟩ : last.reverse = front ∧ first.reverse = back := by simpa using same
  have whole := congrArg List.reverse (eq_append_of_splitFirst inner)
  simpa using whole

theorem not_mem_of_splitFirst {separator : Char} {text front back : List Char}
    (found : splitFirst [separator] text = some (front, back)) : separator ∉ front := by
  induction text generalizing front with
  | nil => cases found
  | cons c rest ih =>
      rw [splitFirst] at found
      split at found
      · cases found
        exact List.not_mem_nil
      · rename_i missed
        obtain ⟨⟨first, last⟩, inner, same⟩ := Option.map_eq_some_iff.mp found
        cases same
        have other : separator ≠ c := by simpa [List.isPrefixOf] using missed
        exact List.not_mem_cons_of_ne_of_not_mem other (ih inner)

theorem not_mem_of_splitLast {separator : Char} {text front back : List Char}
    (found : splitLast separator text = some (front, back)) : separator ∉ back := by
  obtain ⟨⟨first, last⟩, inner, same⟩ := Option.map_eq_some_iff.mp found
  cases same
  simpa using not_mem_of_splitFirst inner

/-- Text without the first character of the separator stays in front. -/
theorem splitFirst_append {first : Char} {others front : List Char} (apart : first ∉ front)
    (text : List Char) :
    splitFirst (first :: others) (front ++ text) =
      (splitFirst (first :: others) text).map fun (before, after) => (front ++ before, after) := by
  induction front with
  | nil => simp
  | cons c rest ih =>
      rw [List.mem_cons, not_or] at apart
      have missed : (first :: others).isPrefixOf (c :: (rest ++ text)) = false := by
        simp [List.isPrefixOf, apart.1]
      rw [List.cons_append, splitFirst, missed, if_neg Bool.false_ne_true, ih apart.2,
        Option.map_map]
      rfl

@[simp] theorem splitFirst_separator {separator : List Char} (some_char : separator ≠ [])
    (text : List Char) : splitFirst separator (separator ++ text) = some ([], text) := by
  obtain ⟨first, others, rfl⟩ := List.exists_cons_of_ne_nil some_char
  have starts : (first :: others).isPrefixOf (first :: (others ++ text)) = true :=
    List.isPrefixOf_iff_prefix.mpr ⟨text, rfl⟩
  rw [List.cons_append, splitFirst, if_pos starts]
  simp

/-- A separator with a character that the text lacks stands nowhere in it. -/
theorem splitFirst_eq_none {separator text : List Char} {c : Char} (member : c ∈ separator)
    (apart : c ∉ text) : splitFirst separator text = none := by
  cases found : splitFirst separator text with
  | none => rfl
  | some parts =>
      rw [eq_append_of_splitFirst found] at apart
      exact absurd (List.mem_append_left _ (List.mem_append_right _ member)) apart

theorem splitLast_append {separator : Char} {back : List Char} (apart : separator ∉ back)
    (front : List Char) :
    splitLast separator (front ++ separator :: back) = some (front, back) := by
  have reversed : (front ++ separator :: back).reverse =
      back.reverse ++ ([separator] ++ front.reverse) := by simp
  rw [splitLast, reversed, splitFirst_append (by simpa using apart),
    splitFirst_separator (List.cons_ne_nil _ _)]
  simp

end SocketReactor.Text
