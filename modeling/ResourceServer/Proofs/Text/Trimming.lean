import Mathlib.Data.List.Basic
import ResourceServer.Proofs.Text.Numeral
import ResourceServer.Text.Blank

namespace ResourceServer.Text

/-!
# Texts that are trimmed and cut

Trimming does nothing to a text with nothing to drop at either end, and takes
off what was put around such a text. A text is cut at its first separator, so
what stands before may be anything without one.
-/

theorem dropWhile_eq_self
    {drops : Char → Bool}
    {chars : List Char}
    (firstStays : ∀ char, chars.head? = some char → drops char = false) :
    chars.dropWhile drops = chars := by
  cases chars with
  | nil =>
      rfl
  | cons first rest =>
      have stays : drops first = false := firstStays first rfl
      rw [List.dropWhile_cons, stays]
      rfl

theorem trimChars_eq_self
    {drops : Char → Bool}
    {chars : List Char}
    (firstStays : ∀ char, chars.head? = some char → drops char = false)
    (lastStays : ∀ char, chars.getLast? = some char → drops char = false) :
    trimChars drops chars = chars := by
  rw [trimChars, dropWhile_eq_self firstStays, dropWhile_eq_self,
    List.reverse_reverse]
  intro char isFirst
  rw [List.head?_reverse] at isFirst
  exact lastStays char isFirst

/-- Where the first character is dropped, something is missing. -/
theorem firstStays_of_dropWhile
    {drops : Char → Bool}
    {chars : List Char}
    (same : chars.dropWhile drops = chars)
    {char : Char}
    (isFirst : chars.head? = some char) :
    drops char = false := by
  obtain ⟨rest, rfl⟩ := List.head?_eq_some_iff.mp isFirst
  cases isDropped : drops char with
  | false =>
      rfl
  | true =>
      rw [List.dropWhile_cons, if_pos isDropped] at same
      have noLonger : (rest.dropWhile drops).length ≤ rest.length :=
        (List.dropWhile_suffix drops).length_le
      rw [same, List.length_cons] at noLonger
      omega

/-- Just those texts are left alone that have nothing to drop at either end. -/
theorem trimChars_eq_self_iff
    {drops : Char → Bool}
    {chars : List Char} :
    trimChars drops chars = chars ↔
      (∀ char, chars.head? = some char → drops char = false) ∧
        ∀ char, chars.getLast? = some char → drops char = false := by
  refine ⟨?_, fun stays => trimChars_eq_self stays.1 stays.2⟩
  intro same
  have front : chars.dropWhile drops <:+ chars :=
    List.dropWhile_suffix drops
  have back :
      (chars.dropWhile drops).reverse.dropWhile drops <:+
        (chars.dropWhile drops).reverse :=
    List.dropWhile_suffix drops
  have sameLength := congrArg List.length same
  rw [trimChars, List.length_reverse] at sameLength
  -- Neither of the two cuts can have made the text shorter.
  have frontSame : chars.dropWhile drops = chars := by
    have noLonger := back.length_le
    rw [sameLength, List.length_reverse] at noLonger
    exact front.eq_of_length_le noLonger
  rw [frontSame] at back sameLength
  have backSame : chars.reverse.dropWhile drops = chars.reverse :=
    back.eq_of_length (sameLength.trans List.length_reverse.symm)
  refine ⟨fun char => firstStays_of_dropWhile frontSame, ?_⟩
  intro char isLast
  rw [← List.head?_reverse] at isLast
  exact firstStays_of_dropWhile backSame isLast

/-- A mark that is dropped makes no difference around a text. -/
theorem trimChars_around
    {drops : Char → Bool}
    {mark : Char}
    (isDropped : drops mark = true)
    (chars : List Char) :
    trimChars drops (mark :: chars ++ [mark]) = trimChars drops chars := by
  rw [trimChars, trimChars, List.cons_append, List.dropWhile_cons,
    if_pos isDropped, List.dropWhile_append]
  split
  · rename_i allDropped
    rw [List.isEmpty_iff.mp allDropped, List.dropWhile_cons, if_pos isDropped]
    rfl
  · rw [List.reverse_append, List.reverse_singleton, List.singleton_append,
      List.dropWhile_cons, if_pos isDropped]

/-- No blank is a decimal digit. -/
theorem isBlank_of_isDigit
    {char : Char}
    (isDigit : char.isDigit = true) :
    isBlank char = false := by
  have inRange : 48 ≤ char.toNat ∧ char.toNat ≤ 57 := by
    simp only [Char.isDigit, Bool.and_eq_true, decide_eq_true_eq] at isDigit
    exact isDigit
  simp only [isBlank, Bool.or_eq_false_iff, Bool.and_eq_false_iff,
    decide_eq_false_iff_not, beq_eq_false_iff_ne, ne_eq]
  omega

/-- A text is cut at the first separator, which is left out. -/
theorem splitFirst?_of_not_mem
    {separator : Char}
    {before : List Char}
    (after : List Char)
    (absent : separator ∉ before) :
    splitFirst? separator (String.ofList (before ++ separator :: after)) =
      some (String.ofList before, String.ofList after) := by
  have passes : ∀ char ∈ before, (char != separator) = true := by
    intro char member
    rw [bne_iff_ne]
    rintro rfl
    exact absent member
  rw [splitFirst?, String.toList_ofList, List.dropWhile_append_of_pos passes,
    List.takeWhile_append_of_pos passes, List.dropWhile_cons,
    List.takeWhile_cons, bne_self_eq_false]
  simp only [Bool.false_eq_true, if_false, List.append_nil]

/-! ## Numerals -/

/-- A numeral consists of one or more decimal digits. -/
structure IsNumeral (chars : List Char) : Prop where
  nonempty : chars ≠ []
  digits : ∀ char ∈ chars, char.isDigit = true

theorem isNumeral_toString
    (value : Nat) :
    IsNumeral (toString value).toList := by
  rw [Nat.toString_eq_ofList_toDigits, String.toList_ofList]
  exact
    {
      nonempty := Nat.toDigits_ne_nil
      digits := fun char member =>
        Nat.isDigit_of_mem_toDigits (by decide) (by decide) member
    }

namespace IsNumeral

variable {chars : List Char}

theorem head
    (numeral : IsNumeral chars)
    {char : Char}
    (isFirst : chars.head? = some char) :
    char.isDigit = true :=
  numeral.digits char (List.mem_of_mem_head? isFirst)

theorem last
    (numeral : IsNumeral chars)
    {char : Char}
    (isLast : chars.getLast? = some char) :
    char.isDigit = true :=
  numeral.digits char (List.mem_of_mem_getLast? isLast)

theorem not_mem
    (numeral : IsNumeral chars)
    {char : Char}
    (notDigit : char.isDigit = false) :
    char ∉ chars := by
  intro member
  rw [numeral.digits char member] at notDigit
  cases notDigit

end IsNumeral

end ResourceServer.Text
