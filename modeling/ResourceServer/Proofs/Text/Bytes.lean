import ResourceServer.Text.Fold
import ResourceServer.Text.Utf8

namespace ResourceServer.Text

/-!
# What the bytes of a text tell

A text is known from its UTF-8 bytes, and comparing texts byte by byte is
comparing them by code point. The case of the ASCII letters can be folded on
the bytes as well: a byte of a longer sequence is never a letter.
-/

/-- The bytes of characters put together are their bytes put together. -/
theorem bytes_ofList
    (chars : List Char) :
    bytes (String.ofList chars) = chars.flatMap String.utf8EncodeChar := by
  rw [bytes_eq_flatMap, String.toList_ofList]

theorem bytes_injective
    {left right : String}
    (sameBytes : bytes left = bytes right) :
    left = right := by
  have readBack := ofBytes?_bytes left
  rw [sameBytes, ofBytes?_bytes] at readBack
  exact (Option.some.inj readBack).symm

@[simp] theorem bytes_eq_nil
    {text : String} :
    bytes text = [] ↔ text = "" := by
  constructor
  · intro noBytes
    exact bytes_injective (noBytes.trans rfl)
  · rintro rfl
    rfl

/-! ## The bytes of a code point -/

/-- The values of the bytes that write a code point. -/
def byteValues (value : Nat) : List Nat :=
  if value ≤ 0x7F then
    [value]
  else if value ≤ 0x7FF then
    [0xC0 + value / 64, 0x80 + value % 64]
  else if value ≤ 0xFFFF then
    [0xE0 + value / 4096, 0x80 + value / 64 % 64, 0x80 + value % 64]
  else
    [0xF0 + value / 262144, 0x80 + value / 4096 % 64,
      0x80 + value / 64 % 64, 0x80 + value % 64]

/-- Code points lie below the limit of Unicode. -/
theorem toNat_lt_limit
    (char : Char) :
    char.toNat < 0x110000 := by
  rcases char.valid with below | above
  · exact Nat.lt_trans below (by decide)
  · exact above.2

/-- The bytes of a character have these values. -/
theorem map_toNat_utf8EncodeChar
    (char : Char) :
    (String.utf8EncodeChar char).map UInt8.toNat = byteValues char.toNat := by
  have bounded := toNat_lt_limit char
  have value : char.val.toNat = char.toNat := rfl
  simp only [String.utf8EncodeChar, byteValues, value]
  -- The limit on code points keeps the leading byte of four within a byte.
  repeat' split
  all_goals
    simp only [List.map_cons, List.map_nil, UInt8.toNat_ofNat',
      List.cons.injEq, and_true]
    omega

theorem byteValues_ne_nil
    (value : Nat) :
    byteValues value ≠ [] := by
  unfold byteValues
  repeat' split
  all_goals simp

/-- A code point from 128 on has no byte below 128. -/
theorem le_of_mem_byteValues
    {value byte : Nat}
    (notAscii : 128 ≤ value)
    (member : byte ∈ byteValues value) :
    128 ≤ byte := by
  unfold byteValues at member
  repeat' split at member
  all_goals
    simp only [List.mem_cons, List.not_mem_nil, or_false] at member
    omega

/-- A character below 128 is one byte. -/
theorem utf8EncodeChar_ofNat
    {value : Nat}
    (isAscii : value < 128) :
    String.utf8EncodeChar (Char.ofNat value) = [UInt8.ofNat value] := by
  have all :
      ∀ value < 128,
        String.utf8EncodeChar (Char.ofNat value) = [UInt8.ofNat value] := by
    decide
  exact all value isAscii

/-! ## Order -/

theorem compare_map_toNat
    (left right : List UInt8) :
    compare (left.map UInt8.toNat) (right.map UInt8.toNat) =
      compare left right := by
  induction left generalizing right with
  | nil =>
      cases right with
      | nil =>
          rfl
      | cons byte rest =>
          rfl
  | cons byte rest inductionHypothesis =>
      cases right with
      | nil =>
          rfl
      | cons other others =>
          have sameByte :
              compare byte.toNat other.toNat = compare byte other := by
            simp only [compare, compareOfLessAndEq,
              UInt8.lt_iff_toNat_lt, UInt8.toNat_inj]
          simp only [List.map_cons, List.compare_cons_cons, sameByte,
            inductionHypothesis]

/-- A common beginning does not count in a comparison. -/
theorem compare_append_left
    (front left right : List Nat) :
    compare (front ++ left) (front ++ right) = compare left right := by
  induction front with
  | nil =>
      rfl
  | cons value rest inductionHypothesis =>
      rw [List.cons_append, List.cons_append, List.compare_cons_cons,
        Std.ReflOrd.compare_self, inductionHypothesis]
      rfl

/-- The bytes of a smaller code point come first, whatever follows. -/
theorem compare_byteValues_append
    {smaller greater : Nat}
    (isSmaller : smaller < greater)
    (left right : List Nat) :
    compare (byteValues smaller ++ left) (byteValues greater ++ right) =
      .lt := by
  have cons_lt :
      ∀ (first second : Nat) (rest others : List Nat),
        compare (first :: rest) (second :: others) = .lt ↔
          first < second ∨ (first = second ∧ compare rest others = .lt) := by
    intro first second rest others
    rw [List.compare_cons_cons, Ordering.then_eq_lt,
      Nat.compare_eq_lt, Nat.compare_eq_eq]
  -- A longer sequence has a greater leading byte; among sequences of one
  -- length the bytes are the digits of the code point, highest first.
  unfold byteValues
  repeat' split
  all_goals
    simp only [List.cons_append, List.nil_append, cons_lt]
    omega

/-- The bytes of an earlier text come first. -/
theorem compare_flatMap_byteValues
    {left right : List Char}
    (isEarlier : left < right) :
    compare
        (left.flatMap fun char => byteValues char.toNat)
        (right.flatMap fun char => byteValues char.toNat) =
      .lt := by
  induction isEarlier with
  | @nil char rest =>
      cases written : byteValues char.toNat with
      | nil =>
          exact absurd written (byteValues_ne_nil _)
      | cons value values =>
          simp [written]
  | rel isSmaller =>
      simp only [List.flatMap_cons]
      exact compare_byteValues_append isSmaller _ _
  | cons _ inductionHypothesis =>
      simp only [List.flatMap_cons, compare_append_left]
      exact inductionHypothesis

/-- Comparing the bytes of two texts is comparing the texts. -/
theorem compare_bytes
    (left right : String) :
    compare (bytes left) (bytes right) = compare left right := by
  have byteOrder :
      ∀ {left right : String},
        left < right → compare (bytes left) (bytes right) = .lt := by
    intro left right isEarlier
    rw [← compare_map_toNat]
    simp only [bytes_eq_flatMap, List.map_flatMap, map_toNat_utf8EncodeChar]
    exact compare_flatMap_byteValues isEarlier
  cases order : compare left right with
  | lt =>
      exact byteOrder (compareOfLessAndEq_eq_lt.mp order)
  | eq =>
      rw [Std.LawfulEqOrd.eq_of_compare order, Std.ReflOrd.compare_self]
  | gt =>
      rw [Std.OrientedOrd.eq_swap, Ordering.swap_eq_gt] at order ⊢
      exact byteOrder (compareOfLessAndEq_eq_lt.mp order)

/-! ## Letter case -/

/-- The byte with an ASCII capital made small. -/
def foldByte (byte : UInt8) : UInt8 :=
  if 65 ≤ byte ∧ byte ≤ 90 then byte + 32 else byte

/-- The bytes of a small letter are those of the capital, folded. -/
theorem utf8EncodeChar_toLower
    (char : Char) :
    String.utf8EncodeChar char.toLower =
      (String.utf8EncodeChar char).map foldByte := by
  by_cases isAscii : char.toNat < 128
  · have all :
        ∀ value < 128,
          String.utf8EncodeChar (Char.ofNat value).toLower =
            (String.utf8EncodeChar (Char.ofNat value)).map foldByte := by
      decide
    simpa using all char.toNat isAscii
  · have notCapital : ¬ (65 ≤ char.val ∧ char.val ≤ 90) := by
      rintro ⟨_, atMost⟩
      have small : char.toNat ≤ 90 := atMost
      omega
    have unchanged :
        ∀ byte ∈ String.utf8EncodeChar char, foldByte byte = id byte := by
      intro byte member
      have isHigh : 128 ≤ byte.toNat := by
        apply le_of_mem_byteValues (Nat.le_of_not_lt isAscii)
        rw [← map_toNat_utf8EncodeChar]
        exact List.mem_map_of_mem member
      refine if_neg ?_
      rintro ⟨_, atMost⟩
      have small : byte.toNat ≤ 90 := atMost
      omega
    rw [toLower_of_not_capital notCapital, List.map_congr_left unchanged,
      List.map_id]

theorem fold_ne_empty
    {text : String}
    (notEmpty : text ≠ "") :
    fold text ≠ "" := by
  simpa [fold] using notEmpty

/-- Folding a text folds its bytes. -/
theorem bytes_fold
    (text : String) :
    bytes (fold text) = (bytes text).map foldByte := by
  simp only [fold, bytes_ofList, bytes_eq_flatMap text, List.flatMap_map,
    List.map_flatMap, utf8EncodeChar_toLower]

end ResourceServer.Text
