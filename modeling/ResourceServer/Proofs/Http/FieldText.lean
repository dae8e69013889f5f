import Mathlib.Data.List.Basic
import ResourceServer.Http.Headers
import ResourceServer.Proofs.Text.Bytes

namespace ResourceServer.Headers

/-!
# Texts in header fields

What is read from a header field as a text consists of printable ASCII and tabs,
and is the text that was sent. Any other character is sent as bytes that no text
has, so a value with a single one of them is not read at all.
-/

/-- Whether a character can be read from a header field as part of a text. -/
def isTextChar (char : Char) : Bool :=
  (0x20 ≤ char.toNat && char.toNat ≤ 0x7E) || char.toNat == 0x09

/-- A text can be read from a header field. -/
def Readable (text : String) : Prop :=
  ∀ char ∈ text.toList, isTextChar char = true

instance (text : String) : Decidable (Readable text) :=
  List.decidableBAll (fun char => isTextChar char = true) text.toList

theorem lt_of_isTextChar
    {char : Char}
    (isText : isTextChar char = true) :
    char.toNat < 128 := by
  simp only [isTextChar, Bool.or_eq_true, Bool.and_eq_true, decide_eq_true_eq,
    beq_iff_eq] at isText
  omega

theorem isTextChar_of_isDigit
    {char : Char}
    (isDigit : char.isDigit = true) :
    isTextChar char = true := by
  have inRange : 48 ≤ char.toNat ∧ char.toNat ≤ 57 := by
    simp only [Char.isDigit, Bool.and_eq_true, decide_eq_true_eq] at isDigit
    exact isDigit
  simp only [isTextChar, Bool.or_eq_true, Bool.and_eq_true, decide_eq_true_eq,
    beq_iff_eq]
  omega

/-- A character below 128 is one byte, which tells what the character is. -/
theorem utf8EncodeChar_of_lt
    {char : Char}
    (isAscii : char.toNat < 128) :
    String.utf8EncodeChar char = [UInt8.ofNat char.toNat] := by
  have written := Text.utf8EncodeChar_ofNat isAscii
  rw [Char.ofNat_toNat] at written
  exact written

/-- The bytes of a character are those of a text if the character is. -/
theorem all_isTextByte_utf8EncodeChar
    (char : Char) :
    (String.utf8EncodeChar char).all isTextByte = isTextChar char := by
  by_cases isAscii : char.toNat < 128
  · have all :
        ∀ value < 128,
          isTextByte (UInt8.ofNat value) = isTextChar (Char.ofNat value) := by
      decide
    rw [utf8EncodeChar_of_lt isAscii, List.all_cons, List.all_nil,
      Bool.and_true, all _ isAscii, Char.ofNat_toNat]
  · have notText : isTextChar char = false :=
      Bool.eq_false_iff.mpr fun isText => isAscii (lt_of_isTextChar isText)
    have values := Text.map_toNat_utf8EncodeChar char
    rw [notText, List.all_eq_false]
    cases written : String.utf8EncodeChar char with
    | nil =>
        rw [written] at values
        exact absurd values.symm (Text.byteValues_ne_nil _)
    | cons first rest =>
        refine ⟨first, List.mem_cons_self, ?_⟩
        have isHigh : 128 ≤ first.toNat := by
          apply Text.le_of_mem_byteValues (Nat.le_of_not_lt isAscii)
          rw [← values, written]
          exact List.mem_cons_self
        simp only [isTextByte, Bool.or_eq_true, Bool.and_eq_true,
          decide_eq_true_eq, beq_iff_eq, UInt8.le_iff_toNat_le,
          ← UInt8.toNat_inj]
        simp only [UInt8.reduceToNat]
        omega

theorem all_isTextByte_iff
    {text : String} :
    (Text.bytes text).all isTextByte = true ↔ Readable text := by
  simp only [Text.bytes_eq_flatMap, List.all_flatMap,
    all_isTextByte_utf8EncodeChar, List.all_eq_true, Readable]

/-- What can be read from a header field can be sent in one. -/
theorem isSendable_of_readable
    {text : String}
    (readable : Readable text) :
    isSendable text = true := by
  have allText := List.all_eq_true.mp (all_isTextByte_iff.mpr readable)
  rw [isSendable, List.all_eq_true]
  intro byte member
  have isText := allText byte member
  simp only [isTextByte, Bool.or_eq_true, Bool.and_eq_true, decide_eq_true_eq,
    beq_iff_eq] at isText
  simp only [Bool.or_eq_true, Bool.and_eq_true, decide_eq_true_eq,
    bne_iff_ne, beq_iff_eq]
  rcases isText with ⟨isAbove, isBelow⟩ | isTab
  · refine .inl ⟨isAbove, ?_⟩
    rintro rfl
    exact absurd isBelow (by decide)
  · exact .inr isTab

/-- The bytes of a text that can be read are its characters, one by one. -/
theorem map_bytes_of_readable
    {text : String}
    (readable : Readable text) :
    (Text.bytes text).map (fun byte => Char.ofNat byte.toNat) = text.toList := by
  have single :
      ∀ char ∈ text.toList,
        (String.utf8EncodeChar char).map (fun byte => Char.ofNat byte.toNat) =
          [char] := by
    intro char member
    have isAscii := lt_of_isTextChar (readable char member)
    have isByte : (UInt8.ofNat char.toNat).toNat = char.toNat := by
      rw [UInt8.toNat_ofNat']
      omega
    rw [utf8EncodeChar_of_lt isAscii, List.map_singleton, isByte,
      Char.ofNat_toNat]
  rw [Text.bytes_eq_flatMap, List.map_flatMap, List.flatMap_congr single,
    List.flatMap_singleton']

theorem valueText?_of_readable
    {text : String}
    (readable : Readable text) :
    valueText? (Text.bytes text) = some text := by
  rw [valueText?, if_pos (all_isTextByte_iff.mpr readable),
    map_bytes_of_readable readable, String.ofList_toList]

theorem valueText?_of_not_readable
    {text : String}
    (unreadable : ¬ Readable text) :
    valueText? (Text.bytes text) = none := by
  rw [valueText?, if_neg (mt all_isTextByte_iff.mp unreadable)]

end ResourceServer.Headers
