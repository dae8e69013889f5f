import ResourceServer.Json.Reader
import ResourceServer.Proofs.Text.Bytes

namespace ResourceServer.Json

/-!
# Blank texts

A text of blanks stands for no value. Among the blanks there is one, the form
feed, that JSON does not allow between the parts of a text.
-/

/-- Between the parts of a JSON text, or a form feed. -/
def IsBlank
    (char : Char) : Prop :=
  isSpace char = true ∨ char = '\x0C'

theorem tokens?_of_formFeed
    (done : List Token)
    (rest : List Char) :
    tokens? done ('\x0C' :: rest) = none := by
  have notSpace : isSpace '\x0C' = false := by
    decide
  have notQuote : ('\x0C' : Char) ≠ '"' := by
    decide
  have notPunctuation : punctuation? '\x0C' = none := by
    decide
  have notScalar :
      ∀ others, scalar? ('\x0C' :: others) = none := by
    intro others
    have noDigit : Text.digitValue? '\x0C' = none := by
      decide
    simp [scalar?, Number.read?, Number.Literal.ofChars?, Number.takeDigits,
      noDigit]
  rw [tokens?]
  simp only [notSpace, notPunctuation, notScalar, Bool.false_eq_true,
    if_false, if_neg notQuote]

/-- Blanks are no tokens, or no JSON text at all. -/
theorem tokens?_of_blank
    {chars : List Char}
    (blank : ∀ char ∈ chars, IsBlank char) :
    tokens? [] chars = some [] ∨ tokens? [] chars = none := by
  induction chars with
  | nil =>
      rw [tokens?]
      exact .inl rfl
  | cons char rest inductionHypothesis =>
      rcases blank char List.mem_cons_self with isSpace | isFormFeed
      · rw [tokens?, if_pos isSpace]
        exact
          inductionHypothesis fun later member =>
            blank later (List.mem_cons_of_mem char member)
      · subst isFormFeed
        exact .inr (tokens?_of_formFeed [] rest)

theorem read?_of_blank
    {text : String}
    (blank : ∀ char ∈ text.toList, IsBlank char) :
    read? text = none := by
  rw [read?]
  rcases tokens?_of_blank blank with noTokens | noText
  · rw [noTokens]
    rfl
  · rw [noText]
    rfl

/-- The bytes of blanks. -/
def blankBytes : List UInt8 :=
  [0x20, 0x09, 0x0A, 0x0C, 0x0D]

theorem isBlank_of_bytes
    {char : Char}
    (blank : ∀ byte ∈ String.utf8EncodeChar char, byte ∈ blankBytes) :
    IsBlank char := by
  have isValue :
      ∀ value ∈ Text.byteValues char.toNat,
        value ∈ blankBytes.map UInt8.toNat := by
    intro value member
    rw [← Text.map_toNat_utf8EncodeChar] at member
    obtain ⟨byte, isByte, rfl⟩ := List.mem_map.mp member
    exact List.mem_map_of_mem (blank byte isByte)
  have allBlank :
      ∀ value ∈ blankBytes.map UInt8.toNat,
        value < 128 ∧
          (isSpace (Char.ofNat value) = true ∨
            Char.ofNat value = '\x0C') := by
    decide
  obtain ⟨value, member⟩ :=
    List.exists_mem_of_ne_nil _ (Text.byteValues_ne_nil char.toNat)
  have isAscii : char.toNat < 128 := by
    have isBelow := (allBlank value (isValue value member)).1
    rcases Nat.lt_or_ge char.toNat 128 with isAscii | notAscii
    · exact isAscii
    · have isAbove := Text.le_of_mem_byteValues notAscii member
      omega
  have isOwnValue : char.toNat ∈ Text.byteValues char.toNat := by
    rw [Text.byteValues, if_pos (Nat.le_of_lt_succ isAscii)]
    exact List.mem_singleton_self _
  have isBlank := (allBlank _ (isValue _ isOwnValue)).2
  rw [Char.ofNat_toNat] at isBlank
  exact isBlank

/-- Bytes of blanks stand for no value. -/
theorem readBytes?_of_blank
    {encoded : List UInt8}
    (blank : ∀ byte ∈ encoded, byte ∈ blankBytes) :
    readBytes? encoded = none := by
  rw [readBytes?]
  cases isText : Text.ofBytes? encoded with
  | none =>
      rfl
  | some text =>
      apply read?_of_blank
      intro char isIn
      apply isBlank_of_bytes
      intro byte isByte
      apply blank
      rw [← Text.bytes_of_ofBytes? isText, Text.bytes_eq_flatMap,
        List.mem_flatMap]
      exact ⟨char, isIn, isByte⟩

end ResourceServer.Json
