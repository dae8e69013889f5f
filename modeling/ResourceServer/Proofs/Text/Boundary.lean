import ResourceServer.Proofs.Text.Bytes

namespace ResourceServer.Text

/-!
# Where characters begin

The first byte of a character is none of the bytes that may follow in one, so
bytes that are UTF-8 show where their characters begin. In front of such a byte
they can be cut, and both parts are UTF-8 by themselves; and what follows the
bytes of a text is read without regard to them.
-/

theorem bytes_append
    (left right : String) :
    bytes (left ++ right) = bytes left ++ bytes right := by
  simp only [bytes_eq_flatMap, String.toList_append, List.flatMap_append]

theorem ofBytes?_eq_some_iff
    {encoded : List UInt8}
    {text : String} :
    ofBytes? encoded = some text ↔ bytes text = encoded := by
  constructor
  · exact bytes_of_ofBytes?
  · rintro rfl
    exact ofBytes?_bytes text

/-- A character is told from the bytes that begin with its own. -/
theorem utf8EncodeChar_append_inj
    {first second : Char}
    {rest others : List UInt8}
    (sameBytes :
      String.utf8EncodeChar first ++ rest =
        String.utf8EncodeChar second ++ others) :
    first = second ∧ rest = others := by
  have decodeFirst :
      ∀ (char : Char) (following : List UInt8),
        (String.utf8EncodeChar char ++ following).toByteArray.utf8DecodeChar?
            0 =
          some char := by
    intro char following
    rw [List.toByteArray_append]
    exact ByteArray.utf8DecodeChar?_utf8EncodeChar_append
  have sameChar : some first = some second := by
    rw [← decodeFirst first rest, ← decodeFirst second others, sameBytes]
  obtain rfl := Option.some.inj sameChar
  exact ⟨rfl, List.append_cancel_left sameBytes⟩

/-- Among the bytes of a character only the first can be a first byte. -/
theorem eq_nil_of_isFirst
    {char : Char}
    {front rest : List UInt8}
    {byte : UInt8}
    (isFirst : byte.IsUTF8FirstByte)
    (written : String.utf8EncodeChar char = front ++ byte :: rest) :
    front = [] := by
  have inChar : front.length < (String.utf8EncodeChar char).length := by
    rw [written, List.length_append, List.length_cons]
    omega
  have isByte : (String.utf8EncodeChar char)[front.length] = byte := by
    simp only [written, List.getElem_append_right (Nat.le_refl _),
      Nat.sub_self, List.getElem_cons_zero]
  rw [← isByte, UInt8.isUTF8FirstByte_getElem_utf8EncodeChar] at isFirst
  exact List.eq_nil_of_length_eq_zero isFirst

/-- Characters can be cut in front of every first byte in their bytes. -/
theorem exists_append_of_isFirst
    {chars : List Char}
    {front rest : List UInt8}
    {byte : UInt8}
    (isFirst : byte.IsUTF8FirstByte)
    (written : chars.flatMap String.utf8EncodeChar = front ++ byte :: rest) :
    ∃ left right,
      chars = left ++ right ∧
        left.flatMap String.utf8EncodeChar = front ∧
        right.flatMap String.utf8EncodeChar = byte :: rest := by
  induction chars generalizing front with
  | nil =>
      simp at written
  | cons char others inductionHypothesis =>
      rw [List.flatMap_cons, List.append_eq_append_iff] at written
      rcases written with ⟨beyond, isFront, isRest⟩ | ⟨within, isChar, isRest⟩
      · -- The byte lies behind the first character.
        obtain ⟨left, right, rfl, isLeft, isRight⟩ :=
          inductionHypothesis isRest
        refine ⟨char :: left, right, rfl, ?_, isRight⟩
        rw [List.flatMap_cons, isLeft, isFront]
      · cases within with
        | nil =>
            -- The first character ends right in front of the byte.
            refine ⟨[char], others, rfl, ?_, ?_⟩
            · rw [List.flatMap_singleton, isChar, List.append_nil]
            · simpa using isRest.symm
        | cons other within =>
            -- The byte is one of the first character, so it begins it.
            obtain ⟨rfl, rfl⟩ := List.cons.inj isRest
            obtain rfl := eq_nil_of_isFirst isFirst isChar
            refine ⟨[], char :: others, rfl, rfl, ?_⟩
            rw [List.flatMap_cons, isChar]
            rfl

/-- The bytes begin with the first byte of a character, or there are none. -/
def BeginsAnew : List UInt8 → Prop
  | [] => True
  | byte :: _ => byte.IsUTF8FirstByte

theorem beginsAnew_utf8EncodeChar
    (char : Char)
    (rest : List UInt8) :
    BeginsAnew (String.utf8EncodeChar char ++ rest) := by
  cases written : String.utf8EncodeChar char with
  | nil =>
      exact absurd written String.utf8EncodeChar_ne_nil
  | cons byte others =>
      have hasByte : 0 < (String.utf8EncodeChar char).length := by
        rw [written]
        exact Nat.succ_pos _
      have isFirst :
          (String.utf8EncodeChar char)[0].IsUTF8FirstByte :=
        UInt8.isUTF8FirstByte_getElem_zero_utf8EncodeChar
      show byte.IsUTF8FirstByte
      simpa only [written, List.getElem_cons_zero] using isFirst

/-- Bytes are UTF-8 in front of the start of a character and from there on. -/
theorem ofBytes?_append_eq_some_iff
    {front rest : List UInt8}
    {text : String}
    (beginsAnew : BeginsAnew rest) :
    ofBytes? (front ++ rest) = some text ↔
      ∃ left right,
        ofBytes? front = some left ∧
          ofBytes? rest = some right ∧
          text = left ++ right := by
  simp only [ofBytes?_eq_some_iff]
  constructor
  · intro written
    cases rest with
    | nil =>
        refine ⟨text, "", ?_, rfl, String.append_empty.symm⟩
        rw [written, List.append_nil]
    | cons byte rest =>
        rw [bytes_eq_flatMap] at written
        obtain ⟨left, right, isText, isFront, isRest⟩ :=
          exists_append_of_isFirst beginsAnew written
        refine ⟨String.ofList left, String.ofList right, ?_, ?_, ?_⟩
        · rw [bytes_ofList, isFront]
        · rw [bytes_ofList, isRest]
        · rw [← String.ofList_append, ← isText, String.ofList_toList]
  · rintro ⟨left, right, rfl, rfl, rfl⟩
    exact bytes_append left right

/-- What stands behind the bytes of characters is read without regard to them. -/
theorem ofBytes?_chars_append_eq_some_iff
    {chars : List Char}
    {rest : List UInt8}
    {text : String} :
    ofBytes? (chars.flatMap String.utf8EncodeChar ++ rest) = some text ↔
      ∃ right,
        ofBytes? rest = some right ∧ text = String.ofList chars ++ right := by
  simp only [ofBytes?_eq_some_iff]
  constructor
  · intro written
    induction chars generalizing text with
    | nil =>
        exact ⟨text, written, (String.empty_append).symm⟩
    | cons char others inductionHypothesis =>
        rw [List.flatMap_cons, List.append_assoc, bytes_eq_flatMap] at written
        cases isText : text.toList with
        | nil =>
            rw [isText, List.flatMap_nil, eq_comm, List.append_eq_nil_iff]
              at written
            exact absurd written.1 String.utf8EncodeChar_ne_nil
        | cons first following =>
            rw [isText, List.flatMap_cons] at written
            obtain ⟨rfl, restWritten⟩ := utf8EncodeChar_append_inj written
            rw [← bytes_ofList] at restWritten
            obtain ⟨right, isRight, isFollowing⟩ :=
              inductionHypothesis restWritten
            refine ⟨right, isRight, ?_⟩
            rw [← String.ofList_toList (s := text), isText, ← List.singleton_append,
              String.ofList_append, isFollowing, ← String.append_assoc,
              ← String.ofList_append]
            rfl
  · rintro ⟨right, rfl, rfl⟩
    rw [bytes_append, bytes_ofList]

end ResourceServer.Text
