namespace ResourceServer.Text

/-!
# Texts as bytes

Percent escapes and request bodies are sequences of bytes. This module reads
such a sequence as UTF-8 in two ways: strictly, where one malformed sequence
refuses the whole, and leniently, where each malformed sequence becomes the
replacement character.
-/

/-- The UTF-8 bytes of a text. -/
def bytes (text : String) : List UInt8 :=
  text.toByteArray.data.toList

/-- Read bytes as UTF-8, refusing them all when one sequence is malformed. -/
def ofBytes? (encoded : List UInt8) : Option String :=
  String.fromUTF8? ⟨encoded.toArray⟩

/-- Bytes of a text read back as that text. -/
@[simp] theorem ofBytes?_bytes
    (text : String) :
    ofBytes? (bytes text) = some text := by
  simp only [ofBytes?, bytes, Array.toArray_toList]
  exact dif_pos text.isValidUTF8

/-- Only the bytes of a text read as that text. -/
theorem bytes_of_ofBytes?
    {encoded : List UInt8}
    {text : String}
    (readsAs : ofBytes? encoded = some text) :
    bytes text = encoded := by
  unfold ofBytes? String.fromUTF8? at readsAs
  split at readsAs
  · simp only [Option.some.injEq] at readsAs
    subst readsAs
    simp [bytes, String.fromUTF8]
  · simp at readsAs

/-- The bytes of a text are the bytes of its characters, in order. -/
theorem bytes_eq_flatMap
    (text : String) :
    bytes text = text.toList.flatMap String.utf8EncodeChar := by
  rw [bytes, ← String.utf8Encode_toList]
  simp [List.utf8Encode]

/-- What may follow the first byte of a sequence of more than one byte. -/
structure Lead where
  /-- How many bytes must follow. -/
  followers : Nat
  /-- The payload bits of the first byte. -/
  payload : Nat
  /-- The least byte that may come second. -/
  low : UInt8
  /-- The greatest byte that may come second. -/
  high : UInt8
deriving Repr, DecidableEq

/--
The sequences that a first byte may start.

The bounds on the second byte exclude overlong forms, surrogates and values
past the last code point.
-/
def lead? (first : UInt8) : Option Lead :=
  let byte := first.toNat
  if 0xC2 ≤ byte ∧ byte ≤ 0xDF then
    some ⟨1, byte - 0xC0, 0x80, 0xBF⟩
  else if byte = 0xE0 then
    some ⟨2, 0, 0xA0, 0xBF⟩
  else if byte = 0xED then
    some ⟨2, 0xD, 0x80, 0x9F⟩
  else if 0xE1 ≤ byte ∧ byte ≤ 0xEF then
    some ⟨2, byte - 0xE0, 0x80, 0xBF⟩
  else if byte = 0xF0 then
    some ⟨3, 0, 0x90, 0xBF⟩
  else if 0xF1 ≤ byte ∧ byte ≤ 0xF3 then
    some ⟨3, byte - 0xF0, 0x80, 0xBF⟩
  else if byte = 0xF4 then
    some ⟨3, 4, 0x80, 0x8F⟩
  else
    none

/-- The bytes at the start of `rest` that continue a sequence, at most `count`. -/
def followers
    (count : Nat)
    (low high : UInt8)
    (rest : List UInt8) :
    List UInt8 :=
  match count, rest with
  | count + 1, byte :: rest =>
      if low ≤ byte ∧ byte ≤ high then
        byte :: followers count 0x80 0xBF rest
      else
        []
  | _, _ => []

/-- The character U+FFFD, which stands for a malformed sequence. -/
def replacement : Char := Char.ofNat 0xFFFD

/--
Read bytes as UTF-8, writing U+FFFD for each malformed sequence.

A malformed sequence is as long as the start it shares with some well-formed
one, and one byte when it shares none.
-/
def decodeLossy (encoded : List UInt8) : List Char :=
  match encoded with
  | [] => []
  | byte :: rest =>
      if byte < 0x80 then
        Char.ofNat byte.toNat :: decodeLossy rest
      else
        match lead? byte with
        | none => replacement :: decodeLossy rest
        | some lead =>
            let found := followers lead.followers lead.low lead.high rest
            let char :=
              if found.length = lead.followers then
                Char.ofNat
                  (found.foldl
                    (fun value next => 64 * value + (next.toNat - 0x80))
                    lead.payload)
              else
                replacement
            char :: decodeLossy (rest.drop found.length)
termination_by encoded.length
decreasing_by
  all_goals simp only [List.length_cons, List.length_drop]
  all_goals omega

end ResourceServer.Text
