import ResourceServer.Proofs.Text.Bytes
import ResourceServer.Text.Percent

namespace ResourceServer.Text.Percent

/-!
# The percent encoding of an element

Encoding writes ASCII characters only, never a slash, and reading undoes it for
every text. The encoding that ignores case is the encoding of the folded text,
so each of the two tells texts apart exactly as far as it should.
-/

/-- The byte that a hexadecimal digit is written as. -/
def digitByte (value : Nat) : UInt8 :=
  UInt8.ofNat (hexDigit value).toNat

/-- The bytes that write one byte in a path segment. -/
def escapeByte (byte : UInt8) : List UInt8 :=
  if isPathByte byte then
    [byte]
  else
    [0x25, digitByte (byte.toNat / 16), digitByte (byte.toNat % 16)]

/-- A written digit is an ASCII character and reads as its value. -/
theorem hexDigit_spec
    {value : Nat}
    (isDigit : value < 16) :
    (hexDigit value).toNat < 128 ∧
      hexByte? (digitByte value) = some value := by
  have all :
      ∀ value < 16,
        (hexDigit value).toNat < 128 ∧
          hexByte? (digitByte value) = some value := by
    decide
  exact all value isDigit

theorem utf8EncodeChar_hexDigit
    {value : Nat}
    (isDigit : value < 16) :
    String.utf8EncodeChar (hexDigit value) = [digitByte value] := by
  have encoded := utf8EncodeChar_ofNat (hexDigit_spec isDigit).1
  rwa [Char.ofNat_toNat] at encoded

/-- A byte that stands for itself is ASCII and no percent sign. -/
theorem isPathByte_spec
    {byte : UInt8}
    (standsForItself : isPathByte byte = true) :
    byte.toNat < 128 ∧ byte ≠ 0x25 := by
  have all :
      ∀ value < 256,
        isPathByte (UInt8.ofNat value) = true →
          value < 128 ∧ UInt8.ofNat value ≠ 0x25 := by
    decide +kernel
  have found := all byte.toNat byte.toNat_lt
  rw [UInt8.ofNat_toNat] at found
  exact found standsForItself

/-- The characters that write a byte are these bytes. -/
theorem flatMap_encodeByte
    (byte : UInt8) :
    (encodeByte byte).flatMap String.utf8EncodeChar = escapeByte byte := by
  have bounded : byte.toNat < 256 := byte.toNat_lt
  unfold encodeByte escapeByte
  split
  · rename_i standsForItself
    have isAscii := (isPathByte_spec standsForItself).1
    simp [utf8EncodeChar_ofNat isAscii]
  · have percent : String.utf8EncodeChar '%' = [0x25] := by
      decide
    have high : byte.toNat / 16 < 16 := by
      omega
    have low : byte.toNat % 16 < 16 := by
      omega
    simp [percent, utf8EncodeChar_hexDigit high, utf8EncodeChar_hexDigit low]

theorem bytes_encode
    (text : String) :
    bytes (encode text) = (bytes text).flatMap escapeByte := by
  simp only [encode, bytes_ofList, List.flatMap_assoc, flatMap_encodeByte]

/-! ## Reading what was written -/

/-- A byte that is no percent sign reads as itself. -/
theorem unescape_cons_of_ne
    (offset : Nat)
    {byte : UInt8}
    (notPercent : byte ≠ 0x25)
    (rest : List UInt8) :
    unescape offset (byte :: rest) =
      (unescape (offset + 1) rest).map (byte :: ·) := by
  rw [unescape.eq_def]
  exact if_neg notPercent

/-- One written byte reads as that byte. -/
theorem unescape_escapeByte
    (offset : Nat)
    (byte : UInt8)
    (rest : List UInt8) :
    unescape offset (escapeByte byte ++ rest) =
      (unescape (offset + (escapeByte byte).length) rest).map (byte :: ·) := by
  have bounded : byte.toNat < 256 := byte.toNat_lt
  unfold escapeByte
  split
  · rename_i standsForItself
    exact
      unescape_cons_of_ne offset (isPathByte_spec standsForItself).2 rest
  · have high : byte.toNat / 16 < 16 := by
      omega
    have low : byte.toNat % 16 < 16 := by
      omega
    have wholeByte : 16 * (byte.toNat / 16) + byte.toNat % 16 = byte.toNat := by
      omega
    simp [unescape, (hexDigit_spec high).2, (hexDigit_spec low).2,
      wholeByte]

/-- Written bytes read as themselves. -/
theorem unescape_flatMap_escapeByte
    (offset : Nat)
    (plain : List UInt8) :
    unescape offset (plain.flatMap escapeByte) = .ok plain := by
  -- Offsets only place faults, but they move on with every byte that is read.
  induction plain generalizing offset with
  | nil =>
      rfl
  | cons byte rest inductionHypothesis =>
      rw [List.flatMap_cons, unescape_escapeByte, inductionHypothesis]
      rfl

/-- Reading undoes writing. -/
@[simp] theorem decode_encode
    (text : String) :
    decode (encode text) = .ok text := by
  simp only [decode, bytes_encode, unescape_flatMap_escapeByte, ofBytes?_bytes]

theorem encode_injective
    {left right : String}
    (writtenAlike : encode left = encode right) :
    left = right := by
  have readBack := decode_encode left
  rw [writtenAlike, decode_encode] at readBack
  exact (Except.ok.inj readBack).symm

theorem encode_ne_empty
    {text : String}
    (notEmpty : text ≠ "") :
    encode text ≠ "" := by
  intro isEmpty
  apply notEmpty
  apply encode_injective
  rw [isEmpty]
  rfl

/-- No slash stands in an encoded text. -/
theorem slash_not_mem_encode
    (text : String) :
    '/' ∉ (encode text).toList := by
  have all :
      ∀ value < 256, '/' ∉ encodeByte (UInt8.ofNat value) := by
    decide +kernel
  simp only [encode, String.toList_ofList, List.mem_flatMap, not_exists, not_and]
  intro byte _
  have notInByte := all byte.toNat byte.toNat_lt
  rwa [UInt8.ofNat_toNat] at notInByte

/-- Bytes that are not none read as at least one byte. -/
theorem unescape_ne_nil
    {offset : Nat}
    {encoded plain : List UInt8}
    (notNil : encoded ≠ [])
    (readsAs : unescape offset encoded = .ok plain) :
    plain ≠ [] := by
  have consOfMap :
      ∀ (byte : UInt8) (rest : Except Fault (List UInt8)),
        rest.map (byte :: ·) = .ok plain → plain ≠ [] := by
    intro byte rest mapped
    cases rest with
    | error fault =>
        cases mapped
    | ok following =>
        cases mapped
        simp
  rw [unescape.eq_def] at readsAs
  split at readsAs
  · exact absurd rfl notNil
  · split at readsAs
    · split at readsAs
      · split at readsAs
        · exact consOfMap _ _ readsAs
        · cases readsAs
      · cases readsAs
    · exact consOfMap _ _ readsAs

/-- What reads from a text that is not empty is not empty. -/
theorem decode_ne_empty
    {encoded text : String}
    (notEmpty : encoded ≠ "")
    (readsAs : decode encoded = .ok text) :
    text ≠ "" := by
  unfold decode at readsAs
  split at readsAs
  · cases readsAs
  · rename_i plain unescaped
    split at readsAs
    · rename_i decoded isUtf8
      cases readsAs
      have hasBytes : bytes encoded ≠ [] :=
        fun noBytes => notEmpty (bytes_eq_nil.mp noBytes)
      have plainBytes := unescape_ne_nil hasBytes unescaped
      rw [← bytes_of_ofBytes? isUtf8] at plainBytes
      exact fun isEmpty => plainBytes (bytes_eq_nil.mpr isEmpty)
    · cases readsAs

/-! ## Letter case -/

/-- Ignoring case, a byte is written like its folded byte. -/
theorem encodeByteFolded_eq
    (byte : UInt8) :
    encodeByteFolded byte = encodeByte (foldByte byte) := by
  have all :
      ∀ value < 256,
        encodeByteFolded (UInt8.ofNat value) =
          encodeByte (foldByte (UInt8.ofNat value)) := by
    decide +kernel
  have found := all byte.toNat byte.toNat_lt
  rwa [UInt8.ofNat_toNat] at found

/-- Ignoring case, a text is written like its folded text. -/
theorem encodeFolded_eq
    (text : String) :
    encodeFolded text = encode (fold text) := by
  have perByte :
      encodeByteFolded = fun byte => encodeByte (foldByte byte) :=
    funext encodeByteFolded_eq
  simp only [encodeFolded, encode, bytes_fold, List.flatMap_map, perByte]

/-! ## Texts that are not encoded -/

/-- Only a percent sign has the byte that starts an escape. -/
theorem percent_mem_bytes_iff
    {text : String} :
    0x25 ∈ bytes text ↔ '%' ∈ text.toList := by
  rw [bytes_eq_flatMap, List.mem_flatMap]
  constructor
  · rintro ⟨char, isIn, isByte⟩
    have hasValue : 0x25 ∈ byteValues char.toNat := by
      rw [← map_toNat_utf8EncodeChar]
      exact List.mem_map_of_mem isByte
    have isPercent : char.toNat = 0x25 := by
      by_cases isAscii : char.toNat < 128
      · have isAtMost : char.toNat ≤ 0x7F := by
          omega
        rw [byteValues, if_pos isAtMost, List.mem_singleton] at hasValue
        exact hasValue.symm
      · have isHigh :=
          le_of_mem_byteValues (Nat.le_of_not_lt isAscii) hasValue
        omega
    rw [← Char.ofNat_toNat char, isPercent] at isIn
    exact isIn
  · intro isIn
    refine ⟨'%', isIn, ?_⟩
    decide

/-- Without a percent sign there is nothing to replace. -/
theorem unescape_of_not_mem
    (offset : Nat)
    {plain : List UInt8}
    (absent : 0x25 ∉ plain) :
    unescape offset plain = .ok plain := by
  induction plain generalizing offset with
  | nil =>
      rfl
  | cons byte rest inductionHypothesis =>
      rw [List.mem_cons, not_or] at absent
      rw [unescape_cons_of_ne offset (Ne.symm absent.1),
        inductionHypothesis _ absent.2]
      rfl

/-- An escape is longer than its byte, so reading never makes a text longer. -/
theorem length_of_unescape
    {offset : Nat}
    {encoded plain : List UInt8}
    (readsAs : unescape offset encoded = .ok plain) :
    plain.length ≤ encoded.length ∧
      (0x25 ∈ encoded → plain.length < encoded.length) := by
  induction offset, encoded using unescape.induct generalizing plain with
  | case1 offset =>
      cases readsAs
      exact ⟨Nat.le_refl _, fun isIn => absurd isIn List.not_mem_nil⟩
  | case2 offset high low rest highValue lowValue isLow isHigh
      inductionHypothesis =>
      rw [unescape, if_pos rfl, isHigh, isLow] at readsAs
      cases restReads : unescape (offset + 3) rest with
      | error fault =>
          rw [restReads] at readsAs
          cases readsAs
      | ok following =>
          rw [restReads] at readsAs
          cases readsAs
          have noLonger := (inductionHypothesis restReads).1
          simp only [List.length_cons]
          omega
  | case3 offset high low rest notDigits =>
      rw [unescape, if_pos rfl] at readsAs
      split at readsAs
      · rename_i isHigh isLow
        exact absurd isLow (notDigits _ _ isHigh)
      · cases readsAs
  | case4 offset rest tooShort =>
      rw [unescape.eq_def] at readsAs
      simp only [if_true] at readsAs
      cases readsAs
  | case5 offset byte rest notPercent inductionHypothesis =>
      rw [unescape_cons_of_ne offset notPercent] at readsAs
      cases restReads : unescape (offset + 1) rest with
      | error fault =>
          rw [restReads] at readsAs
          cases readsAs
      | ok following =>
          rw [restReads] at readsAs
          cases readsAs
          obtain ⟨noLonger, shorter⟩ := inductionHypothesis restReads
          simp only [List.length_cons, List.mem_cons]
          refine ⟨by omega, ?_⟩
          rintro (isFirst | inRest)
          · exact absurd isFirst.symm notPercent
          · have := shorter inRest
            omega

theorem length_bytes_of_decode
    {encoded text : String}
    (readsAs : decode encoded = .ok text) :
    (bytes text).length ≤ (bytes encoded).length ∧
      ('%' ∈ encoded.toList →
        (bytes text).length < (bytes encoded).length) := by
  unfold decode at readsAs
  split at readsAs
  · cases readsAs
  · rename_i plain unescaped
    split at readsAs
    · rename_i decoded isUtf8
      cases readsAs
      rw [bytes_of_ofBytes? isUtf8, ← percent_mem_bytes_iff]
      exact length_of_unescape unescaped
    · cases readsAs

/-- The texts that read as themselves are those without a percent sign. -/
theorem decode_eq_self_iff
    {text : String} :
    decode text = .ok text ↔ '%' ∉ text.toList := by
  constructor
  · intro readsAs hasPercent
    have shorter := (length_bytes_of_decode readsAs).2 hasPercent
    exact Nat.lt_irrefl _ shorter
  · intro absent
    have noByte : 0x25 ∉ bytes text :=
      fun isIn => absent (percent_mem_bytes_iff.mp isIn)
    simp only [decode, unescape_of_not_mem 0 noByte, ofBytes?_bytes]

end ResourceServer.Text.Percent
