import ResourceServer.Name
import ResourceServer.Proofs.Text.Boundary
import ResourceServer.Proofs.Text.Percent
import ResourceServer.Proofs.Text.Runs

namespace ResourceServer.Text.Percent

/-!
# Texts are read run by run

The bytes of all pieces of a text are read as UTF-8 together, but no character
ever takes its bytes from two pieces: one that stands for itself is whole and
begins with a first byte. So a text can be read exactly if each of its runs of
escapes can be read by itself.
-/

theorem map_map_eq
    {Read Kept Final Failed : Type}
    (outcome : Except Failed Read)
    (first : Read → Kept)
    (second : Kept → Final) :
    (outcome.map first).map second = outcome.map (second ∘ first) := by
  cases outcome <;> rfl

/-- Reading these characters leaves these bytes, wherever they stand. -/
def ReadsAs
    (chars : List Char)
    (plain : List UInt8) : Prop :=
  ∀ offset rest,
    unescape offset (chars.flatMap String.utf8EncodeChar ++ rest) =
      (unescape (offset + (chars.flatMap String.utf8EncodeChar).length)
        rest).map (plain ++ ·)

namespace ReadsAs

theorem nil : ReadsAs [] [] := by
  intro offset rest
  cases read : unescape offset rest <;> simp [read, Except.map]

theorem append
    {front back : List Char}
    {left right : List UInt8}
    (frontReads : ReadsAs front left)
    (backReads : ReadsAs back right) :
    ReadsAs (front ++ back) (left ++ right) := by
  intro offset rest
  have joined : (left ++ right ++ ·) = (left ++ ·) ∘ (right ++ ·) := by
    funext behind
    exact List.append_assoc left right behind
  rw [List.flatMap_append, List.append_assoc, frontReads, backReads,
    map_map_eq, List.length_append, ← Nat.add_assoc, joined]

/-- What holds of all parts holds of the whole. -/
theorem flatMap
    {Part : Type}
    {parts : List Part}
    {written : Part → List Char}
    {plain : Part → List UInt8}
    (eachReads : ∀ part ∈ parts, ReadsAs (written part) (plain part)) :
    ReadsAs (parts.flatMap written) (parts.flatMap plain) := by
  induction parts with
  | nil =>
      exact nil
  | cons part parts inductionHypothesis =>
      rw [List.flatMap_cons, List.flatMap_cons]
      exact
        (eachReads part List.mem_cons_self).append
          (inductionHypothesis fun other isIn =>
            eachReads other (List.mem_cons_of_mem _ isIn))

/-- Characters other than the percent sign read as themselves. -/
theorem literal
    {chars : List Char}
    (noPercent : '%' ∉ chars) :
    ReadsAs chars (chars.flatMap String.utf8EncodeChar) := by
  intro offset rest
  have absent : 0x25 ∉ chars.flatMap String.utf8EncodeChar := by
    rw [← bytes_ofList, percent_mem_bytes_iff, String.toList_ofList]
    exact noPercent
  generalize chars.flatMap String.utf8EncodeChar = plain at absent
  induction plain generalizing offset with
  | nil =>
      cases read : unescape offset rest <;> simp [read, Except.map]
  | cons byte plain inductionHypothesis =>
      rw [List.mem_cons, not_or] at absent
      rw [List.cons_append, unescape_cons_of_ne offset (Ne.symm absent.1),
        inductionHypothesis (offset + 1) absent.2, map_map_eq,
        List.length_cons, Nat.add_assoc offset, Nat.add_comm 1]
      rfl

end ReadsAs

/-- A hexadecimal digit is an ASCII character. -/
theorem toNat_lt_of_isDigit
    {char : Char}
    (isDigit : (hexValue? char).isSome = true) :
    char.toNat < 128 := by
  unfold hexValue? at isDigit
  split at isDigit
  · rename_i inRange
    have atMost : char.toNat ≤ 57 := inRange.2
    omega
  · split at isDigit
    · rename_i inRange
      have atMost : char.toNat ≤ 102 := inRange.2
      omega
    · split at isDigit
      · rename_i inRange
        have atMost : char.toNat ≤ 70 := inRange.2
        omega
      · cases isDigit

theorem exists_code
    {char : Char}
    (isAscii : char.toNat < 128) :
    ∃ code < 128, Char.ofNat code = char :=
  ⟨char.toNat, isAscii, Char.ofNat_toNat char⟩

/-- No hexadecimal digit is worth sixteen. -/
theorem lt_of_hexValue?
    {char : Char}
    {value : Nat}
    (isDigit : hexValue? char = some value) :
    value < 16 := by
  have ofCode :
      ∀ code < 128, (hexValue? (Char.ofNat code)).getD 0 < 16 := by
    decide +kernel
  obtain ⟨code, isAscii, rfl⟩ :=
    exists_code (toNat_lt_of_isDigit (Option.isSome_of_eq_some isDigit))
  have below := ofCode code isAscii
  rwa [isDigit] at below

/-- The hexadecimal digits in the order of their values, small and capital. -/
def hexDigits : List (List Char) :=
  ["0123456789abcdef".toList, "0123456789ABCDEF".toList]

/-- The value of a hexadecimal digit is its place among the digits. -/
theorem hexValue?_eq_some_iff
    {char : Char}
    {value : Nat} :
    hexValue? char = some value ↔
      ∃ digits ∈ hexDigits, digits[value]? = some char := by
  -- Both sides hold of ASCII characters and values below sixteen alone.
  have ofCode :
      ∀ code < 128, ∀ value < 16,
        hexValue? (Char.ofNat code) = some value ↔
          ∃ digits ∈ hexDigits, digits[value]? = some (Char.ofNat code) := by
    decide +kernel
  have sixteen : ∀ digits ∈ hexDigits, digits.length = 16 := by
    decide
  have areAscii :
      ∀ digits ∈ hexDigits, digits.all (·.toNat < 128) = true := by
    decide
  constructor
  · intro isDigit
    obtain ⟨code, isAscii, rfl⟩ :=
      exists_code (toNat_lt_of_isDigit (Option.isSome_of_eq_some isDigit))
    exact (ofCode code isAscii value (lt_of_hexValue? isDigit)).mp isDigit
  · rintro ⟨digits, isTable, isPlace⟩
    obtain ⟨isBelow, isChar⟩ := List.getElem?_eq_some_iff.mp isPlace
    have isAscii : char.toNat < 128 := by
      rw [← isChar]
      exact of_decide_eq_true
        (List.all_eq_true.mp (areAscii digits isTable) _ (List.getElem_mem isBelow))
    have isValue : value < 16 := by
      rwa [sixteen digits isTable] at isBelow
    obtain ⟨code, isCode, rfl⟩ := exists_code isAscii
    exact (ofCode code isCode value isValue).mpr ⟨digits, isTable, isPlace⟩

/-- A hexadecimal digit is one byte, which has its value. -/
theorem isDigit_spec
    {char : Char}
    (isDigit : (hexValue? char).isSome = true) :
    String.utf8EncodeChar char = [UInt8.ofNat char.toNat] ∧
      hexByte? (UInt8.ofNat char.toNat) =
        some ((hexValue? char).get isDigit) := by
  have isAscii := toNat_lt_of_isDigit isDigit
  have isByte : (UInt8.ofNat char.toNat).toNat = char.toNat := by
    rw [UInt8.toNat_ofNat']
    omega
  constructor
  · have encoded := utf8EncodeChar_ofNat isAscii
    rwa [Char.ofNat_toNat] at encoded
  · rw [hexByte?, isByte, Char.ofNat_toNat, Option.some_get]

/-- An escape is read as its one byte. -/
theorem ReadsAs.escape
    (escape : Escape) :
    ReadsAs escape.written [escape.byte] := by
  intro offset rest
  obtain ⟨highEncoded, highByte⟩ := isDigit_spec escape.highIsDigit
  obtain ⟨lowEncoded, lowByte⟩ := isDigit_spec escape.lowIsDigit
  have encoded :
      escape.written.flatMap String.utf8EncodeChar =
        [0x25, UInt8.ofNat escape.high.toNat,
          UInt8.ofNat escape.low.toNat] := by
    have percent : String.utf8EncodeChar '%' = [0x25] := by
      decide
    simp only [Escape.written, List.flatMap_cons, List.flatMap_nil, percent,
      highEncoded, lowEncoded, List.cons_append, List.nil_append]
  rw [encoded]
  simp only [List.cons_append, List.nil_append, unescape, if_true, highByte,
    lowByte, List.length_cons, List.length_nil, Escape.byte]

/-- A proper piece is read as the bytes that it stands for. -/
theorem ReadsAs.piece
    {piece : Piece}
    (proper : piece.Proper) :
    ReadsAs piece.written piece.plain := by
  cases piece with
  | literal chars =>
      exact ReadsAs.literal proper.2
  | run escapes =>
      have eachReads := ReadsAs.flatMap fun escape (_ : escape ∈ escapes) =>
        ReadsAs.escape escape
      rwa [← List.map_eq_flatMap] at eachReads

/-- What is left of a text without faults are the bytes of its pieces. -/
theorem Cuts.readsAs
    {text : List Char}
    {pieces : List Piece}
    (cuts : Cuts text pieces) :
    ReadsAs text (pieces.flatMap Piece.plain) := by
  rw [← cuts.joined]
  exact ReadsAs.flatMap fun piece isIn => ReadsAs.piece (cuts.proper piece isIn)

/-- A piece says the same, whatever is read behind it. -/
theorem Piece.ofBytes?_append_eq_some_iff
    {piece : Piece}
    {rest : List UInt8}
    {text : String}
    (beginsAnew : piece.isRun = true → BeginsAnew rest) :
    ofBytes? (piece.plain ++ rest) = some text ↔
      ∃ left right,
        piece.text? = some left ∧
          ofBytes? rest = some right ∧
          text = left ++ right := by
  cases piece with
  | literal chars =>
      rw [plain, ofBytes?_chars_append_eq_some_iff]
      constructor
      · rintro ⟨right, restRead, isJoined⟩
        exact ⟨String.ofList chars, right, rfl, restRead, isJoined⟩
      · rintro ⟨left, right, isLeft, restRead, isJoined⟩
        cases isLeft
        exact ⟨right, restRead, isJoined⟩
  | run escapes =>
      exact Text.ofBytes?_append_eq_some_iff (beginsAnew rfl)

/-- Behind a run of escapes a character begins, or the text ends. -/
theorem Cuts.beginsAnew
    {text : List Char}
    {piece : Piece}
    {pieces : List Piece}
    (cuts : Cuts text (piece :: pieces))
    (isRun : piece.isRun = true) :
    BeginsAnew (pieces.flatMap Piece.plain) := by
  cases pieces with
  | nil =>
      exact trivial
  | cons next pieces =>
      have different : piece.isRun ≠ next.isRun :=
        (List.isChain_cons_cons.mp cuts.maximal).1
      cases next with
      | literal chars =>
          have notNil := cuts.tail.head_proper.1
          cases chars with
          | nil =>
              exact absurd rfl notNil
          | cons char chars =>
              simp only [List.flatMap_cons, Piece.plain, List.append_assoc]
              exact beginsAnew_utf8EncodeChar char _
      | run escapes =>
          exact absurd isRun different

/-- The bytes of all pieces are a text iff those of each are one by themselves. -/
theorem Cuts.ofBytes?_eq_some_iff
    {text : List Char}
    {pieces : List Piece}
    {decoded : String}
    (cuts : Cuts text pieces) :
    ofBytes? (pieces.flatMap Piece.plain) = some decoded ↔
      ∃ texts,
        List.Forall₂ (fun piece part => piece.text? = some part) pieces texts ∧
          decoded = String.join texts := by
  obtain rfl := cuts.joined
  induction pieces generalizing decoded with
  | nil =>
      simp only [List.flatMap_nil, List.forall₂_nil_left_iff, exists_eq_left,
        Text.ofBytes?_eq_some_iff, bytes_eq_nil]
      rfl
  | cons piece pieces inductionHypothesis =>
      rw [List.flatMap_cons,
        Piece.ofBytes?_append_eq_some_iff cuts.beginsAnew]
      constructor
      · rintro ⟨left, right, isLeft, restRead, rfl⟩
        obtain ⟨texts, areTexts, rfl⟩ :=
          (inductionHypothesis cuts.tail).mp restRead
        exact ⟨left :: texts, .cons isLeft areTexts, String.join_cons.symm⟩
      · rintro ⟨texts, areTexts, rfl⟩
        obtain ⟨left, others, isLeft, restAreTexts, rfl⟩ :=
          List.forall₂_cons_left_iff.mp areTexts
        refine ⟨left, String.join others, isLeft, ?_, String.join_cons⟩
        exact (inductionHypothesis cuts.tail).mpr ⟨others, restAreTexts, rfl⟩

/-! ## Faults -/

/-- What is wrong with a percent sign between these characters. -/
def faultBetween (front back : List Char) : Fault :=
  if (bytes (String.ofList back)).length < 2 then
    .truncated (bytes (String.ofList front)).length
  else
    .notHexadecimal (bytes (String.ofList front)).length

/-- A byte that is a hexadecimal digit is a character by itself. -/
theorem exists_digit_of_hexByte?
    {chars : List Char}
    {byte : UInt8}
    {rest : List UInt8}
    {value : Nat}
    (isDigit : hexByte? byte = some value)
    (written : chars.flatMap String.utf8EncodeChar = byte :: rest) :
    ∃ char others,
      chars = char :: others ∧
        (hexValue? char).isSome = true ∧
        others.flatMap String.utf8EncodeChar = rest := by
  have charIsDigit : (hexValue? (Char.ofNat byte.toNat)).isSome = true :=
    Option.isSome_of_eq_some isDigit
  have encoded := (isDigit_spec charIsDigit).1
  have isByte : UInt8.ofNat (Char.ofNat byte.toNat).toNat = byte := by
    have all :
        ∀ value < 256, (Char.ofNat value).toNat = value := by
      decide +kernel
    rw [all byte.toNat byte.toNat_lt, UInt8.ofNat_toNat]
  rw [isByte] at encoded
  cases chars with
  | nil =>
      cases written
  | cons char others =>
      rw [List.flatMap_cons, ← List.singleton_append, ← encoded] at written
      obtain ⟨rfl, isRest⟩ := utf8EncodeChar_append_inj written
      exact ⟨_, others, rfl, charIsDigit, isRest⟩

/-- A percent sign without two digits behind it stops the reading there. -/
theorem unescape_of_fault
    (offset : Nat)
    {back : List Char}
    (isFault : ¬ StartsWithDigits back) :
    unescape offset (0x25 :: back.flatMap String.utf8EncodeChar) =
      .error
        (if (back.flatMap String.utf8EncodeChar).length < 2 then
          .truncated offset
        else
          .notHexadecimal offset) := by
  cases written : back.flatMap String.utf8EncodeChar with
  | nil =>
      rfl
  | cons high rest =>
      cases rest with
      | nil =>
          rfl
      | cons low rest =>
          rw [if_neg (by simp), unescape, if_pos rfl]
          split
          · rename_i highValue lowValue highIsDigit lowIsDigit
            obtain ⟨highChar, others, rfl, isHigh, restWritten⟩ :=
              exists_digit_of_hexByte? highIsDigit written
            obtain ⟨lowChar, behind, rfl, isLow, -⟩ :=
              exists_digit_of_hexByte? lowIsDigit restWritten
            exact
              absurd ⟨highChar, lowChar, behind, rfl, isHigh, isLow⟩ isFault
          · rfl

/-! ## Whole texts -/

/-- A text cut into pieces is decoded when all their bytes together are UTF-8. -/
theorem decode_of_cuts
    {text : String}
    {pieces : List Piece}
    (cuts : Cuts text.toList pieces) :
    decode text =
      match ofBytes? (pieces.flatMap Piece.plain) with
      | some decoded => .ok decoded
      | none => .error .notUtf8 := by
  have read := cuts.readsAs 0 []
  rw [List.append_nil, ← bytes_eq_flatMap] at read
  rw [unescape, Except.map, List.append_nil] at read
  cases isText : ofBytes? (pieces.flatMap Piece.plain) with
  | none =>
      simp only [decode, read, isText]
  | some decoded =>
      simp only [decode, read, isText]

/-- A text is refused for its first percent sign that is no escape. -/
theorem decode_of_firstFault
    {text : String}
    {front back : List Char}
    (first : FirstFault text.toList front back) :
    decode text = .error (faultBetween front back) := by
  obtain ⟨isText, before, isFault⟩ := first
  obtain ⟨pieces, cuts⟩ := exists_cuts before
  have percent : String.utf8EncodeChar '%' = [0x25] := by
    decide
  have written :
      bytes text =
        front.flatMap String.utf8EncodeChar ++
          0x25 :: back.flatMap String.utf8EncodeChar := by
    rw [bytes_eq_flatMap, isText, List.flatMap_append, List.flatMap_cons,
      percent]
    rfl
  rw [decode, written, cuts.readsAs, unescape_of_fault _ isFault,
    Nat.zero_add, faultBetween, bytes_ofList, bytes_ofList]
  rfl

/-- A text is read iff all its percent signs begin escapes and each run is UTF-8. -/
theorem decode_eq_ok_iff
    {text decoded : String} :
    decode text = .ok decoded ↔
      WellEscaped text.toList ∧
        ∃ pieces texts,
          Cuts text.toList pieces ∧
            List.Forall₂ (fun piece part => piece.text? = some part)
              pieces texts ∧
            decoded = String.join texts := by
  constructor
  · intro isRead
    by_cases wellEscaped : WellEscaped text.toList
    · obtain ⟨pieces, cuts⟩ := exists_cuts wellEscaped
      rw [decode_of_cuts cuts] at isRead
      split at isRead
      · rename_i found isText
        cases isRead
        obtain ⟨texts, areTexts, isJoined⟩ := cuts.ofBytes?_eq_some_iff.mp isText
        exact ⟨wellEscaped, pieces, texts, cuts, areTexts, isJoined⟩
      · cases isRead
    · obtain ⟨front, back, first⟩ := exists_firstFault wellEscaped
      rw [decode_of_firstFault first] at isRead
      cases isRead
  · rintro ⟨-, pieces, texts, cuts, areTexts, isJoined⟩
    have isText := cuts.ofBytes?_eq_some_iff.mpr ⟨texts, areTexts, isJoined⟩
    rw [decode_of_cuts cuts, isText]

/-- Each piece says something by itself exactly when none of them says nothing. -/
theorem exists_texts_iff
    {pieces : List Piece} :
    (∃ texts,
        List.Forall₂ (fun piece part => piece.text? = some part)
          pieces texts) ↔
      ∀ piece ∈ pieces, piece.text? ≠ none := by
  induction pieces with
  | nil =>
      simp
  | cons piece pieces inductionHypothesis =>
      rw [List.forall_mem_cons, ← inductionHypothesis,
        Option.ne_none_iff_exists']
      simp only [List.forall₂_cons_left_iff]
      constructor
      · rintro ⟨_, part, parts, isPart, areParts, -⟩
        exact ⟨⟨part, isPart⟩, parts, areParts⟩
      · rintro ⟨⟨part, isPart⟩, parts, areParts⟩
        exact ⟨part :: parts, part, parts, isPart, areParts, rfl⟩

/-- The first fault is reported, and bytes that are no UTF-8 if there is none. -/
theorem decode_eq_error_iff
    {text : String}
    {fault : Fault} :
    decode text = .error fault ↔
      (∃ front back,
        FirstFault text.toList front back ∧
          fault = faultBetween front back) ∨
        (fault = .notUtf8 ∧
          ∃ pieces,
            Cuts text.toList pieces ∧
              ∃ piece ∈ pieces, piece.text? = none) := by
  constructor
  · intro isRefused
    by_cases wellEscaped : WellEscaped text.toList
    · right
      obtain ⟨pieces, cuts⟩ := exists_cuts wellEscaped
      rw [decode_of_cuts cuts] at isRefused
      split at isRefused
      · cases isRefused
      · rename_i noText
        cases isRefused
        refine ⟨rfl, pieces, cuts, ?_⟩
        by_contra allTexts
        obtain ⟨texts, areTexts⟩ :=
          exists_texts_iff.mpr fun piece isIn isNone =>
            allTexts ⟨piece, isIn, isNone⟩
        have isText := cuts.ofBytes?_eq_some_iff.mpr ⟨texts, areTexts, rfl⟩
        rw [noText] at isText
        cases isText
    · left
      obtain ⟨front, back, first⟩ := exists_firstFault wellEscaped
      rw [decode_of_firstFault first] at isRefused
      cases isRefused
      exact ⟨front, back, first, rfl⟩
  · rintro (⟨front, back, first, rfl⟩ | ⟨rfl, pieces, cuts, piece, isIn, isNone⟩)
    · exact decode_of_firstFault first
    · rw [decode_of_cuts cuts]
      cases isText : ofBytes? (pieces.flatMap Piece.plain) with
      | none =>
          rfl
      | some decoded =>
          obtain ⟨texts, areTexts, -⟩ := cuts.ofBytes?_eq_some_iff.mp isText
          exact
            absurd isNone (exists_texts_iff.mp ⟨texts, areTexts⟩ piece isIn)

/--
A text is cut in one way into characters that stand for themselves and runs of
escapes, if every percent sign in it has two hexadecimal digits behind it. It is
read exactly if it is cut so and the bytes of each run are UTF-8 by themselves,
and then as its pieces one after the other. Every other text is malformed: at the
first percent sign without two digits, or, if there is none, in one of its runs.
The digits are those from 0 to 9 and the letters from a to f, small or capital,
and the value of each is its place among them.
-/
theorem decodes_run_by_run
    (text : String) :
    (WellEscaped text.toList ↔ ∃! pieces, Cuts text.toList pieces) ∧
      (∀ decoded,
        decode text = .ok decoded ↔
          WellEscaped text.toList ∧
            ∃ pieces texts,
              Cuts text.toList pieces ∧
                List.Forall₂ (fun piece part => piece.text? = some part)
                  pieces texts ∧
                decoded = String.join texts) ∧
      (∀ fault,
        decode text = .error fault ↔
          (∃ front back,
            FirstFault text.toList front back ∧
              fault = faultBetween front back) ∨
            (fault = .notUtf8 ∧
              ∃ pieces,
                Cuts text.toList pieces ∧
                  ∃ piece ∈ pieces, piece.text? = none)) ∧
      (∀ fault,
        (Name.Fault.escape text fault).failure =
          .malformedName (fault.message text)) ∧
      ∀ char value,
        hexValue? char = some value ↔
          ∃ digits ∈ hexDigits, digits[value]? = some char := by
  refine
    ⟨?_, fun decoded => decode_eq_ok_iff, fun fault => decode_eq_error_iff,
      fun fault => rfl, fun char value => hexValue?_eq_some_iff⟩
  constructor
  · intro wellEscaped
    obtain ⟨pieces, cuts⟩ := exists_cuts wellEscaped
    exact ⟨pieces, cuts, fun others otherCuts => otherCuts.unique cuts⟩
  · rintro ⟨pieces, cuts, -⟩
    exact cuts.wellEscaped

/-- A space between two escapes keeps their bytes apart. -/
example :
    decode "%C3%A9" = .ok "é" ∧ decode "%C3 %A9" = .error .notUtf8 := by
  decide +kernel

end ResourceServer.Text.Percent
