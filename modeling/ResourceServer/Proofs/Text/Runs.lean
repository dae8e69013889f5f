import Mathlib.Data.List.Chain
import Mathlib.Data.List.Forall2
import ResourceServer.Text.Percent

namespace ResourceServer.Text.Percent

/-!
# Runs of escapes

A percent-encoded text is cut into characters that stand for themselves and
runs of escapes, each as long as it can be. A text whose percent signs all have
two hexadecimal digits behind them can be cut in just one way; any other has a
first percent sign that does not begin an escape.
-/

/-- A percent sign and two hexadecimal digits. -/
structure Escape where
  high : Char
  low : Char
  highIsDigit : (hexValue? high).isSome = true
  lowIsDigit : (hexValue? low).isSome = true

namespace Escape

/-- The escape as it stands in a text. -/
def written (escape : Escape) : List Char :=
  ['%', escape.high, escape.low]

/-- The byte that the escape stands for. -/
def byte (escape : Escape) : UInt8 :=
  UInt8.ofNat
    (16 * (hexValue? escape.high).get escape.highIsDigit +
      (hexValue? escape.low).get escape.lowIsDigit)

end Escape

/-- A part of a percent-encoded text. -/
inductive Piece where
  /-- Characters that stand for themselves. -/
  | literal (chars : List Char)
  /-- Escapes, each right behind the one before. -/
  | run (escapes : List Escape)

namespace Piece

def isRun : Piece → Bool
  | .literal _ => false
  | .run _ => true

/-- The piece as it stands in a text. -/
def written : Piece → List Char
  | .literal chars => chars
  | .run escapes => escapes.flatMap Escape.written

/-- There is something in the piece, and no percent sign outside of escapes. -/
def Proper : Piece → Prop
  | .literal chars => chars ≠ [] ∧ '%' ∉ chars
  | .run escapes => escapes ≠ []

/-- What the piece says by itself; nothing if its bytes are not UTF-8. -/
def text? : Piece → Option String
  | .literal chars => some (String.ofList chars)
  | .run escapes => ofBytes? (escapes.map Escape.byte)

/-- The bytes that the piece stands for. -/
def plain : Piece → List UInt8
  | .literal chars => chars.flatMap String.utf8EncodeChar
  | .run escapes => escapes.map Escape.byte

end Piece

/-- A text is cut into pieces, and neighbours are never of one kind. -/
structure Cuts
    (text : List Char)
    (pieces : List Piece) : Prop where
  joined : pieces.flatMap Piece.written = text
  proper : ∀ piece ∈ pieces, piece.Proper
  maximal : (pieces.map Piece.isRun).IsChain (· ≠ ·)

/-- Two hexadecimal digits stand at the beginning. -/
def StartsWithDigits (chars : List Char) : Prop :=
  ∃ high low rest,
    chars = high :: low :: rest ∧
      (hexValue? high).isSome = true ∧
      (hexValue? low).isSome = true

/-- Every percent sign has two hexadecimal digits behind it. -/
def WellEscaped (text : List Char) : Prop :=
  ∀ front back, text = front ++ '%' :: back → StartsWithDigits back

/-- The first percent sign that is no escape stands between these characters. -/
structure FirstFault (text front back : List Char) : Prop where
  isText : text = front ++ '%' :: back
  before : WellEscaped front
  isFault : ¬ StartsWithDigits back

/-! ## Texts from their beginning -/

/-- A text that is not empty begins with a character, an escape or a fault. -/
@[elab_as_elim]
theorem scan_induction
    {motive : List Char → Prop}
    (nil : motive [])
    (literal :
      ∀ char rest, char ≠ '%' → motive rest → motive (char :: rest))
    (escape :
      ∀ (escape : Escape) rest,
        motive rest → motive (escape.written ++ rest))
    (fault : ∀ back, ¬ StartsWithDigits back → motive ('%' :: back))
    (text : List Char) :
    motive text := by
  induction size : text.length using Nat.strong_induction_on
    generalizing text with
  | _ count inductionHypothesis =>
      cases text with
      | nil =>
          exact nil
      | cons char rest =>
          subst size
          by_cases isPercent : char = '%'
          · subst isPercent
            by_cases hasDigits : StartsWithDigits rest
            · obtain ⟨high, low, others, rfl, highIsDigit, lowIsDigit⟩ :=
                hasDigits
              refine escape ⟨high, low, highIsDigit, lowIsDigit⟩ others ?_
              exact inductionHypothesis others.length
                (by simp only [List.length_cons]; omega) others rfl
            · exact fault rest hasDigits
          · refine literal char rest isPercent ?_
            exact inductionHypothesis rest.length
              (Nat.lt_succ_self _) rest rfl

theorem percent_ne_of_isDigit
    {char : Char}
    (isDigit : (hexValue? char).isSome = true) :
    char ≠ '%' := by
  rintro rfl
  exact absurd isDigit (by decide)

theorem wellEscaped_nil : WellEscaped [] := by
  intro front back isText
  simp at isText

/-- A character other than the percent sign leaves a text well-escaped or not. -/
theorem wellEscaped_cons_iff
    {char : Char}
    {rest : List Char}
    (notPercent : char ≠ '%') :
    WellEscaped (char :: rest) ↔ WellEscaped rest := by
  constructor
  · intro wellEscaped front back isRest
    exact wellEscaped (char :: front) back (by rw [isRest]; rfl)
  · intro wellEscaped front back isText
    cases front with
    | nil =>
        exact absurd (List.cons.inj isText).1 notPercent
    | cons first front =>
        exact wellEscaped front back (List.cons.inj isText).2

/-- An escape at the beginning leaves a text well-escaped or not. -/
theorem wellEscaped_escape_iff
    (escape : Escape)
    {rest : List Char} :
    WellEscaped (escape.written ++ rest) ↔ WellEscaped rest := by
  have highPlain := percent_ne_of_isDigit escape.highIsDigit
  have lowPlain := percent_ne_of_isDigit escape.lowIsDigit
  have behind :
      WellEscaped (escape.high :: escape.low :: rest) ↔ WellEscaped rest := by
    rw [wellEscaped_cons_iff highPlain, wellEscaped_cons_iff lowPlain]
  rw [← behind]
  constructor
  · intro wellEscaped front back isRest
    exact wellEscaped ('%' :: front) back (congrArg (List.cons '%') isRest)
  · intro wellEscaped front back isText
    cases front with
    | nil =>
        obtain ⟨-, rfl⟩ := List.cons.inj isText
        exact
          ⟨escape.high, escape.low, rest, rfl, escape.highIsDigit,
            escape.lowIsDigit⟩
    | cons first front =>
        exact wellEscaped front back (List.cons.inj isText).2

/-- Among several faults in a text one is the first. -/
theorem exists_firstFault
    {text : List Char}
    (faulty : ¬ WellEscaped text) :
    ∃ front back, FirstFault text front back := by
  induction text using scan_induction with
  | nil =>
      exact absurd wellEscaped_nil faulty
  | literal char rest notPercent inductionHypothesis =>
      rw [wellEscaped_cons_iff notPercent] at faulty
      obtain ⟨front, back, isText, before, isFault⟩ :=
        inductionHypothesis faulty
      refine ⟨char :: front, back, ?_, ?_, isFault⟩
      · rw [isText]
        rfl
      · exact (wellEscaped_cons_iff notPercent).mpr before
  | escape escape rest inductionHypothesis =>
      rw [wellEscaped_escape_iff] at faulty
      obtain ⟨front, back, isText, before, isFault⟩ :=
        inductionHypothesis faulty
      refine ⟨escape.written ++ front, back, ?_, ?_, isFault⟩
      · rw [isText, List.append_assoc]
      · exact (wellEscaped_escape_iff escape).mpr before
  | fault back isFault =>
      exact ⟨[], back, rfl, wellEscaped_nil, isFault⟩

/-! ## Cutting a text -/

namespace Piece

/-- A proper piece is written with at least one character. -/
theorem written_ne_nil
    {piece : Piece}
    (proper : piece.Proper) :
    piece.written ≠ [] := by
  cases piece with
  | literal chars =>
      exact proper.1
  | run escapes =>
      cases escapes with
      | nil =>
          exact absurd rfl proper
      | cons escape rest =>
          simp [written, Escape.written]

/-- A proper piece at the beginning leaves a text well-escaped or not. -/
theorem wellEscaped_written_iff
    {piece : Piece}
    (proper : piece.Proper)
    {rest : List Char} :
    WellEscaped (piece.written ++ rest) ↔ WellEscaped rest := by
  cases piece with
  | literal chars =>
      have noPercent := proper.2
      show WellEscaped (chars ++ rest) ↔ _
      clear proper
      induction chars with
      | nil =>
          rfl
      | cons char chars inductionHypothesis =>
          rw [List.mem_cons, not_or] at noPercent
          rw [List.cons_append, wellEscaped_cons_iff (Ne.symm noPercent.1),
            inductionHypothesis noPercent.2]
  | run escapes =>
      show WellEscaped (escapes.flatMap Escape.written ++ rest) ↔ _
      clear proper
      induction escapes with
      | nil =>
          rfl
      | cons escape escapes inductionHypothesis =>
          rw [List.flatMap_cons, List.append_assoc, wellEscaped_escape_iff,
            inductionHypothesis]

/-- Two pieces of one kind make up one piece. -/
theorem exists_merged
    {piece next : Piece}
    (proper : piece.Proper)
    (nextProper : next.Proper)
    (sameKind : piece.isRun = next.isRun) :
    ∃ whole : Piece,
      whole.Proper ∧
        whole.isRun = next.isRun ∧
        whole.written = piece.written ++ next.written := by
  cases piece with
  | literal chars =>
      cases next with
      | literal others =>
          refine ⟨.literal (chars ++ others), ⟨?_, ?_⟩, rfl, rfl⟩
          · simp [proper.1]
          · simp [proper.2, nextProper.2]
      | run escapes =>
          cases sameKind
  | run escapes =>
      cases next with
      | literal chars =>
          cases sameKind
      | run others =>
          refine ⟨.run (escapes ++ others), ?_, rfl, List.flatMap_append⟩
          intro isNil
          exact proper (List.append_eq_nil_iff.mp isNil).1

end Piece

namespace Cuts

variable
  {text : List Char}
  {piece : Piece}
  {pieces : List Piece}

theorem nil : Cuts [] [] where
  joined := rfl
  proper := fun _ isIn => absurd isIn List.not_mem_nil
  maximal := .nil

theorem head_proper
    (cuts : Cuts text (piece :: pieces)) :
    piece.Proper :=
  cuts.proper piece List.mem_cons_self

theorem tail
    (cuts : Cuts text (piece :: pieces)) :
    Cuts (pieces.flatMap Piece.written) pieces where
  joined := rfl
  proper := fun other isIn => cuts.proper other (List.mem_cons_of_mem _ isIn)
  maximal := cuts.maximal.tail

/-- A text that can be cut into pieces is well-escaped. -/
theorem wellEscaped
    (cuts : Cuts text pieces) :
    WellEscaped text := by
  obtain rfl := cuts.joined
  induction pieces with
  | nil =>
      exact wellEscaped_nil
  | cons piece pieces inductionHypothesis =>
      rw [List.flatMap_cons, Piece.wellEscaped_written_iff cuts.head_proper]
      exact inductionHypothesis cuts.tail

/-- A piece in front of a text joins the first piece if that is of its kind. -/
theorem prepend
    (proper : piece.Proper)
    (cuts : Cuts text pieces) :
    ∃ others, Cuts (piece.written ++ text) others := by
  obtain rfl := cuts.joined
  cases pieces with
  | nil =>
      refine ⟨[piece], List.flatMap_cons, ?_, .singleton _⟩
      intro other isIn
      rwa [List.mem_singleton.mp isIn]
  | cons next pieces =>
      by_cases sameKind : piece.isRun = next.isRun
      · -- The whole piece is of the kind of both, so the chain is the same.
        obtain ⟨whole, wholeProper, wholeKind, wholeWritten⟩ :=
          Piece.exists_merged proper cuts.head_proper sameKind
        refine ⟨whole :: pieces, ?_, ?_, ?_⟩
        · rw [List.flatMap_cons, List.flatMap_cons, wholeWritten,
            List.append_assoc]
        · intro other isIn
          rcases List.mem_cons.mp isIn with rfl | isLater
          · exact wholeProper
          · exact cuts.tail.proper other isLater
        · have chain := cuts.maximal
          rwa [List.map_cons, ← wholeKind, ← List.map_cons] at chain
      · refine ⟨piece :: next :: pieces, List.flatMap_cons, ?_, ?_⟩
        · intro other isIn
          rcases List.mem_cons.mp isIn with rfl | isLater
          · exact proper
          · exact cuts.proper other isLater
        · exact .cons_cons sameKind cuts.maximal

end Cuts

/-- A text whose percent signs all begin escapes can be cut. -/
theorem exists_cuts
    {text : List Char}
    (wellEscaped : WellEscaped text) :
    ∃ pieces, Cuts text pieces := by
  induction text using scan_induction with
  | nil =>
      exact ⟨[], Cuts.nil⟩
  | literal char rest notPercent inductionHypothesis =>
      rw [wellEscaped_cons_iff notPercent] at wellEscaped
      obtain ⟨pieces, cuts⟩ := inductionHypothesis wellEscaped
      have proper : (Piece.literal [char]).Proper :=
        ⟨List.cons_ne_nil _ _, by simpa using Ne.symm notPercent⟩
      exact cuts.prepend proper
  | escape escape rest inductionHypothesis =>
      rw [wellEscaped_escape_iff] at wellEscaped
      obtain ⟨pieces, cuts⟩ := inductionHypothesis wellEscaped
      have proper : (Piece.run [escape]).Proper := List.cons_ne_nil _ _
      exact cuts.prepend proper
  | fault back isFault =>
      exact absurd (wellEscaped [] back rfl) isFault

namespace Piece

/-- The text goes on behind the piece with what is not of its kind. -/
def EndsBefore
    (piece : Piece)
    (rest : List Char) : Prop :=
  ∀ char ∈ rest.head?, char = '%' ↔ piece.isRun = false

/-- Just the runs begin with a percent sign. -/
theorem exists_head_written
    {piece : Piece}
    (proper : piece.Proper)
    (rest : List Char) :
    ∃ char,
      (piece.written ++ rest).head? = some char ∧
        (char = '%' ↔ piece.isRun = true) := by
  cases piece with
  | literal chars =>
      obtain ⟨notNil, noPercent⟩ := proper
      cases chars with
      | nil =>
          exact absurd rfl notNil
      | cons char chars =>
          refine ⟨char, rfl, ?_⟩
          rw [List.mem_cons, not_or] at noPercent
          simp [isRun, Ne.symm noPercent.1]
  | run escapes =>
      cases escapes with
      | nil =>
          exact absurd rfl proper
      | cons escape escapes =>
          exact ⟨'%', rfl, by simp [isRun]⟩

/-- A literal piece ends at the first percent sign. -/
theorem takeWhile_literal
    {chars rest : List Char}
    (noPercent : '%' ∉ chars)
    (ends : (Piece.literal chars).EndsBefore rest) :
    (chars ++ rest).takeWhile (· != '%') = chars := by
  have restStops : rest.takeWhile (· != '%') = [] := by
    cases rest with
    | nil =>
        rfl
    | cons char rest =>
        have isPercent : char = '%' := (ends char rfl).mpr rfl
        simp [isPercent]
  rw [List.takeWhile_append_of_pos, restStops, List.append_nil]
  intro char isIn
  rw [bne_iff_ne]
  rintro rfl
  exact noPercent isIn

/-- A run of escapes ends where no percent sign follows. -/
theorem EndsBefore.head?_ne_percent
    {escapes : List Escape}
    {rest : List Char}
    (ends : (Piece.run escapes).EndsBefore rest) :
    rest.head? ≠ some '%' := by
  intro isPercent
  cases (ends '%' isPercent).mp rfl

/-- The shorter of two runs would be followed by an escape of the longer one. -/
theorem run_append_inj
    {escapes others : List Escape}
    {rest following : List Char}
    (ends : rest.head? ≠ some '%')
    (otherEnds : following.head? ≠ some '%')
    (sameText :
      escapes.flatMap Escape.written ++ rest =
        others.flatMap Escape.written ++ following) :
    escapes = others := by
  induction escapes generalizing others with
  | nil =>
      cases others with
      | nil =>
          rfl
      | cons other others =>
          rw [List.flatMap_nil, List.nil_append] at sameText
          rw [sameText] at ends
          exact absurd rfl ends
  | cons escape escapes inductionHypothesis =>
      cases others with
      | nil =>
          rw [List.flatMap_nil, List.nil_append] at sameText
          rw [← sameText] at otherEnds
          exact absurd rfl otherEnds
      | cons other others =>
          obtain ⟨high, low, _, _⟩ := escape
          obtain ⟨otherHigh, otherLow, _, _⟩ := other
          simp only [List.flatMap_cons, Escape.written, List.cons_append,
            List.nil_append, List.cons.injEq, true_and] at sameText
          obtain ⟨rfl, rfl, sameRest⟩ := sameText
          rw [inductionHypothesis sameRest]

/-- A text shows which piece it begins with. -/
theorem written_append_inj
    {piece other : Piece}
    {rest following : List Char}
    (proper : piece.Proper)
    (otherProper : other.Proper)
    (ends : piece.EndsBefore rest)
    (otherEnds : other.EndsBefore following)
    (sameText : piece.written ++ rest = other.written ++ following) :
    piece = other := by
  have sameKind : piece.isRun = true ↔ other.isRun = true := by
    obtain ⟨char, isHead, kind⟩ := exists_head_written proper rest
    obtain ⟨otherChar, isOtherHead, otherKind⟩ :=
      exists_head_written otherProper following
    rw [sameText, isOtherHead, Option.some.injEq] at isHead
    subst isHead
    exact kind.symm.trans otherKind
  cases piece with
  | literal chars =>
      cases other with
      | literal others =>
          have isFirst := takeWhile_literal proper.2 ends
          have isOther := takeWhile_literal otherProper.2 otherEnds
          simp only [written] at sameText
          rw [← isFirst, sameText, isOther]
      | run others =>
          exact absurd (sameKind.mpr rfl) Bool.false_ne_true
  | run escapes =>
      cases other with
      | literal others =>
          exact absurd (sameKind.mp rfl) Bool.false_ne_true
      | run others =>
          rw [run_append_inj ends.head?_ne_percent otherEnds.head?_ne_percent
            sameText]

end Piece

namespace Cuts

variable
  {text : List Char}
  {piece : Piece}
  {pieces others : List Piece}

/-- The first piece ends before the second begins. -/
theorem head_endsBefore
    (cuts : Cuts text (piece :: pieces)) :
    piece.EndsBefore (pieces.flatMap Piece.written) := by
  cases pieces with
  | nil =>
      intro char isHead
      cases isHead
  | cons next pieces =>
      intro char isHead
      have different : piece.isRun ≠ next.isRun :=
        (List.isChain_cons_cons.mp cuts.maximal).1
      obtain ⟨first, isFirst, kind⟩ :=
        Piece.exists_head_written cuts.tail.head_proper
          (pieces.flatMap Piece.written)
      rw [List.flatMap_cons, isFirst, Option.mem_some_iff] at isHead
      subst isHead
      rw [kind, Bool.eq_not.mpr different, Bool.not_eq_false']

/-- There is but one way to cut a text. -/
theorem unique
    (cuts : Cuts text pieces)
    (otherCuts : Cuts text others) :
    pieces = others := by
  obtain rfl := cuts.joined
  have sameText := otherCuts.joined
  induction pieces generalizing others with
  | nil =>
      cases others with
      | nil =>
          rfl
      | cons other others =>
          rw [List.flatMap_cons, List.flatMap_nil, List.append_eq_nil_iff]
            at sameText
          exact
            absurd sameText.1 (Piece.written_ne_nil otherCuts.head_proper)
  | cons piece pieces inductionHypothesis =>
      cases others with
      | nil =>
          rw [List.flatMap_cons, List.flatMap_nil, eq_comm,
            List.append_eq_nil_iff] at sameText
          exact absurd sameText.1 (Piece.written_ne_nil cuts.head_proper)
      | cons other others =>
          rw [List.flatMap_cons, List.flatMap_cons] at sameText
          obtain rfl :=
            Piece.written_append_inj otherCuts.head_proper cuts.head_proper
              otherCuts.head_endsBefore cuts.head_endsBefore sameText
          have sameRest := List.append_cancel_left sameText
          have otherTail := otherCuts.tail
          rw [sameRest] at otherTail
          rw [inductionHypothesis cuts.tail otherTail sameRest]

end Cuts

end ResourceServer.Text.Percent
