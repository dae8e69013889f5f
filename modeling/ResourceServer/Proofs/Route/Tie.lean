import ResourceServer.Proofs.Route.Display
import ResourceServer.Proofs.Route.OnlyRoute

namespace ResourceServer

/-!
# Ties between matchers

Two matchers that fit one name are equally good if nothing tells them apart:
they cover as much, have their literals at the same places and are of one mode.
As the literals stand for the same element of the name, they agree as well, so
the matchers differ in what they call their variables alone. Then they fit the
same names, and neither is ever better.
-/

/-- Segments that stand for the same elements. -/
inductive Segment.Alike : Segment → Segment → Prop where
  | literal
      {left right : String}
      (sameFold : Text.fold left = Text.fold right) :
      Alike (.literal left) (.literal right)
  | placeholder
      (left right : String) :
      Alike (.placeholder left) (.placeholder right)

theorem Segment.Alike.accepts_eq
    {left right : Segment}
    (alike : left.Alike right)
    (element : String) :
    left.accepts element = right.accepts element := by
  cases alike with
  | literal sameFold =>
      simp only [Segment.accepts, Text.sameFold, sameFold]
  | placeholder =>
      rfl

theorem Segment.Alike.isLiteral_eq
    {left right : Segment}
    (alike : left.Alike right) :
    left.isLiteral = right.isLiteral := by
  cases alike <;> rfl

/-- What a segment says is an element that it stands for. -/
theorem Segment.accepts_text
    (segment : Segment) :
    segment.accepts segment.text = true := by
  cases segment with
  | literal text =>
      exact beq_iff_eq.mpr rfl
  | placeholder name =>
      rfl

namespace Matcher

/--
Matchers of one mode whose segments are as many and alike, place by place: two
variables, or two literals that are the same but for the case of letters.
-/
structure SameShape (left right : Matcher) : Prop where
  sameMode : left.mode = right.mode
  alike :
    List.Forall₂ Segment.Alike left.template.segments right.template.segments

/-! ## Ties -/

/-- Two literals, or two variables, that stand for one element stand for the same. -/
theorem alike_of_accepts
    {left right : Segment}
    {element : String}
    (sameKind : left.isLiteral = right.isLiteral)
    (leftAccepts : left.accepts element = true)
    (rightAccepts : right.accepts element = true) :
    left.Alike right := by
  cases left with
  | literal text =>
      cases right with
      | literal other =>
          have leftFold := beq_iff_eq.mp leftAccepts
          have rightFold := beq_iff_eq.mp rightAccepts
          exact .literal (leftFold.trans rightFold.symm)
      | placeholder =>
          cases sameKind
  | placeholder =>
      cases right with
      | literal =>
          cases sameKind
      | placeholder =>
          exact .placeholder _ _

/-- Segments that accept the same elements and tie stand for the same elements. -/
theorem alike_of_tie
    {lefts rights : List Segment}
    {elements : List String}
    (tie : compareLiterals lefts rights = .eq)
    (sameLength : lefts.length = rights.length)
    (longEnough : lefts.length ≤ elements.length)
    (leftAccepted : acceptsAll lefts elements = true)
    (rightAccepted : acceptsAll rights elements = true) :
    List.Forall₂ Segment.Alike lefts rights := by
  induction lefts generalizing rights elements with
  | nil =>
      cases List.length_eq_zero_iff.mp sameLength.symm
      exact .nil
  | cons left lefts inductionHypothesis =>
      cases rights with
      | nil =>
          cases sameLength
      | cons right rights =>
          cases elements with
          | nil =>
              cases longEnough
          | cons element elements =>
              obtain ⟨leftAccepts, leftRest⟩ := Bool.and_eq_true_iff.mp leftAccepted
              obtain ⟨rightAccepts, rightRest⟩ :=
                Bool.and_eq_true_iff.mp rightAccepted
              unfold compareLiterals at tie
              split at tie
              · rename_i sameKind
                exact
                  .cons (alike_of_accepts sameKind leftAccepts rightAccepts)
                    (inductionHypothesis tie (Nat.succ.inj sameLength)
                      (Nat.le_of_succ_le_succ longEnough) leftRest rightRest)
              · -- A literal beside a variable settles the comparison.
                split at tie <;> cases tie

theorem acceptsAll_of_fits
    {matcher : Matcher}
    {name : Name}
    (fits : (matcher.fit? name).isSome = true) :
    matcher.template.size ≤ name.size ∧
      acceptsAll matcher.template.segments name.elements = true := by
  obtain ⟨sizeFits, accepted⟩ := isSome_fit?_iff.mp fits
  exact ⟨(sizeFits_iff.mp sizeFits).1, accepted⟩

theorem eq_of_compare_mode_rank
    {left right : Mode}
    (sameRank : compare left.rank right.rank = .eq) :
    left = right := by
  cases left <;> cases right <;> first | rfl | cases sameRank

/-- Matchers that fit one name and are as good have one mode and one shape. -/
theorem alike_of_rank_eq
    {left right : Matcher}
    {name : Name}
    (tie : left.rank right = .eq)
    (leftFits : (left.fit? name).isSome = true)
    (rightFits : (right.fit? name).isSome = true) :
    left.mode = right.mode ∧
      List.Forall₂ Segment.Alike left.template.segments
        right.template.segments := by
  obtain ⟨sameSize, sameRest⟩ := Ordering.then_eq_eq.mp tie
  obtain ⟨sameLiterals, sameRank⟩ := Ordering.then_eq_eq.mp sameRest
  obtain ⟨longEnough, leftAccepted⟩ := acceptsAll_of_fits leftFits
  obtain ⟨-, rightAccepted⟩ := acceptsAll_of_fits rightFits
  exact
    ⟨eq_of_compare_mode_rank sameRank,
      alike_of_tie sameLiterals (Nat.compare_eq_eq.mp sameSize) longEnough
        leftAccepted rightAccepted⟩

/-! ## Matchers of one shape -/

variable
  {lefts rights : List Segment}

/-- Alike segments stand for the same elements. -/
theorem acceptsAll_eq_of_alike
    (alike : List.Forall₂ Segment.Alike lefts rights)
    (elements : List String) :
    acceptsAll lefts elements = acceptsAll rights elements := by
  induction alike generalizing elements with
  | nil =>
      rfl
  | cons headAlike _ inductionHypothesis =>
      cases elements with
      | nil =>
          rfl
      | cons element elements =>
          rw [acceptsAll, acceptsAll, headAlike.accepts_eq,
            inductionHypothesis]

/-- Nowhere is one of two alike segments a literal and the other a variable. -/
theorem compareLiterals_of_alike
    (alike : List.Forall₂ Segment.Alike lefts rights) :
    compareLiterals lefts rights = .eq := by
  induction alike with
  | nil =>
      rfl
  | cons headAlike _ inductionHypothesis =>
      rw [compareLiterals, if_pos headAlike.isLiteral_eq, inductionHypothesis]

theorem acceptsAll_text
    (segments : List Segment) :
    acceptsAll segments (segments.map Segment.text) = true := by
  induction segments with
  | nil =>
      rfl
  | cons segment segments inductionHypothesis =>
      rw [List.map_cons, acceptsAll, segment.accepts_text, inductionHypothesis,
        Bool.and_self]

namespace SameShape

variable {left right : Matcher}

theorem sameSize
    (sameShape : left.SameShape right) :
    left.template.size = right.template.size :=
  sameShape.alike.length_eq

/-- Matchers of one shape fit the same names. -/
theorem accepts_iff
    (sameShape : left.SameShape right)
    (name : Name) :
    left.Accepts name ↔ right.Accepts name := by
  rw [Accepts, Accepts, sizeFits_iff, sizeFits_iff, sameShape.sameMode,
    sameShape.sameSize, acceptsAll_eq_of_alike sameShape.alike]

/-- Neither of two matchers of one shape is better. -/
theorem rank_eq
    (sameShape : left.SameShape right) :
    left.rank right = .eq := by
  rw [rank, sameShape.sameSize, compareLiterals_of_alike sameShape.alike,
    sameShape.sameMode, Nat.compare_eq_eq.mpr rfl, Nat.compare_eq_eq.mpr rfl]
  rfl

end SameShape

/-- The matcher of a pattern fits the name of what the segments say. -/
theorem exists_accepts_of_parse
    {mode : Mode}
    {pattern : String}
    {matcher : Matcher}
    (isParsed : parse mode pattern = .ok matcher) :
    ∃ name : Name, matcher.Accepts name := by
  obtain ⟨template, isTemplate, rfl⟩ := Name.map_eq_ok_iff.mp isParsed
  obtain ⟨-, unbraced⟩ := Template.elements_of_parse isTemplate
  have noneEmpty :
      ∀ element ∈ template.segments.map Segment.text, element ≠ "" := by
    intro element isIn
    obtain ⟨segment, isSegment, rfl⟩ := List.mem_map.mp isIn
    exact (unbraced segment isSegment).notEmpty
  let name : Name := ⟨template.segments.map Segment.text, noneEmpty⟩
  have sameSize : template.size = name.size :=
    (List.length_map Segment.text).symm
  have sizeFits : (Matcher.mk mode template).sizeFits name = true :=
    sizeFits_iff.mpr ⟨Nat.le_of_eq sameSize, fun _ => sameSize⟩
  exact ⟨name, sizeFits, acceptsAll_text template.segments⟩

/--
Two matchers tie for some name if and only if they are of one shape, and then
they fit the same names and tie for each of them. It is enough that one of them
is the matcher of a pattern.
-/
theorem tie_iff_sameShape
    {mode : Mode}
    {pattern : String}
    {left : Matcher}
    (isParsed : parse mode pattern = .ok left)
    (right : Matcher) :
    ((∃ name,
        (left.fit? name).isSome = true ∧
          (right.fit? name).isSome = true ∧
            left.rank right = .eq) ↔
      left.SameShape right) ∧
      (left.SameShape right →
        ∀ name,
          ((left.fit? name).isSome = true ↔
            (right.fit? name).isSome = true) ∧
            ((left.fit? name).isSome = true → left.rank right = .eq)) := by
  simp only [isSome_fit?_iff]
  refine ⟨⟨?_, ?_⟩, ?_⟩
  · rintro ⟨name, leftAccepts, rightAccepts, tie⟩
    obtain ⟨sameMode, alike⟩ :=
      alike_of_rank_eq tie (isSome_fit?_iff.mpr leftAccepts)
        (isSome_fit?_iff.mpr rightAccepts)
    exact ⟨sameMode, alike⟩
  · intro sameShape
    obtain ⟨name, accepts⟩ := exists_accepts_of_parse isParsed
    exact
      ⟨name, accepts, (sameShape.accepts_iff name).mp accepts,
        sameShape.rank_eq⟩
  · intro sameShape name
    exact ⟨sameShape.accepts_iff name, fun _ => sameShape.rank_eq⟩

/-- These patterns differ in the case of letters and in the name of a variable. -/
theorem tie_iff_sameShape_of_users :
    let left : Matcher :=
      ⟨.startsWith,
        ⟨⟨["Users", "{id}"], by decide⟩,
          [.literal "Users", .placeholder "id"]⟩⟩
    let right : Matcher :=
      ⟨.startsWith,
        ⟨⟨["users", "{name}"], by decide⟩,
          [.literal "users", .placeholder "name"]⟩⟩
    parse .startsWith "Users/{id}" = .ok left ∧
      parse .startsWith "users/{name}" = .ok right ∧
        left.SameShape right ∧
          ∀ name,
            (left.fit? name).isSome = true ↔
              (right.fit? name).isSome = true := by
  intro left right
  have leftParsed : parse .startsWith "Users/{id}" = .ok left := by
    decide +kernel
  have rightParsed : parse .startsWith "users/{name}" = .ok right := by
    decide +kernel
  obtain ⟨ties, fitsBoth⟩ := tie_iff_sameShape leftParsed right
  let shared : Name := ⟨["USERS", "1"], by decide⟩
  have sameShape : left.SameShape right :=
    ties.mp ⟨shared, by decide +kernel, by decide +kernel, by decide +kernel⟩
  exact
    ⟨leftParsed, rightParsed, sameShape, fun name =>
      (fitsBoth sameShape name).1⟩

end Matcher

end ResourceServer
