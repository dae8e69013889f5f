import ResourceServer.Route.Table

namespace ResourceServer

/-!
# Which route is better

Of two routes that fit a name the better one covers more elements; if both
cover as many, it has a literal where the other first has a variable; if
nothing tells them apart so far, it covers the whole name where the other
covers a beginning. Ranking matchers decides this, and it is a total preorder.
-/

/-- One list has a literal where the other first has a variable. -/
def LiteralFirst (better worse : List Segment) : Prop :=
  ∃ place : Nat,
    (∀ earlier < place,
      (better[earlier]?).map Segment.isLiteral =
        (worse[earlier]?).map Segment.isLiteral) ∧
      (better[place]?).map Segment.isLiteral = some true ∧
      (worse[place]?).map Segment.isLiteral = some false

/-- One route is better than another for a name that both fit. -/
def Selection.Outranks {α : Type u} (better worse : Selection α) : Prop :=
  worse.fit.consumed < better.fit.consumed ∨
    (better.fit.consumed = worse.fit.consumed ∧
      (LiteralFirst better.binding.matcher.template.segments
          worse.binding.matcher.template.segments ∨
        (¬ LiteralFirst worse.binding.matcher.template.segments
            better.binding.matcher.template.segments ∧
          better.binding.matcher.mode = .equals ∧
          worse.binding.matcher.mode = .startsWith)))

namespace LiteralFirst

theorem not_nil_left
    (worse : List Segment) :
    ¬ LiteralFirst [] worse := by
  rintro ⟨place, -, isLiteral, -⟩
  simp at isLiteral

theorem not_nil_right
    (better : List Segment) :
    ¬ LiteralFirst better [] := by
  rintro ⟨place, -, -, isVariable⟩
  simp at isVariable

/-- The first difference is at the head or, if the heads agree, further on. -/
theorem cons_cons
    {first second : Segment}
    {rest others : List Segment} :
    LiteralFirst (first :: rest) (second :: others) ↔
      (first.isLiteral = true ∧ second.isLiteral = false) ∨
        (first.isLiteral = second.isLiteral ∧ LiteralFirst rest others) := by
  constructor
  · rintro ⟨place, agree, isLiteral, isVariable⟩
    cases place with
    | zero =>
        exact .inl ⟨by simpa using isLiteral, by simpa using isVariable⟩
    | succ place =>
        refine .inr ⟨?_, place, ?_, isLiteral, isVariable⟩
        · simpa using agree 0 (Nat.zero_lt_succ place)
        · intro earlier isEarlier
          simpa using agree (earlier + 1) (Nat.succ_lt_succ isEarlier)
  · rintro (⟨isLiteral, isVariable⟩ | ⟨headsAgree, place, agree, later⟩)
    · refine ⟨0, ?_, by simpa using isLiteral, by simpa using isVariable⟩
      intro earlier isEarlier
      exact absurd isEarlier (Nat.not_lt_zero earlier)
    · refine ⟨place + 1, ?_, later⟩
      intro earlier isEarlier
      cases earlier with
      | zero =>
          simpa using headsAgree
      | succ earlier =>
          simpa using agree earlier (Nat.lt_of_succ_lt_succ isEarlier)

end LiteralFirst

namespace Matcher

/-- The first difference decides the comparison of literals. -/
theorem compareLiterals_eq_gt_iff
    {left right : List Segment} :
    compareLiterals left right = .gt ↔ LiteralFirst left right := by
  induction left generalizing right with
  | nil =>
      simp [compareLiterals, LiteralFirst.not_nil_left]
  | cons first rest inductionHypothesis =>
      cases right with
      | nil =>
          simp [compareLiterals, LiteralFirst.not_nil_right]
      | cons second others =>
          rw [LiteralFirst.cons_cons, ← inductionHypothesis]
          cases firstKind : first.isLiteral <;>
            cases secondKind : second.isLiteral <;>
            simp [compareLiterals, firstKind, secondKind]

/-- Comparing literals the other way round gives the opposite answer. -/
theorem compareLiterals_swap
    (left right : List Segment) :
    compareLiterals left right = (compareLiterals right left).swap := by
  induction left generalizing right with
  | nil =>
      cases right <;> rfl
  | cons first rest inductionHypothesis =>
      cases right with
      | nil =>
          rfl
      | cons second others =>
          cases firstKind : first.isLiteral <;>
            cases secondKind : second.isLiteral <;>
            simp [compareLiterals, firstKind, secondKind, inductionHypothesis others]

theorem compareLiterals_eq_eq_iff
    {left right : List Segment} :
    compareLiterals left right = .eq ↔
      ¬ LiteralFirst left right ∧ ¬ LiteralFirst right left := by
  rw [← compareLiterals_eq_gt_iff, ← compareLiterals_eq_gt_iff,
    compareLiterals_swap right left]
  cases compareLiterals left right <;> decide

/-- Templates of one length compare as the lists of their literal places. -/
theorem compareLiterals_eq_compare
    {left right : List Segment}
    (sameLength : left.length = right.length) :
    compareLiterals left right =
      compare (left.map Segment.isLiteral) (right.map Segment.isLiteral) := by
  induction left generalizing right with
  | nil =>
      cases right with
      | nil =>
          rfl
      | cons second others =>
          cases sameLength
  | cons first rest inductionHypothesis =>
      cases right with
      | nil =>
          cases sameLength
      | cons second others =>
          have restLength : rest.length = others.length :=
            Nat.succ.inj sameLength
          rw [List.map_cons, List.map_cons, List.compare_cons_cons,
            ← inductionHypothesis restLength]
          cases firstKind : first.isLiteral <;>
            cases secondKind : second.isLiteral <;>
            simp only [compareLiterals, firstKind, secondKind, ↓reduceIte,
              reduceCtorEq, Bool.false_eq_true, Std.ReflOrd.compare_self] <;>
            rfl

/-- Ranking compares lengths, then places of literals, then modes. -/
theorem rank_eq_compareLex :
    rank =
      compareLex (compareOn fun matcher => matcher.template.size)
        (compareLex
          (compareOn fun matcher =>
            matcher.template.segments.map Segment.isLiteral)
          (compareOn fun matcher => matcher.mode.rank)) := by
  funext left right
  simp only [rank, compareLex, compareOn]
  cases order : compare left.template.size right.template.size with
  | lt =>
      rfl
  | gt =>
      rfl
  | eq =>
      -- Comparing literals stops at the shorter list, but neither is shorter.
      have sameLength :
          left.template.segments.length = right.template.segments.length :=
        Nat.compare_eq_eq.mp order
      rw [compareLiterals_eq_compare sameLength]

instance : Std.TransCmp rank := by
  rw [rank_eq_compareLex]
  infer_instance

/-- The mode that covers the whole name is above the other. -/
theorem compare_mode_rank_eq_gt_iff
    {left right : Mode} :
    compare left.rank right.rank = .gt ↔
      left = .equals ∧ right = .startsWith := by
  cases left <;> cases right <;> decide

/-- How much a fit covers is the length of its template. -/
theorem consumed_of_fit?
    {matcher : Matcher}
    {name : Name}
    {fit : Fit}
    (fits : matcher.fit? name = some fit) :
    fit.consumed = matcher.template.size := by
  unfold fit? at fits
  split at fits
  · cases fits
    rfl
  · cases fits

end Matcher

/-- Ranking the routes of two fits decides which is better. -/
theorem Selection.rank_eq_gt_iff
    {α : Type u}
    {left right : Selection α}
    {name : Name}
    (leftFits : left.binding.matcher.fit? name = some left.fit)
    (rightFits : right.binding.matcher.fit? name = some right.fit) :
    left.binding.matcher.rank right.binding.matcher = .gt ↔
      left.Outranks right := by
  unfold Outranks Matcher.rank
  rw [Matcher.consumed_of_fit? leftFits, Matcher.consumed_of_fit? rightFits,
    Ordering.then_eq_gt, Ordering.then_eq_gt, Nat.compare_eq_gt,
    Nat.compare_eq_eq, Matcher.compareLiterals_eq_gt_iff,
    Matcher.compareLiterals_eq_eq_iff, Matcher.compare_mode_rank_eq_gt_iff]
  by_cases literalFirst :
      LiteralFirst left.binding.matcher.template.segments
        right.binding.matcher.template.segments
  · simp [literalFirst]
  · simp [literalFirst]

end ResourceServer
