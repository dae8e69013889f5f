import Mathlib.Data.List.Forall2
import ResourceServer.Proofs.Name.Order
import ResourceServer.Proofs.Route.Delivery

namespace ResourceServer

/-!
# The way of a name in other letters

Names that are the same but for the case of ASCII letters take the same way
through every tree of routers. Whether a route fits a name and how much of it is
covered do not depend on the case, and nothing else decides which route is
selected. So at every level both names select the same route, and what is left
of them is again the same name, or both are refused for the same cause.
-/

namespace Failure

/-- Failures of one kind, whatever else they tell. -/
def SameKind (left right : Failure) : Prop :=
  left.ctorIdx = right.ctorIdx

/-- Results with related values, or failures of one kind. -/
inductive Alike
    {α : Type u}
    {β : Type v}
    (related : α → β → Prop) :
    Except Failure α → Except Failure β → Prop where
  | ok
      {left : α}
      {right : β}
      (isRelated : related left right) :
      Alike related (.ok left) (.ok right)
  | error
      {left right : Failure}
      (sameKind : left.SameKind right) :
      Alike related (.error left) (.error right)

namespace Alike

variable
  {α β : Type}
  {left right : Except Failure α}

theorem refl
    (result : Except Failure α) :
    Alike Eq result result := by
  cases result with
  | error failure =>
      exact .error rfl
  | ok value =>
      exact .ok rfl

/-- Going on alike from alike results gives alike results. -/
theorem bind
    {leftNext rightNext : α → Except Failure β}
    (alike : Alike Eq left right)
    (onward : ∀ value, Alike Eq (leftNext value) (rightNext value)) :
    Alike Eq (left >>= leftNext) (right >>= rightNext) := by
  cases alike with
  | error sameKind =>
      exact .error sameKind
  | @ok value _ isSame =>
      subst isSame
      exact onward value

theorem map
    (alike : Alike Eq left right)
    (transform : α → β) :
    Alike Eq (left.map transform) (right.map transform) := by
  cases alike with
  | error sameKind =>
      exact .error sameKind
  | ok isSame =>
      exact .ok (congrArg transform isSame)

end Alike

end Failure

namespace Name

variable {left right : Name}

theorem size_eq_of_key
    (sameKey : left.key = right.key) :
    left.size = right.size := by
  have sameLength := congrArg List.length sameKey
  simpa only [size, key, List.length_map] using sameLength

end Name

namespace Segment

/-- A segment accepts spellings of one element alike. -/
theorem accepts_of_fold
    (segment : Segment)
    {left right : String}
    (sameFold : Text.fold left = Text.fold right) :
    segment.accepts left = segment.accepts right := by
  cases segment with
  | literal text =>
      simp only [accepts, Text.sameFold, sameFold]
  | placeholder name =>
      rfl

end Segment

/-! ## Fits -/

namespace Matcher

/-- Segments accept spellings of one name alike. -/
theorem acceptsAll_of_key
    {segments : List Segment}
    {lefts rights : List String}
    (sameKey : lefts.map Text.fold = rights.map Text.fold) :
    acceptsAll segments lefts = acceptsAll segments rights := by
  induction segments generalizing lefts rights with
  | nil =>
      simp only [acceptsAll]
  | cons segment rest inductionHypothesis =>
      cases lefts with
      | nil =>
          cases rights with
          | nil =>
              rfl
          | cons right others =>
              cases sameKey
      | cons left others =>
          cases rights with
          | nil =>
              cases sameKey
          | cons right otherRights =>
              obtain ⟨sameFold, sameRest⟩ := List.cons.inj sameKey
              rw [acceptsAll, acceptsAll, segment.accepts_of_fold sameFold,
                inductionHypothesis sameRest]

/-- A matcher fits both names and covers as much of them, or fits neither. -/
theorem fit?_of_key
    (matcher : Matcher)
    {left right : Name}
    (sameKey : left.key = right.key) :
    Option.Rel (fun first second => first.consumed = second.consumed)
      (matcher.fit? left) (matcher.fit? right) := by
  have sameSize : matcher.sizeFits left = matcher.sizeFits right := by
    simp only [sizeFits, Name.size_eq_of_key sameKey]
  have sameAccepted :
      acceptsAll matcher.template.segments left.elements =
        acceptsAll matcher.template.segments right.elements :=
    acceptsAll_of_key sameKey
  rw [fit?, fit?, sameSize, sameAccepted]
  split
  · exact .some rfl
  · exact .none

end Matcher

/-- Selections of one route that cover as much. -/
structure Selection.SameRoute
    {α : Type u}
    (left right : Selection α) : Prop where
  binding : left.binding = right.binding
  consumed : left.fit.consumed = right.fit.consumed

namespace Fit

/-- Names that are divided at one place have parts that are the same. -/
theorem split_of_key
    {leftFit rightFit : Fit}
    {left right : Name}
    (sameConsumed : leftFit.consumed = rightFit.consumed)
    (within : leftFit.consumed ≤ left.size)
    (sameKey : left.key = right.key) :
    ∃ leftCovered leftRest rightCovered rightRest,
      leftFit.split left = .ok (leftCovered, leftRest) ∧
        rightFit.split right = .ok (rightCovered, rightRest) ∧
        leftRest.key = rightRest.key := by
  have withinRight : rightFit.consumed ≤ right.size := by
    rw [← sameConsumed, ← Name.size_eq_of_key sameKey]
    exact within
  refine ⟨_, _, _, _, split_of_le within, split_of_le withinRight, ?_⟩
  rw [Name.key_slice, Name.key_slice, sameKey, sameConsumed,
    Name.size_eq_of_key sameKey]

end Fit

namespace Table

variable
  {α : Type u}
  {left right : Name}

/-- Spellings of one name have the same routes as candidates. -/
theorem candidates_of_key
    (table : Table α)
    (sameKey : left.key = right.key) :
    List.Forall₂ Selection.SameRoute
      (table.candidates left) (table.candidates right) := by
  have sameBindings : List.Forall₂ Eq table.bindings table.bindings :=
    List.forall₂_same.mpr fun _ _ => rfl
  refine List.rel_filterMap ?_ sameBindings
  rintro binding _ rfl
  have fits := binding.matcher.fit?_of_key sameKey
  change
    Option.Rel Selection.SameRoute
      ((binding.matcher.fit? left).map fun fit => ⟨binding, fit⟩)
      ((binding.matcher.fit? right).map fun fit => ⟨binding, fit⟩)
  generalize binding.matcher.fit? left = leftFit at fits
  generalize binding.matcher.fit? right = rightFit at fits
  cases fits with
  | none =>
      exact .none
  | some sameConsumed =>
      exact .some ⟨rfl, sameConsumed⟩

/-- Leaders with the same routes in the same places. -/
structure Leaders.SameRoutes
    (left right : Leaders α) : Prop where
  best : left.best.SameRoute right.best
  tied : List.Forall₂ Selection.SameRoute left.tied right.tied

/-- What a challenger comes to depends on the routes alone. -/
theorem Leaders.challenge_of_sameRoutes
    {leftLeaders rightLeaders : Option (Leaders α)}
    {first second : Selection α}
    (sameLeaders :
      Option.Rel Leaders.SameRoutes leftLeaders rightLeaders)
    (sameRoute : first.SameRoute second) :
    Option.Rel Leaders.SameRoutes
      (challenge leftLeaders first) (challenge rightLeaders second) := by
  cases sameLeaders with
  | none =>
      exact .some ⟨sameRoute, .nil⟩
  | @some leftLead rightLead sameLead =>
      simp only [challenge, sameRoute.binding, sameLead.best.binding]
      split
      · exact .some ⟨sameRoute, .nil⟩
      · exact
          .some
            ⟨sameLead.best, List.rel_append sameLead.tied (.cons sameRoute .nil)⟩
      · exact .some sameLead

/-- Spellings of one name have the same leading routes. -/
theorem leaders?_of_key
    (table : Table α)
    (sameKey : left.key = right.key) :
    Option.Rel Leaders.SameRoutes
      (table.leaders? left) (table.leaders? right) := by
  refine List.rel_foldl ?_ .none (table.candidates_of_key sameKey)
  intro leftLeaders rightLeaders sameLeaders first second sameRoute
  exact Leaders.challenge_of_sameRoutes sameLeaders sameRoute

/-- A table selects one route for both names, or refuses both for one cause. -/
theorem select_of_key
    (table : Table α)
    (sameKey : left.key = right.key) :
    Failure.Alike Selection.SameRoute
      (table.select left) (table.select right) := by
  have sameLeaders := table.leaders?_of_key sameKey
  unfold select
  generalize table.leaders? left = leftLeaders at sameLeaders
  generalize table.leaders? right = rightLeaders at sameLeaders
  cases sameLeaders with
  | none =>
      dsimp only
      split
      · exact .ok ⟨rfl, rfl⟩
      · exact .error rfl
  | @some leftLead rightLead sameLead =>
      obtain ⟨leftBest, leftTied⟩ := leftLead
      obtain ⟨rightBest, rightTied⟩ := rightLead
      obtain ⟨sameBest, sameTied⟩ := sameLead
      cases sameTied with
      | nil =>
          exact .ok sameBest
      | cons =>
          exact .error rfl

end Table

/-! ## Ways -/

namespace Handler

variable {α : Type}

/--
Two names go the same way: every router on it selects one route for both, until
they arrive as the same name or a router refuses both for one cause.
-/
inductive SameWay : Handler α → Name → Name → Prop where
  | arrive
      {left right : Name}
      (target : α)
      (sameRest : left.same right = true) :
      SameWay (.endpoint target) left right
  | refuse
      {table : Table (Handler α)}
      {left right : Name}
      {leftFailure rightFailure : Failure}
      (leftRefused : table.select left = .error leftFailure)
      (rightRefused : table.select right = .error rightFailure)
      (sameKind : leftFailure.SameKind rightFailure) :
      SameWay (.router table) left right
  | forward
      {table : Table (Handler α)}
      {left right leftCovered leftRest rightCovered rightRest : Name}
      {leftSelection rightSelection : Selection (Handler α)}
      (leftSelected : table.select left = .ok leftSelection)
      (rightSelected : table.select right = .ok rightSelection)
      (sameBinding : leftSelection.binding = rightSelection.binding)
      (leftDivided :
        leftSelection.fit.split left = .ok (leftCovered, leftRest))
      (rightDivided :
        rightSelection.fit.split right = .ok (rightCovered, rightRest))
      (onward :
        SameWay leftSelection.binding.target leftRest rightRest) :
      SameWay (.router table) left right

/-- Names that are the same go the same way through every tree of routers. -/
theorem sameWay_of_key
    (handler : Handler α)
    {left right : Name}
    (sameKey : left.key = right.key) :
    handler.SameWay left right := by
  match handler with
  | .endpoint target =>
      exact .arrive target (Name.same_iff_key.mpr sameKey)
  | .router table =>
      have alike := table.select_of_key sameKey
      generalize leftAnswer : table.select left = answer at alike
      generalize rightAnswer : table.select right = otherAnswer at alike
      cases alike with
      | error sameKind =>
          exact .refuse leftAnswer rightAnswer sameKind
      | @ok leftSelection rightSelection sameRoute =>
          have _smaller := sizeOf_target leftAnswer
          obtain ⟨_, _, _, _, leftDivided, rightDivided, sameRest⟩ :=
            Fit.split_of_key sameRoute.consumed
              (Table.consumed_le_of_select leftAnswer) sameKey
          exact
            .forward leftAnswer rightAnswer sameRoute.binding leftDivided
              rightDivided
              (sameWay_of_key leftSelection.binding.target sameRest)
termination_by sizeOf handler

/-- Names on the same way arrive at one target, or are refused for one cause. -/
theorem SameWay.ends
    {handler : Handler α}
    {left right : Name}
    (sameWay : handler.SameWay left right) :
    (∃ leftHops rightHops target leftRest rightRest,
      handler.Leads left leftHops target leftRest ∧
        handler.Leads right rightHops target rightRest ∧
        leftRest.key = rightRest.key) ∨
      ∃ leftFailure rightFailure : Failure,
        leftFailure.SameKind rightFailure ∧
          ∀ (ids : IdSupply) (context : Context) (request : Request),
            handler.deliver ids context (request.withName left) =
                .error leftFailure ∧
              handler.deliver ids context (request.withName right) =
                .error rightFailure := by
  induction sameWay with
  | arrive target sameRest =>
      exact
        .inl
          ⟨[], [], target, _, _, .arrive target _, .arrive target _,
            Name.same_iff_key.mp sameRest⟩
  | refuse leftRefused rightRefused sameKind =>
      refine .inr ⟨_, _, sameKind, ?_⟩
      intro ids context request
      exact
        ⟨deliver_of_select_error leftRefused,
          deliver_of_select_error rightRefused⟩
  | forward leftSelected rightSelected sameBinding leftDivided rightDivided
      onward inductionHypothesis =>
      rcases inductionHypothesis with
        ⟨leftHops, rightHops, target, leftRest, rightRest, leftLeads,
          rightLeads, sameRest⟩ |
        ⟨leftFailure, rightFailure, sameKind, refused⟩
      · rw [sameBinding] at rightLeads
        exact
          .inl
            ⟨_, _, target, leftRest, rightRest,
              .forward leftSelected leftDivided leftLeads,
              .forward rightSelected rightDivided rightLeads,
              sameRest⟩
      · refine .inr ⟨leftFailure, rightFailure, sameKind, ?_⟩
        intro ids context request
        constructor
        · exact
            (deliver_of_select_ok leftSelected leftDivided).trans
              (refused _ _ (request.withName _)).1
        · rw [sameBinding] at refused
          exact
            (deliver_of_select_ok rightSelected rightDivided).trans
              (refused _ _ (request.withName _)).2

end Handler

end ResourceServer
