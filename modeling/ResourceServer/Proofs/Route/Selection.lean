import Mathlib.Data.List.Nodup
import ResourceServer.Proofs.Route.Ranking
import ResourceServer.Proofs.Route.Registration

namespace ResourceServer.Table

/-!
# The route of a name

Selecting goes through the routes once and keeps the best one seen so far with
those that tie with it. What it keeps in the end are exactly the routes that no
other fitting route outranks, in the order in which they were added. So the
answer depends on which routes there are, never on how they are arranged.
-/

variable {α : Type u}

/-- A route of the table fits a name in this way. -/
def Fits
    (table : Table α)
    (name : Name)
    (selection : Selection α) : Prop :=
  selection.binding ∈ table.bindings ∧
    selection.binding.matcher.fit? name = some selection.fit

/-- A route fits a name, and no route that fits it is better. -/
def IsBest
    (table : Table α)
    (name : Name)
    (selection : Selection α) : Prop :=
  table.Fits name selection ∧
    ∀ other, table.Fits name other → ¬ other.Outranks selection

theorem mem_candidates
    {table : Table α}
    {name : Name}
    {selection : Selection α} :
    selection ∈ table.candidates name ↔ table.Fits name selection := by
  simp only [candidates, Binding.select?, List.mem_filterMap,
    Option.map_eq_some_iff]
  constructor
  · rintro ⟨binding, isIn, fit, fits, rfl⟩
    exact ⟨isIn, fits⟩
  · rintro ⟨isIn, fits⟩
    exact ⟨selection.binding, isIn, selection.fit, fits, rfl⟩

/-- The candidates stand in the order of the table. -/
theorem candidates_map_binding
    (table : Table α)
    (name : Name) :
    ((table.candidates name).map Selection.binding).Sublist table.bindings := by
  have kept :
      (table.candidates name).map Selection.binding =
        table.bindings.filter fun binding =>
          (binding.matcher.fit? name).isSome := by
    rw [candidates, List.map_filterMap, ← List.filterMap_eq_filter]
    congr 1
    funext binding
    cases fits : binding.matcher.fit? name with
    | none =>
        simp [Binding.select?, fits, Option.guard]
    | some fit =>
        simp [Binding.select?, fits, Option.guard]
  rw [kept]
  exact List.filter_sublist

/-! ## The pass through the routes -/

namespace Leaders

/-- The leaders are the best of the routes seen so far, in order. -/
structure Lead
    (leaders : Leaders α)
    (seen : List (Selection α)) : Prop where
  inOrder : (leaders.best :: leaders.tied).Sublist seen
  tiedAsGood :
    ∀ selection ∈ leaders.tied,
      selection.binding.matcher.rank leaders.best.binding.matcher = .eq
  noneBetter :
    ∀ selection ∈ seen,
      (selection.binding.matcher.rank leaders.best.binding.matcher).isLE
  allTied :
    ∀ selection ∈ seen,
      selection.binding.matcher.rank leaders.best.binding.matcher = .eq →
      selection ∈ leaders.best :: leaders.tied

namespace Lead

variable
  {leaders : Leaders α}
  {seen : List (Selection α)}
  {challenger : Selection α}

/-- A better route takes the lead alone. -/
theorem overtake
    (lead : leaders.Lead seen)
    (isBetter :
      challenger.binding.matcher.rank leaders.best.binding.matcher = .gt) :
    (⟨challenger, []⟩ : Leaders α).Lead (seen ++ [challenger]) := by
  have below :
      ∀ selection ∈ seen,
        selection.binding.matcher.rank challenger.binding.matcher = .lt := by
    intro selection isSeen
    exact
      Std.TransCmp.lt_of_isLE_of_lt (lead.noneBetter selection isSeen)
        (Std.OrientedCmp.lt_of_gt isBetter)
  constructor
  case inOrder =>
    exact List.sublist_append_right seen [challenger]
  case tiedAsGood =>
    intro selection isTied
    cases isTied
  case noneBetter =>
    intro selection isSeen
    rcases List.mem_append.mp isSeen with isOld | isNew
    · rw [below selection isOld]
      rfl
    · cases List.mem_singleton.mp isNew
      exact Std.ReflCmp.isLE_rfl
  case allTied =>
    intro selection isSeen isAsGood
    rcases List.mem_append.mp isSeen with isOld | isNew
    · rw [below selection isOld] at isAsGood
      cases isAsGood
    · exact isNew

/-- A route that is as good joins those that tie. -/
theorem tie
    (lead : leaders.Lead seen)
    (isAsGood :
      challenger.binding.matcher.rank leaders.best.binding.matcher = .eq) :
    ({ leaders with tied := leaders.tied ++ [challenger] } :
      Leaders α).Lead (seen ++ [challenger]) := by
  constructor
  case inOrder =>
    exact lead.inOrder.append (List.Sublist.refl [challenger])
  case tiedAsGood =>
    intro selection isTied
    rcases List.mem_append.mp isTied with isOld | isNew
    · exact lead.tiedAsGood selection isOld
    · cases List.mem_singleton.mp isNew
      exact isAsGood
  case noneBetter =>
    intro selection isSeen
    rcases List.mem_append.mp isSeen with isOld | isNew
    · exact lead.noneBetter selection isOld
    · cases List.mem_singleton.mp isNew
      rw [isAsGood]
      rfl
  case allTied =>
    intro selection isSeen isAsGood
    rcases List.mem_append.mp isSeen with isOld | isNew
    · exact List.mem_append_left _ (lead.allTied selection isOld isAsGood)
    · exact List.mem_append_right (leaders.best :: leaders.tied) isNew

/-- A worse route changes nothing. -/
theorem keep
    (lead : leaders.Lead seen)
    (isWorse :
      challenger.binding.matcher.rank leaders.best.binding.matcher = .lt) :
    leaders.Lead (seen ++ [challenger]) := by
  constructor
  case inOrder =>
    exact lead.inOrder.trans (List.sublist_append_left seen [challenger])
  case tiedAsGood =>
    exact lead.tiedAsGood
  case noneBetter =>
    intro selection isSeen
    rcases List.mem_append.mp isSeen with isOld | isNew
    · exact lead.noneBetter selection isOld
    · cases List.mem_singleton.mp isNew
      rw [isWorse]
      rfl
  case allTied =>
    intro selection isSeen isAsGood
    rcases List.mem_append.mp isSeen with isOld | isNew
    · exact lead.allTied selection isOld isAsGood
    · cases List.mem_singleton.mp isNew
      rw [isWorse] at isAsGood
      cases isAsGood

end Lead

/-- Leaders are kept of what was seen, and there are none only at the start. -/
def Track
    (leaders : Option (Leaders α))
    (seen : List (Selection α)) : Prop :=
  match leaders with
  | none => seen = []
  | some leaders => leaders.Lead seen

/-- One more route leaves the leaders the best of all seen. -/
theorem Track.challenge
    {leaders : Option (Leaders α)}
    {seen : List (Selection α)}
    (track : Track leaders seen)
    (challenger : Selection α) :
    Track (Leaders.challenge leaders challenger) (seen ++ [challenger]) := by
  cases leaders with
  | none =>
      cases track
      exact
        { inOrder := List.Sublist.refl _
          tiedAsGood := by simp
          noneBetter := by simp [Std.ReflCmp.compare_self]
          allTied := by simp }
  | some leaders =>
      have lead : leaders.Lead seen := track
      cases order :
          challenger.binding.matcher.rank leaders.best.binding.matcher with
      | gt =>
          simp only [Leaders.challenge, order]
          exact lead.overtake order
      | eq =>
          simp only [Leaders.challenge, order]
          exact lead.tie order
      | lt =>
          simp only [Leaders.challenge, order]
          exact lead.keep order

/-- The pass keeps the best of all routes it has seen. -/
theorem Track.foldl
    {leaders : Option (Leaders α)}
    {seen : List (Selection α)}
    (track : Track leaders seen)
    (challengers : List (Selection α)) :
    Track (challengers.foldl Leaders.challenge leaders)
      (seen ++ challengers) := by
  induction challengers generalizing leaders seen with
  | nil =>
      simpa using track
  | cons challenger rest inductionHypothesis =>
      simpa using inductionHypothesis (track.challenge challenger)

end Leaders

/-- The leaders for a name are the best of its candidates. -/
theorem leaders?_track
    (table : Table α)
    (name : Name) :
    Leaders.Track (table.leaders? name) (table.candidates name) := by
  have start : Leaders.Track (none : Option (Leaders α)) [] := rfl
  simpa [leaders?] using start.foldl (table.candidates name)

/-- The leaders for a name are the routes that no fitting route outranks. -/
theorem mem_leaders_iff
    {table : Table α}
    {name : Name}
    {leaders : Leaders α}
    (found : table.leaders? name = some leaders)
    {selection : Selection α} :
    selection ∈ leaders.best :: leaders.tied ↔ table.IsBest name selection := by
  have lead : leaders.Lead (table.candidates name) := by
    have track := leaders?_track table name
    rwa [found] at track
  have bestFits : table.Fits name leaders.best :=
    mem_candidates.mp (lead.inOrder.subset List.mem_cons_self)
  constructor
  · intro isLeader
    have isAsGood :
        selection.binding.matcher.rank leaders.best.binding.matcher = .eq := by
      rcases List.mem_cons.mp isLeader with isFirst | isTied
      · rw [isFirst]
        exact Std.ReflCmp.compare_self
      · exact lead.tiedAsGood selection isTied
    have fits := mem_candidates.mp (lead.inOrder.subset isLeader)
    refine ⟨fits, ?_⟩
    -- Among routes that fit the same name, outranking is ranking above.
    intro other otherFits outranks
    rw [← Selection.rank_eq_gt_iff otherFits.2 fits.2,
      Std.TransCmp.congr_right isAsGood] at outranks
    have noneBetter :=
      lead.noneBetter other (mem_candidates.mpr otherFits)
    rw [outranks] at noneBetter
    cases noneBetter
  · rintro ⟨fits, noneOutranks⟩
    have isSeen := mem_candidates.mpr fits
    apply lead.allTied selection isSeen
    have notAbove := lead.noneBetter selection isSeen
    have notBelow :=
      mt (Selection.rank_eq_gt_iff bestFits.2 fits.2).mp
        (noneOutranks leaders.best bestFits)
    cases order :
        selection.binding.matcher.rank leaders.best.binding.matcher with
    | gt =>
        rw [order] at notAbove
        cases notAbove
    | eq =>
        rfl
    | lt =>
        exact absurd (Std.OrientedCmp.gt_of_lt order) notBelow

/-! ## The answer of a table -/

/-- What a table may answer for a name, by the routes that fit it best. -/
inductive Verdict
    (table : Table α)
    (name : Name) :
    Except Failure (Selection α) → Prop where
  | only
      (best : Selection α)
      (onlyBest : ∀ other, table.IsBest name other ↔ other = best) :
      Verdict table name (.ok best)
  | several
      (first second : Selection α)
      (rest : List (Selection α))
      (inOrder :
        (first :: second :: rest).Sublist (table.candidates name))
      (areBest :
        ∀ selection,
          selection ∈ first :: second :: rest ↔
            table.IsBest name selection) :
      Verdict table name
        (.error
          (.routeAmbiguous name.display
            ((first :: second :: rest).map (·.binding.matcher.display))))
  | fallback
      (binding : Binding α)
      (noneFits : ∀ selection, ¬ table.Fits name selection)
      (isFallback : table.fallback = some binding) :
      Verdict table name (.ok ⟨binding, ⟨0, []⟩⟩)
  | notFound
      (noneFits : ∀ selection, ¬ table.Fits name selection)
      (noFallback : table.fallback = none) :
      Verdict table name (.error (.routeNotFound name.display))

/-- Selecting gives one of these answers. -/
theorem select_verdict
    (table : Table α)
    (name : Name) :
    Verdict table name (table.select name) := by
  have track := leaders?_track table name
  unfold select
  cases found : table.leaders? name with
  | none =>
      rw [found] at track
      have noneFits : ∀ selection, ¬ table.Fits name selection := by
        intro selection fits
        have isCandidate := mem_candidates.mpr fits
        rw [track] at isCandidate
        cases isCandidate
      cases isFallback : table.fallback with
      | none =>
          exact .notFound noneFits isFallback
      | some binding =>
          exact .fallback binding noneFits isFallback
  | some leaders =>
      rw [found] at track
      have areBest :
          ∀ selection,
            selection ∈ leaders.best :: leaders.tied ↔
              table.IsBest name selection :=
        fun _ => mem_leaders_iff found
      obtain ⟨best, tied⟩ := leaders
      cases tied with
      | nil =>
          refine .only best fun other => ?_
          rw [← areBest, List.mem_singleton]
      | cons second rest =>
          exact .several best second rest track.inOrder areBest

/-- The routes are all different, the default route among them. -/
structure Distinct (table : Table α) : Prop where
  bindingsNodup : table.bindings.Nodup
  fallbackNotMem :
    ∀ binding, table.fallback = some binding → binding ∉ table.bindings

theorem Numbered.distinct
    {table : Table α}
    (numbered : table.Numbered) :
    table.Distinct :=
  ⟨numbered.bindings_nodup, fun _ => numbered.fallback_not_mem⟩

namespace Distinct

variable
  {table : Table α}
  {name : Name}

theorem candidates_nodup
    (distinct : table.Distinct)
    (name : Name) :
    (table.candidates name).Nodup :=
  List.Nodup.of_map Selection.binding
    (distinct.bindingsNodup.sublist (candidates_map_binding table name))

/-- The first two of the best candidates are different. -/
theorem first_ne_second
    (distinct : table.Distinct)
    {first second : Selection α}
    {rest : List (Selection α)}
    (inOrder : (first :: second :: rest).Sublist (table.candidates name)) :
    first ≠ second := by
  have nodup := (distinct.candidates_nodup name).sublist inOrder
  rintro rfl
  exact (List.nodup_cons.mp nodup).1 List.mem_cons_self

/-- A route of the table is selected when it is the only best one. -/
theorem select_eq_ok_iff
    (distinct : table.Distinct)
    {selection : Selection α} :
    (table.select name = .ok selection ∧
        selection.binding ∈ table.bindings) ↔
      ∀ other, table.IsBest name other ↔ other = selection := by
  have verdict := table.select_verdict name
  generalize table.select name = answer at verdict
  cases verdict with
  | only best onlyBest =>
      constructor
      · rintro ⟨isSelected, -⟩
        cases isSelected
        exact onlyBest
      · intro onlyThis
        cases (onlyBest selection).mp ((onlyThis selection).mpr rfl)
        exact ⟨rfl, ((onlyThis selection).mpr rfl).1.1⟩
  | several first second rest inOrder areBest =>
      constructor
      · rintro ⟨isSelected, -⟩
        cases isSelected
      · intro onlyThis
        have isFirst : first = selection :=
          (onlyThis first).mp ((areBest first).mp (by simp))
        have isSecond : second = selection :=
          (onlyThis second).mp ((areBest second).mp (by simp))
        exact
          absurd (isFirst.trans isSecond.symm)
            (distinct.first_ne_second inOrder)
  | fallback binding noneFits isFallback =>
      constructor
      · rintro ⟨isSelected, isIn⟩
        cases isSelected
        -- The default route is no route of the table, so nothing is confused.
        exact absurd isIn (distinct.fallbackNotMem binding isFallback)
      · intro onlyThis
        exact absurd ((onlyThis selection).mpr rfl).1 (noneFits selection)
  | notFound noneFits noFallback =>
      constructor
      · rintro ⟨isSelected, -⟩
        cases isSelected
      · intro onlyThis
        exact absurd ((onlyThis selection).mpr rfl).1 (noneFits selection)

/-- The table refuses to guess when there are several best routes. -/
theorem select_ambiguous_iff
    (distinct : table.Distinct) :
    (∃ resource patterns,
      table.select name = .error (.routeAmbiguous resource patterns)) ↔
      ∃ first second,
        first ≠ second ∧
          table.IsBest name first ∧ table.IsBest name second := by
  have verdict := table.select_verdict name
  generalize table.select name = answer at verdict
  cases verdict with
  | only best onlyBest =>
      constructor
      · rintro ⟨resource, patterns, refused⟩
        cases refused
      · rintro ⟨first, second, different, firstBest, secondBest⟩
        cases (onlyBest first).mp firstBest
        cases (onlyBest second).mp secondBest
        exact absurd rfl different
  | several first second rest inOrder areBest =>
      constructor
      · rintro -
        exact
          ⟨first, second, distinct.first_ne_second inOrder,
            (areBest first).mp (by simp), (areBest second).mp (by simp)⟩
      · rintro -
        exact ⟨_, _, rfl⟩
  | fallback binding noneFits isFallback =>
      constructor
      · rintro ⟨resource, patterns, refused⟩
        cases refused
      · rintro ⟨first, second, different, firstBest, secondBest⟩
        exact absurd firstBest.1 (noneFits first)
  | notFound noneFits noFallback =>
      constructor
      · rintro ⟨resource, patterns, refused⟩
        cases refused
      · rintro ⟨first, second, different, firstBest, secondBest⟩
        exact absurd firstBest.1 (noneFits first)

/-- Without a fitting route the default route answers, if there is one. -/
theorem select_fallback_iff
    (distinct : table.Distinct) :
    (∀ selection, ¬ table.Fits name selection) ↔
      (∃ binding,
        table.fallback = some binding ∧
          table.select name = .ok ⟨binding, ⟨0, []⟩⟩) ∨
        (table.fallback = none ∧
          table.select name = .error (.routeNotFound name.display)) := by
  have verdict := table.select_verdict name
  generalize table.select name = answer at verdict
  cases verdict with
  | only best onlyBest =>
      have bestFits : table.Fits name best := ((onlyBest best).mpr rfl).1
      constructor
      · intro noneFits
        exact absurd bestFits (noneFits best)
      · rintro (⟨binding, isFallback, answered⟩ | ⟨-, answered⟩)
        · cases answered
          exact absurd bestFits.1 (distinct.fallbackNotMem binding isFallback)
        · cases answered
  | several first second rest inOrder areBest =>
      have firstFits : table.Fits name first :=
        ((areBest first).mp List.mem_cons_self).1
      constructor
      · intro noneFits
        exact absurd firstFits (noneFits first)
      · rintro (⟨binding, -, answered⟩ | ⟨-, answered⟩)
        · cases answered
        · cases answered
  | fallback binding noneFits isFallback =>
      exact ⟨fun _ => .inl ⟨binding, isFallback, rfl⟩, fun _ => noneFits⟩
  | notFound noneFits noFallback =>
      exact ⟨fun _ => .inr ⟨noFallback, rfl⟩, fun _ => noneFits⟩

end Distinct

/-- An ambiguity report lists exactly the best routes, in their order. -/
theorem ambiguous_lists_best
    {table : Table α}
    {name : Name}
    {resource : String}
    {patterns : List String}
    (refused :
      table.select name = .error (.routeAmbiguous resource patterns)) :
    resource = name.display ∧
      ∃ best : List (Binding α),
        best.Sublist table.bindings ∧
          (∀ binding,
            binding ∈ best ↔ ∃ fit, table.IsBest name ⟨binding, fit⟩) ∧
          patterns = best.map (·.matcher.display) := by
  have verdict := table.select_verdict name
  rw [refused] at verdict
  cases verdict with
  | several first second rest inOrder areBest =>
      refine
        ⟨rfl, (first :: second :: rest).map Selection.binding, ?_, ?_, ?_⟩
      · exact
          (inOrder.map Selection.binding).trans
            (candidates_map_binding table name)
      · intro binding
        rw [List.mem_map]
        constructor
        · rintro ⟨selection, isListed, rfl⟩
          exact ⟨selection.fit, (areBest selection).mp isListed⟩
        · rintro ⟨fit, isBest⟩
          exact ⟨⟨binding, fit⟩, (areBest _).mpr isBest, rfl⟩
      · rw [List.map_map]
        rfl

/-! ## Arrangement -/

/-- Answers that differ at most in the order of the reported patterns. -/
def SameVerdict
    (first second : Except Failure (Selection α)) : Prop :=
  match first, second with
  | .error (.routeAmbiguous resource patterns),
    .error (.routeAmbiguous other others) =>
      resource = other ∧ patterns.Perm others
  | first, second => first = second

/-- The table with its routes in another arrangement. -/
def arranged
    (table : Table α)
    (bindings : List (Binding α)) :
    Table α :=
  { table with bindings := bindings }

theorem fits_arranged
    {table : Table α}
    {bindings : List (Binding α)}
    (rearranged : bindings.Perm table.bindings)
    {name : Name}
    {selection : Selection α} :
    (table.arranged bindings).Fits name selection ↔
      table.Fits name selection := by
  simp only [Fits, arranged, rearranged.mem_iff]

theorem isBest_arranged
    {table : Table α}
    {bindings : List (Binding α)}
    (rearranged : bindings.Perm table.bindings)
    {name : Name}
    {selection : Selection α} :
    (table.arranged bindings).IsBest name selection ↔
      table.IsBest name selection := by
  simp only [IsBest, fits_arranged rearranged]

theorem Distinct.arranged
    {table : Table α}
    (distinct : table.Distinct)
    {bindings : List (Binding α)}
    (rearranged : bindings.Perm table.bindings) :
    (table.arranged bindings).Distinct where
  bindingsNodup := rearranged.nodup_iff.mpr distinct.bindingsNodup
  fallbackNotMem := by
    intro binding isFallback isIn
    exact
      distinct.fallbackNotMem binding isFallback
        (rearranged.mem_iff.mp isIn)

/-- Reports of the same best routes list the same patterns. -/
theorem patterns_perm_of_arranged
    {table : Table α}
    (distinct : table.Distinct)
    {bindings : List (Binding α)}
    (rearranged : bindings.Perm table.bindings)
    {name : Name}
    {resource other : String}
    {patterns others : List String}
    (refused :
      table.select name = .error (.routeAmbiguous resource patterns))
    (arrangedRefused :
      (table.arranged bindings).select name =
        .error (.routeAmbiguous other others)) :
    other = resource ∧ others.Perm patterns := by
  obtain ⟨sameResource, best, inOrder, areBest, rfl⟩ :=
    ambiguous_lists_best refused
  obtain ⟨sameOther, otherBest, otherInOrder, areOtherBest, rfl⟩ :=
    ambiguous_lists_best arrangedRefused
  refine ⟨sameOther.trans sameResource.symm, ?_⟩
  -- Both lists hold the best routes once each, so one rearranges the other.
  have bestNodup : best.Nodup := distinct.bindingsNodup.sublist inOrder
  have otherNodup : otherBest.Nodup :=
    (distinct.arranged rearranged).bindingsNodup.sublist otherInOrder
  refine List.Perm.map _ ((List.perm_ext_iff_of_nodup otherNodup bestNodup).mpr ?_)
  intro binding
  rw [areBest, areOtherBest]
  simp only [isBest_arranged rearranged]

/-- A table answers alike in every arrangement of its routes. -/
theorem Distinct.sameVerdict_arranged
    {table : Table α}
    (distinct : table.Distinct)
    {bindings : List (Binding α)}
    (rearranged : bindings.Perm table.bindings)
    (name : Name) :
    SameVerdict
      ((table.arranged bindings).select name)
      (table.select name) := by
  have arrangedDistinct := distinct.arranged rearranged
  have verdict := table.select_verdict name
  generalize answered : table.select name = answer at verdict ⊢
  cases verdict with
  | only best onlyBest =>
      have arrangedOnly :
          ∀ other,
            (table.arranged bindings).IsBest name other ↔ other = best := by
        intro other
        rw [isBest_arranged rearranged, onlyBest]
      rw [(arrangedDistinct.select_eq_ok_iff.mpr arrangedOnly).1]
      rfl
  | several first second rest inOrder areBest =>
      have severalBest :
          ∃ first second,
            first ≠ second ∧
              (table.arranged bindings).IsBest name first ∧
              (table.arranged bindings).IsBest name second := by
        refine ⟨first, second, distinct.first_ne_second inOrder, ?_, ?_⟩
        · exact
            (isBest_arranged rearranged).mpr ((areBest first).mp (by simp))
        · exact
            (isBest_arranged rearranged).mpr ((areBest second).mp (by simp))
      obtain ⟨other, others, arrangedRefused⟩ :=
        arrangedDistinct.select_ambiguous_iff.mpr severalBest
      rw [arrangedRefused]
      exact
        patterns_perm_of_arranged distinct rearranged answered arrangedRefused
  | fallback binding noneFits isFallback =>
      have arrangedNoneFits :
          ∀ selection, ¬ (table.arranged bindings).Fits name selection :=
        fun selection fits =>
          noneFits selection ((fits_arranged rearranged).mp fits)
      rcases arrangedDistinct.select_fallback_iff.mp arrangedNoneFits with
          ⟨other, isOther, arrangedAnswered⟩ | ⟨noFallback, -⟩
      · cases isFallback.symm.trans isOther
        rw [arrangedAnswered]
        rfl
      · cases isFallback.symm.trans noFallback
  | notFound noneFits noFallback =>
      have arrangedNoneFits :
          ∀ selection, ¬ (table.arranged bindings).Fits name selection :=
        fun selection fits =>
          noneFits selection ((fits_arranged rearranged).mp fits)
      rcases arrangedDistinct.select_fallback_iff.mp arrangedNoneFits with
          ⟨other, isOther, -⟩ | ⟨-, arrangedAnswered⟩
      · cases noFallback.symm.trans isOther
      · rw [arrangedAnswered]
        rfl

/--
However a table has come about, it selects a route exactly when no other route
that fits is as good, reports exactly the best routes when there are several,
and falls back only when no route fits; in every arrangement of its routes it
answers alike.
-/
theorem selects_unique_best
    (edits : List (Edit α))
    (name : Name) :
    (∀ selection,
      ((after edits).select name = .ok selection ∧
          selection.binding ∈ (after edits).bindings) ↔
        ∀ other, (after edits).IsBest name other ↔ other = selection) ∧
      ((∃ resource patterns,
        (after edits).select name =
          .error (.routeAmbiguous resource patterns)) ↔
        ∃ first second,
          first ≠ second ∧
            (after edits).IsBest name first ∧
            (after edits).IsBest name second) ∧
      (∀ resource patterns,
        (after edits).select name =
          .error (.routeAmbiguous resource patterns) →
        resource = name.display ∧
          ∃ best : List (Binding α),
            best.Sublist (after edits).bindings ∧
              (∀ binding,
                binding ∈ best ↔
                  ∃ fit, (after edits).IsBest name ⟨binding, fit⟩) ∧
              patterns = best.map (·.matcher.display)) ∧
      ((∀ selection, ¬ (after edits).Fits name selection) ↔
        (∃ binding,
          (after edits).fallback = some binding ∧
            (after edits).select name = .ok ⟨binding, ⟨0, []⟩⟩) ∨
          ((after edits).fallback = none ∧
            (after edits).select name =
              .error (.routeNotFound name.display))) ∧
      ∀ bindings : List (Binding α),
        bindings.Perm (after edits).bindings →
        SameVerdict
          (((after edits).arranged bindings).select name)
          ((after edits).select name) := by
  have distinct : (after edits).Distinct := (Numbered.after edits).distinct
  exact
    ⟨fun _ => distinct.select_eq_ok_iff, distinct.select_ambiguous_iff,
      fun _ _ => ambiguous_lists_best, distinct.select_fallback_iff,
      fun _ rearranged => distinct.sameVerdict_arranged rearranged name⟩

end ResourceServer.Table
