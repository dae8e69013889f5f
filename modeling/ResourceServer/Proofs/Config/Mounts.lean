import Mathlib.Data.List.Pairwise
import ResourceServer.Config.Mounting
import ResourceServer.Config.Validation
import ResourceServer.Proofs.Route.Tie

namespace ResourceServer

/-!
# The mounts of an accepted configuration

Each mount of a configuration without problems has a pattern that can be read,
and no two of them are one pattern in one mode, so all of them can be added to
a table. Patterns that only call their variables differently are different to
this check, and yet they fit the same names and neither is better. A name is
ambiguous exactly where two such patterns are the best that fit it.
-/

namespace Matcher

/-- Matchers that differ in what they call their variables, and in that alone. -/
structure Rivals (left right : Matcher) : Prop where
  sameMode : left.mode = right.mode
  alike :
    List.Forall₂ Segment.Alike left.template.segments right.template.segments
  different : left.same right = false

/-- One of the matchers fits the name, and none that fits it is better. -/
structure IsBest
    (matchers : List Matcher)
    (name : Name)
    (matcher : Matcher) : Prop where
  isIn : matcher ∈ matchers
  fits : (matcher.fit? name).isSome = true
  noneBetter :
    ∀ other ∈ matchers,
      (other.fit? name).isSome = true → other.rank matcher ≠ .gt

/-- Different matchers that are both the best for a name are rivals. -/
theorem IsBest.rivals
    {matchers : List Matcher}
    {name : Name}
    {first second : Matcher}
    (firstBest : IsBest matchers name first)
    (secondBest : IsBest matchers name second)
    (different : first.same second = false) :
    first.Rivals second := by
  have notAbove : first.rank second ≠ .gt :=
    secondBest.noneBetter first firstBest.isIn firstBest.fits
  have notBelow : second.rank first ≠ .gt :=
    firstBest.noneBetter second secondBest.isIn secondBest.fits
  have tie : first.rank second = .eq := by
    cases order : first.rank second with
    | eq =>
        rfl
    | gt =>
        exact absurd order notAbove
    | lt =>
        exact absurd (Std.OrientedCmp.gt_of_lt order) notBelow
  obtain ⟨sameMode, alike⟩ :=
    alike_of_rank_eq tie firstBest.fits secondBest.fits
  exact ⟨sameMode, alike, different⟩

theorem same_self
    (matcher : Matcher) :
    matcher.same matcher = true := by
  simp only [same, Template.same, Name.same, beq_self_eq_true, Bool.and_self]

theorem same_comm
    (left right : Matcher) :
    left.same right = right.same left := by
  simp only [same, Template.same, Name.same, Bool.beq_comm]

end Matcher

/-! ## Registering mounts -/

namespace Table

variable
  {α : Type u}
  {table : Table α}
  {name : Name}

theorem add_of_parse
    {mode : Mode}
    {pattern : String}
    {matcher : Matcher}
    (parsed : Matcher.parse mode pattern = .ok matcher)
    (target : α) :
    table.add mode pattern target = .ok (table.insert matcher target) := by
  rw [add, parsed]
  rfl

/-- The best routes of a table are those whose matchers are the best. -/
theorem isBest_iff
    {selection : Selection α}
    (fits : table.Fits name selection) :
    table.IsBest name selection ↔
      Matcher.IsBest (table.bindings.map Binding.matcher) name
        selection.binding.matcher := by
  constructor
  · intro isBest
    refine ⟨List.mem_map_of_mem fits.1, Option.isSome_of_eq_some fits.2, ?_⟩
    intro other isIn otherFits isAbove
    obtain ⟨binding, isRoute, rfl⟩ := List.mem_map.mp isIn
    obtain ⟨fit, isFit⟩ := Option.isSome_iff_exists.mp otherFits
    have outranks : (Selection.mk binding fit).Outranks selection :=
      (Selection.rank_eq_gt_iff isFit fits.2).mp isAbove
    exact isBest.2 ⟨binding, fit⟩ ⟨isRoute, isFit⟩ outranks
  · intro isBest
    refine ⟨fits, ?_⟩
    intro other otherFits outranks
    exact
      isBest.noneBetter other.binding.matcher (List.mem_map_of_mem otherFits.1)
        (Option.isSome_of_eq_some otherFits.2)
        ((Selection.rank_eq_gt_iff otherFits.2 fits.2).mpr outranks)

theorem exists_isBest
    {matcher : Matcher}
    (isBest :
      Matcher.IsBest (table.bindings.map Binding.matcher) name matcher) :
    ∃ selection,
      selection.binding.matcher = matcher ∧ table.IsBest name selection := by
  obtain ⟨binding, isRoute, rfl⟩ := List.mem_map.mp isBest.isIn
  obtain ⟨fit, isFit⟩ := Option.isSome_iff_exists.mp isBest.fits
  have fits : table.Fits name ⟨binding, fit⟩ := ⟨isRoute, isFit⟩
  exact ⟨⟨binding, fit⟩, rfl, (isBest_iff fits).mpr isBest⟩

/-- A route fits a name in one way. -/
theorem Fits.eq_of_binding
    {first second : Selection α}
    (firstFits : table.Fits name first)
    (secondFits : table.Fits name second)
    (sameBinding : first.binding = second.binding) :
    first = second := by
  obtain ⟨binding, fit⟩ := first
  cases sameBinding
  cases firstFits.2.symm.trans secondFits.2
  rfl

instance : Std.Symm fun first second : Binding α =>
    first.matcher.same second.matcher = false where
  symm first second different :=
    (Matcher.same_comm second.matcher first.matcher).trans different

/-- Where no two routes are one pattern in one mode, ambiguity is rivalry. -/
theorem select_ambiguous_iff_rivals
    (numbered : table.Numbered)
    (apart :
      (table.bindings.map Binding.matcher).Pairwise fun earlier later =>
        earlier.same later = false) :
    (∃ resource patterns,
      table.select name = .error (.routeAmbiguous resource patterns)) ↔
      ∃ first second : Matcher,
        first.Rivals second ∧
          Matcher.IsBest (table.bindings.map Binding.matcher) name first ∧
          Matcher.IsBest (table.bindings.map Binding.matcher) name second := by
  rw [numbered.distinct.select_ambiguous_iff]
  constructor
  · rintro ⟨first, second, different, firstBest, secondBest⟩
    have notSame :
        first.binding.matcher.same second.binding.matcher = false := by
      -- Different routes stand at different places, so the check applies to them.
      refine
        (List.pairwise_map.mp apart).forall firstBest.1.1 secondBest.1.1 ?_
      intro sameBinding
      exact different (firstBest.1.eq_of_binding secondBest.1 sameBinding)
    have isBest := (isBest_iff firstBest.1).mp firstBest
    have isBestToo := (isBest_iff secondBest.1).mp secondBest
    exact ⟨_, _, isBest.rivals isBestToo notSame, isBest, isBestToo⟩
  · rintro ⟨first, second, rivals, firstBest, secondBest⟩
    obtain ⟨selection, rfl, isBest⟩ := exists_isBest firstBest
    obtain ⟨other, rfl, isBestToo⟩ := exists_isBest secondBest
    refine ⟨selection, other, ?_, isBest, isBestToo⟩
    rintro rfl
    have isSame := Matcher.same_self selection.binding.matcher
    rw [rivals.different] at isSame
    cases isSame

end Table

/-- Nothing is reported where the condition is met. -/
theorem ConfigProblem.require_eq_nil_iff
    {condition : Bool}
    {place : String}
    {fault : ConfigFault} :
    require condition place fault = [] ↔ condition = true := by
  cases condition with
  | true =>
      simp only [require, if_true]
  | false =>
      simp only [require, Bool.false_eq_true, if_false, reduceCtorEq]

namespace Mount

/-- The patterns of the mounts can be read, and these are their matchers. -/
def HaveMatchers
    (mounts : List Mount)
    (matchers : List Matcher) : Prop :=
  List.Forall₂
    (fun mount matcher =>
      Matcher.parse mount.mode mount.pattern = .ok matcher)
    mounts matchers

/-- Mounts without problems have matchers, and no two of these are the same. -/
theorem matchers_of_accepted
    {index : Nat}
    {taken : List Matcher}
    {mounts : List Mount}
    (accepted : problemsFrom index taken mounts = []) :
    ∃ matchers,
      HaveMatchers mounts matchers ∧
        (matchers.Pairwise fun earlier later => earlier.same later = false) ∧
        ∀ matcher ∈ matchers, ∀ earlier ∈ taken, matcher.same earlier = false := by
  induction mounts generalizing index taken with
  | nil =>
      refine ⟨[], .nil, .nil, ?_⟩
      intro matcher isIn
      cases isIn
  | cons mount rest inductionHypothesis =>
      simp only [problemsFrom] at accepted
      cases parsed : Matcher.parse mount.mode mount.pattern with
      | error fault =>
          rw [parsed] at accepted
          cases accepted
      | ok matcher =>
          rw [parsed] at accepted
          obtain ⟨ownAccepted, restAccepted⟩ := List.append_eq_nil_iff.mp accepted
          obtain ⟨isNew, -⟩ := List.append_eq_nil_iff.mp ownAccepted
          obtain ⟨matchers, haveMatchers, pairwise, apart⟩ :=
            inductionHypothesis restAccepted
          have notTaken : ∀ earlier ∈ taken, matcher.same earlier = false := by
            have noneSame := ConfigProblem.require_eq_nil_iff.mp isNew
            simpa only [Bool.not_eq_true', List.any_eq_false,
              Bool.not_eq_true] using noneSame
          refine
            ⟨matcher :: matchers, .cons parsed haveMatchers,
              .cons ?_ pairwise, ?_⟩
          · -- Later mounts were held against this one, which was taken by then.
            intro later isIn
            rw [Matcher.same_comm]
            exact apart later isIn matcher List.mem_cons_self
          · intro one isIn earlier isTaken
            rcases List.mem_cons.mp isIn with rfl | isLater
            · exact notTaken earlier isTaken
            · exact apart one isLater earlier (List.mem_cons_of_mem _ isTaken)

/-- Mounts with matchers can all be registered, and their routes are in order. -/
theorem registerFrom_of_matchers
    {α : Type u}
    {mounts : List Mount}
    {matchers : List Matcher}
    (haveMatchers : HaveMatchers mounts matchers)
    (target : Nat → α)
    (slot : Nat)
    {table : Table α}
    (numbered : table.Numbered) :
    ∃ after,
      registerFrom target slot table mounts = .ok after ∧
        after.Numbered ∧
        after.bindings.map Binding.matcher =
          table.bindings.map Binding.matcher ++ matchers := by
  induction haveMatchers generalizing slot table with
  | nil =>
      exact ⟨table, rfl, numbered, (List.append_nil _).symm⟩
  | @cons mount matcher rest matchers parsed _ inductionHypothesis =>
      obtain ⟨after, registered, numberedAfter, inOrder⟩ :=
        inductionHypothesis (slot + 1) (numbered.insert matcher (target slot))
      refine ⟨after, ?_, numberedAfter, ?_⟩
      · simp only [registerFrom, Table.add_of_parse parsed]
        exact registered
      · rw [inOrder, Table.insert, List.map_append, List.append_assoc]
        rfl

end Mount

namespace ServerConfig

/--
The mounts of a configuration without problems can all be registered. A name is
then ambiguous if and only if the best mounts for it include two that differ in
what they call their variables alone.
-/
theorem ambiguous_iff_rivals
    {α : Type u}
    (config : ServerConfig)
    (accepted : config.problems = [])
    (target : Nat → α) :
    ∃ matchers table,
      Mount.HaveMatchers config.mounts matchers ∧
        config.table target = .ok table ∧
        table.bindings.map Binding.matcher = matchers ∧
        ∀ name : Name,
          (∃ resource patterns,
            table.select name = .error (.routeAmbiguous resource patterns)) ↔
            ∃ first second : Matcher,
              first.Rivals second ∧
                Matcher.IsBest matchers name first ∧
                Matcher.IsBest matchers name second := by
  obtain ⟨-, mountsAccepted⟩ := List.append_eq_nil_iff.mp accepted
  obtain ⟨matchers, haveMatchers, apart, -⟩ :=
    Mount.matchers_of_accepted mountsAccepted
  obtain ⟨table, registered, numbered, inOrder⟩ :=
    Mount.registerFrom_of_matchers haveMatchers target 0 Table.Numbered.empty
  have isMatchers : table.bindings.map Binding.matcher = matchers := inOrder
  subst isMatchers
  refine ⟨_, table, haveMatchers, registered, rfl, ?_⟩
  intro name
  exact Table.select_ambiguous_iff_rivals numbered apart

/-- Users are mounted twice under different variables, and one of them apart. -/
theorem ambiguous_iff_rivals_of_users :
    let config : ServerConfig :=
      { mounts :=
          [⟨"users/\x7bid\x7d", .startsWith, "users"⟩,
            ⟨"users/me", .startsWith, "me"⟩,
            ⟨"users/\x7bname\x7d", .startsWith, "names"⟩] }
    config.problems = [] ∧
      ∃ matchers table,
        Mount.HaveMatchers config.mounts matchers ∧
          config.table id = .ok table ∧
          table.bindings.map Binding.matcher = matchers ∧
          ∀ name : Name,
            (∃ resource patterns,
              table.select name = .error (.routeAmbiguous resource patterns)) ↔
              ∃ first second : Matcher,
                first.Rivals second ∧
                  Matcher.IsBest matchers name first ∧
                  Matcher.IsBest matchers name second := by
  intro config
  have accepted : config.problems = [] := by
    decide +kernel
  exact ⟨accepted, ambiguous_iff_rivals config accepted id⟩

/-- Nothing is wrong with these mounts, and yet they leave a name ambiguous. -/
theorem accepted_and_ambiguous :
    let config : ServerConfig :=
      { mounts :=
          [⟨"\x7ba\x7d", .startsWith, "x"⟩, ⟨"\x7bb\x7d", .startsWith, "y"⟩] }
    let name : Name := ⟨["u"], by decide⟩
    config.problems = [] ∧
      ∃ table : Table Nat,
        config.table id = .ok table ∧
          table.select name =
            .error
              (.routeAmbiguous "u"
                ["starts_with \x7ba\x7d", "starts_with \x7bb\x7d"]) := by
  intro config name
  have accepted : config.problems = [] := by
    decide +kernel
  refine ⟨accepted, _, rfl, ?_⟩
  rfl

end ServerConfig

end ResourceServer
