import Mathlib.Data.List.Induction
import Mathlib.Data.List.Nodup
import ResourceServer.Proofs.Http.Understanding

namespace ResourceServer.Protocol

/-!
# Parameters by the spelling of their names

The pairs of a query are put together by the spelling of their names. No pair is
lost by that, each spelling has one group, and the groups stand in the order in
which their spellings first appear.
-/

section Spellings

variable {α : Type} [BEq α] [LawfulBEq α]

/-- A new last item is kept unless an earlier one equals it. -/
theorem eraseDups_concat
    (earlier : List α)
    (last : α) :
    (earlier ++ [last]).eraseDups =
      earlier.eraseDups ++ if earlier.contains last then [] else [last] := by
  rw [List.eraseDups_append]
  congr 1
  by_cases isIn : last ∈ earlier
  · simp [List.removeAll, isIn]
  · simp [List.removeAll, isIn, List.eraseDups_cons]

theorem nodup_eraseDups
    (items : List α) :
    items.eraseDups.Nodup := by
  induction items using List.reverseRecOn with
  | nil =>
      exact .nil
  | append_singleton earlier last inductionHypothesis =>
      rw [eraseDups_concat]
      split
      · rwa [List.append_nil]
      · rename_i isNew
        refine List.nodup_append.mpr
          ⟨inductionHypothesis, List.nodup_singleton last, ?_⟩
        intro one isEarlier other isLast isSame
        cases List.mem_singleton.mp isLast
        subst isSame
        exact isNew (List.contains_iff_mem.mpr (List.mem_eraseDups.mp isEarlier))

/-- What comes first without repetitions comes first with them. -/
theorem find?_eraseDups
    (wanted : α → Bool)
    (items : List α) :
    items.eraseDups.find? wanted = items.find? wanted := by
  induction items using List.reverseRecOn with
  | nil =>
      rfl
  | append_singleton earlier last inductionHypothesis =>
      rw [eraseDups_concat, List.find?_append, List.find?_append,
        inductionHypothesis]
      split
      · rename_i isOld
        have isIn := List.contains_iff_mem.mp isOld
        cases found : earlier.find? wanted with
        | some first =>
            rfl
        | none =>
            have isUnwanted := List.find?_eq_none.mp found last isIn
            simp [isUnwanted]
      · rfl

/-- What is not repeated stays as it is. -/
theorem filter_eraseDups
    {wanted : α → Bool}
    {items : List α}
    (distinct : (items.filter wanted).Nodup) :
    items.eraseDups.filter wanted = items.filter wanted := by
  induction items using List.reverseRecOn with
  | nil =>
      rfl
  | append_singleton earlier last inductionHypothesis =>
      rw [List.filter_append, List.nodup_append] at distinct
      obtain ⟨earlierDistinct, -, apart⟩ := distinct
      rw [eraseDups_concat, List.filter_append, List.filter_append,
        inductionHypothesis earlierDistinct]
      split
      · -- An old item is unwanted, since those wanted are not repeated.
        rename_i isOld
        have isIn := List.contains_iff_mem.mp isOld
        have isUnwanted : wanted last = false := by
          by_contra isWanted
          rw [Bool.not_eq_false] at isWanted
          exact apart last (List.mem_filter.mpr ⟨isIn, isWanted⟩) last
            (by simp [isWanted]) rfl
        simp [isUnwanted]
      · rfl

end Spellings

/-- The pairs that have been put together in a group. -/
def Group.pairs (group : Group) : List (String × String) :=
  group.values.map fun value => (group.name, value)

/-- A pair adds its name to the names of the groups, unless it is there. -/
theorem map_name_addToGroups
    (groups : List Group)
    (pair : String × String) :
    (addToGroups groups pair).map Group.name =
      groups.map Group.name ++
        if (groups.map Group.name).contains pair.1 then [] else [pair.1] := by
  induction groups with
  | nil =>
      rfl
  | cons group rest inductionHypothesis =>
      unfold addToGroups
      split
      · rename_i isName
        simp [isName]
      · rename_i isOther
        have differs : (pair.1 == group.name) = false :=
          beq_eq_false_iff_ne.mpr fun same => isOther same.symm
        rw [List.map_cons, inductionHypothesis, List.map_cons, List.cons_append,
          List.contains_cons, differs, Bool.false_or]

/-- A pair is added to the pairs that were put together before. -/
theorem pairs_addToGroups
    (groups : List Group)
    (pair : String × String) :
    ((addToGroups groups pair).flatMap Group.pairs).Perm
      (groups.flatMap Group.pairs ++ [pair]) := by
  induction groups with
  | nil =>
      exact List.Perm.refl _
  | cons group rest inductionHypothesis =>
      unfold addToGroups
      split
      · rename_i isName
        have isPair : (group.name, pair.2) = pair := by
          rw [isName]
        rw [List.flatMap_cons, List.flatMap_cons, Group.pairs, List.map_append,
          List.map_singleton, isPair, List.append_assoc, List.append_assoc]
        exact List.perm_append_comm.append_left _
      · rw [List.flatMap_cons, List.flatMap_cons, List.append_assoc]
        exact inductionHypothesis.append_left _

/-- The last pair of a query is added to the groups of all others. -/
theorem groups_concat
    (query : List (String × String))
    (pair : String × String) :
    groups (query ++ [pair]) = addToGroups (groups query) pair := by
  rw [groups, List.foldl_append]
  rfl

/-- The groups stand in the order in which their spellings first appear. -/
theorem map_name_groups
    (query : List (String × String)) :
    (groups query).map Group.name = (query.map Prod.fst).eraseDups := by
  induction query using List.reverseRecOn with
  | nil =>
      rfl
  | append_singleton earlier pair inductionHypothesis =>
      rw [groups_concat, map_name_addToGroups, inductionHypothesis,
        List.map_append, List.map_singleton, eraseDups_concat]
      simp only [List.contains_iff_mem, List.mem_eraseDups]

/-- No pair of a query is lost or made up when pairs are put together. -/
theorem pairs_groups
    (query : List (String × String)) :
    ((groups query).flatMap Group.pairs).Perm query := by
  induction query using List.reverseRecOn with
  | nil =>
      exact List.Perm.refl _
  | append_singleton earlier pair inductionHypothesis =>
      rw [groups_concat]
      exact (pairs_addToGroups _ _).trans (inductionHypothesis.append_right _)

theorem nodup_name_groups
    (query : List (String × String)) :
    ((groups query).map Group.name).Nodup := by
  rw [map_name_groups]
  exact nodup_eraseDups _

/-- The pairs under the names wanted are those of the groups wanted. -/
theorem filter_pairs
    (wanted : String → Bool)
    (groups : List Group) :
    ((groups.flatMap Group.pairs).filter fun pair => wanted pair.1) =
      (groups.filter fun group => wanted group.name).flatMap Group.pairs := by
  induction groups with
  | nil =>
      rfl
  | cons group rest inductionHypothesis =>
      rw [List.flatMap_cons, List.filter_append, inductionHypothesis]
      cases isWanted : wanted group.name with
      | true => simp [Group.pairs, List.filter_map, Function.comp_def, isWanted]
      | false => simp [Group.pairs, List.filter_map, Function.comp_def, isWanted]

/-- A pair of a query is in the group of its spelling. -/
theorem exists_group_of_mem
    {query : List (String × String)}
    {pair : String × String}
    (isGiven : pair ∈ query) :
    ∃ group ∈ groups query, group.name = pair.1 ∧ pair.2 ∈ group.values := by
  have isGrouped := (pairs_groups query).mem_iff.mpr isGiven
  obtain ⟨group, isGroup, inGroup⟩ := List.mem_flatMap.mp isGrouped
  obtain ⟨value, isValue, rfl⟩ := List.mem_map.mp inGroup
  exact ⟨group, isGroup, rfl, isValue⟩

/-- Each value of a group was given in the query, under the group's name. -/
theorem mem_of_group
    {query : List (String × String)}
    {group : Group}
    (isGroup : group ∈ groups query)
    {value : String}
    (isValue : value ∈ group.values) :
    (group.name, value) ∈ query :=
  (pairs_groups query).mem_iff.mp
    (List.mem_flatMap.mpr ⟨group, isGroup, List.mem_map_of_mem isValue⟩)

theorem eq_of_name
    {query : List (String × String)}
    {group other : Group}
    (isGroup : group ∈ groups query)
    (isOther : other ∈ groups query)
    (sameName : group.name = other.name) :
    group = other :=
  List.inj_on_of_nodup_map (nodup_name_groups query) isGroup isOther sameName

/-- A spelling with a single value is that of one pair. -/
theorem filter_of_only
    {query : List (String × String)}
    {group : Group}
    {value : String}
    (isGroup : group ∈ groups query)
    (only : group.values = [value]) :
    (query.filter fun pair => pair.1 == group.name) = [(group.name, value)] := by
  have ofName :
      ((groups query).filter fun other => other.name == group.name) =
        [group] := by
    have isName := List.mem_map_of_mem (f := Group.name) isGroup
    have isOne :
        ((groups query).filter fun other => other.name == group.name).map
            Group.name =
          [group.name] := by
      rw [← Function.comp_def (· == group.name) Group.name, ← List.filter_map,
        List.filter_beq,
        List.count_eq_one_of_mem (nodup_name_groups query) isName]
      rfl
    obtain ⟨other, isOther, -⟩ := List.map_eq_singleton_iff.mp isOne
    have isFound :
        other ∈ (groups query).filter fun other => other.name == group.name := by
      rw [isOther]
      exact List.mem_singleton_self other
    obtain ⟨otherGroup, sameName⟩ := List.mem_filter.mp isFound
    rw [isOther, eq_of_name otherGroup isGroup (beq_iff_eq.mp sameName)]
  have together := (pairs_groups query).filter fun pair => pair.1 == group.name
  rw [filter_pairs (· == group.name), ofName, List.flatMap_singleton,
    Group.pairs, only] at together
  exact List.perm_singleton.mp together.symm

/-! ## The pair that counts -/

/-- The first group under a name wanted is that of the first such pair. -/
theorem find?_of_only
    {wanted : String → Bool}
    {query : List (String × String)}
    {group : Group}
    {value : String}
    (isFirst :
      ((groups query).find? fun group => wanted group.name) = some group)
    (only : group.values = [value]) :
    (query.find? fun pair => wanted pair.1) = some (group.name, value) := by
  have isGroup := List.mem_of_find?_eq_some isFirst
  have sameFirst :
      (query.find? fun pair => wanted pair.1).map Prod.fst = some group.name := by
    rw [← Function.comp_def wanted Prod.fst, ← List.find?_map,
      ← find?_eraseDups, ← map_name_groups, List.find?_map, Function.comp_def,
      isFirst]
    rfl
  obtain ⟨pair, isPair, isName⟩ := Option.map_eq_some_iff.mp sameFirst
  have isUnder :
      pair ∈ query.filter fun pair => pair.1 == group.name :=
    List.mem_filter.mpr
      ⟨List.mem_of_find?_eq_some isPair, beq_iff_eq.mpr isName⟩
  rw [filter_of_only isGroup only] at isUnder
  rw [isPair, List.mem_singleton.mp isUnder]

/-- Where no group has a wanted name, the query has none. -/
theorem find?_of_none
    {wanted : String → Bool}
    {query : List (String × String)}
    (isNone : ((groups query).find? fun group => wanted group.name) = none) :
    (query.find? fun pair => wanted pair.1) = none := by
  refine List.find?_eq_none.mpr fun pair isGiven => ?_
  obtain ⟨group, isGroup, isName, -⟩ := exists_group_of_mem isGiven
  rw [← isName]
  exact List.find?_eq_none.mp isNone group isGroup

/-- Pairs under names of their own are in order if their names are. -/
theorem eq_of_perm
    {left right : List (String × String)}
    (together : left.Perm right)
    (sameNames : left.map Prod.fst = right.map Prod.fst)
    (distinct : (right.map Prod.fst).Nodup) :
    left = right := by
  induction left generalizing right with
  | nil =>
      exact (List.nil_perm.mp together).symm
  | cons first rest inductionHypothesis =>
      cases right with
      | nil =>
          cases sameNames
      | cons other others =>
          obtain ⟨sameName, restNames⟩ := List.cons.inj sameNames
          have isFirst : first = other :=
            List.inj_on_of_nodup_map distinct
              (together.mem_iff.mp List.mem_cons_self) List.mem_cons_self
              sameName
          subst isFirst
          rw [inductionHypothesis together.cons_inv restNames
            (List.nodup_cons.mp distinct).2]

/-- Where each group has one value, the names of the pairs are those of the groups. -/
theorem map_fst_pairs_of_only
    {groups : List Group}
    (only : ∀ group ∈ groups, ∃ value, group.values = [value]) :
    (groups.flatMap Group.pairs).map Prod.fst = groups.map Group.name := by
  induction groups with
  | nil =>
      rfl
  | cons group rest inductionHypothesis =>
      obtain ⟨firstOnly, restOnly⟩ := List.forall_mem_cons.mp only
      obtain ⟨value, isOnly⟩ := firstOnly
      rw [List.flatMap_cons, List.map_append, inductionHypothesis restOnly,
        Group.pairs, isOnly]
      rfl

/-- If each group wanted has a single value, these are the pairs wanted. -/
theorem flatMap_pairs_of_only
    {wanted : String → Bool}
    {query : List (String × String)}
    (only :
      ∀ group ∈ groups query,
        wanted group.name = true → ∃ value, group.values = [value]) :
    ((groups query).filter fun group => wanted group.name).flatMap Group.pairs =
      query.filter fun pair => wanted pair.1 := by
  have together := (pairs_groups query).filter fun pair => wanted pair.1
  rw [filter_pairs] at together
  have areNames :
      (((groups query).filter fun group => wanted group.name).flatMap
          Group.pairs).map Prod.fst =
        ((groups query).map Group.name).filter wanted := by
    rw [map_fst_pairs_of_only, List.filter_map]
    · rfl
    · intro group isWanted
      obtain ⟨isGroup, isName⟩ := List.mem_filter.mp isWanted
      exact only group isGroup isName
  have distinct :
      ((query.filter fun pair => wanted pair.1).map Prod.fst).Nodup := by
    rw [← (together.map Prod.fst).nodup_iff, areNames]
    exact (nodup_name_groups query).filter _
  refine eq_of_perm together ?_ distinct
  have areFiltered :
      (query.filter fun pair => wanted pair.1).map Prod.fst =
        (query.map Prod.fst).filter wanted := by
    rw [List.filter_map]
    rfl
  rw [areFiltered] at distinct ⊢
  rw [areNames, map_name_groups, filter_eraseDups distinct]

end ResourceServer.Protocol
