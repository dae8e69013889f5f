import Mathlib.Data.List.Nodup
import ResourceServer.Proofs.Json.FieldOrder
import ResourceServer.Proofs.Store.History
import ResourceServer.Proofs.Store.Paging

namespace ResourceServer

/-!
# The order of results

Whatever the sort keys, the comparison of resources is a total preorder that
tells resources with different ids apart. No two resources of a store have the
same id, so there is one order for its results and it does not depend on the
order in which the store keeps them.
-/

/-- A comparison that sorting can rely on and that tells ids apart. -/
structure Resource.OrdersTotally
    (order : Resource → Resource → Ordering) : Prop where
  reflexive : ∀ resource, order resource resource = .eq
  antisymmetric :
    ∀ first second, order first second = (order second first).swap
  transitive :
    ∀ first second third,
      (order first second).isLE →
        (order second third).isLE →
          (order first third).isLE
  strict :
    ∀ first second third,
      order first second = .lt →
        order second third = .lt →
          order first third = .lt
  separates :
    ∀ first second, order first second = .eq → first.id = second.id

namespace SortKey

variable (key : SortKey)

theorem compareBy_of_ascending
    (ascending : key.ascending = true)
    (left right : Resource) :
    key.compareBy left right =
      Json.compareFields (key.fieldOf left) (key.fieldOf right) := by
  simp only [compareBy, ascending, if_true]

/-- To sort in descending order is to compare the other way round. -/
theorem compareBy_of_descending
    (descending : ¬ key.ascending = true)
    (left right : Resource) :
    key.compareBy left right =
      Json.compareFields (key.fieldOf right) (key.fieldOf left) := by
  have swapped :
      Json.compareFields (key.fieldOf right) (key.fieldOf left) =
        (Json.compareFields (key.fieldOf left) (key.fieldOf right)).swap :=
    Std.OrientedCmp.eq_swap
  rw [compareBy, if_neg descending, swapped]

instance : Std.TransCmp key.compareBy where
  eq_swap := by
    intro left right
    by_cases ascending : key.ascending = true
    · simp only [key.compareBy_of_ascending ascending]
      exact Std.OrientedCmp.eq_swap
    · simp only [key.compareBy_of_descending ascending]
      exact Std.OrientedCmp.eq_swap
  isLE_trans := by
    intro first second third firstSecond secondThird
    by_cases ascending : key.ascending = true
    · simp only [key.compareBy_of_ascending ascending] at *
      exact Std.TransCmp.isLE_trans firstSecond secondThird
    · simp only [key.compareBy_of_descending ascending] at *
      exact Std.TransCmp.isLE_trans secondThird firstSecond

end SortKey

namespace Resource

theorem compareBy_nil :
    compareBy [] = compareOn Resource.id :=
  rfl

/-- Keys decide in turn, each where all before it left equal. -/
theorem compareBy_cons
    (key : SortKey)
    (rest : List SortKey) :
    compareBy (key :: rest) = compareLex key.compareBy (compareBy rest) :=
  rfl

instance transCmp_compareBy
    (keys : List SortKey) :
    Std.TransCmp (compareBy keys) := by
  induction keys with
  | nil =>
      rw [compareBy_nil]
      infer_instance
  | cons key rest inductionHypothesis =>
      rw [compareBy_cons]
      infer_instance

/-- Only resources of one id compare equal. -/
theorem id_eq_of_compareBy
    {keys : List SortKey}
    {left right : Resource}
    (equal : compareBy keys left right = .eq) :
    left.id = right.id := by
  induction keys with
  | nil =>
      exact Std.LawfulEqOrd.eq_of_compare equal
  | cons key rest inductionHypothesis =>
      rw [compareBy, Ordering.then_eq_eq] at equal
      exact inductionHypothesis equal.2

/-- Any sort keys order resources totally, since ids decide at last. -/
theorem ordersTotally_compareBy
    (keys : List SortKey) :
    OrdersTotally (compareBy keys) where
  reflexive := fun _ => Std.ReflCmp.compare_self
  antisymmetric := fun _ _ => Std.OrientedCmp.eq_swap
  transitive := fun _ _ _ => Std.TransCmp.isLE_trans
  strict := fun _ _ _ => Std.TransCmp.lt_trans
  separates := fun _ _ => id_eq_of_compareBy

/-! ## Sorted resources -/

/-- Sorting loses and repeats no resource. -/
theorem sortBy_perm
    (keys : List SortKey)
    (resources : List Resource) :
    (sortBy keys resources).Perm resources :=
  List.mergeSort_perm resources _

/-- Sorted resources ascend by the sort keys. -/
theorem pairwise_sortBy
    (keys : List SortKey)
    (resources : List Resource) :
    (sortBy keys resources).Pairwise fun left right =>
      (compareBy keys left right).isLE := by
  refine List.pairwise_mergeSort ?_ ?_ resources
  · intro first second third
    exact Std.TransCmp.isLE_trans
  · intro left right
    have swapped :
        compareBy keys right left = (compareBy keys left right).swap :=
      Std.OrientedCmp.eq_swap
    rw [swapped]
    cases compareBy keys left right <;> rfl

variable
  {keys : List SortKey}
  {resources sorted : List Resource}

/-- There is one way only to sort resources with different ids. -/
theorem eq_sortBy
    (differ : (resources.map Resource.id).Nodup)
    (perm : sorted.Perm resources)
    (ascend :
      sorted.Pairwise fun left right =>
        (compareBy keys left right).isLE) :
    sorted = sortBy keys resources := by
  have rearranged := perm.trans (sortBy_perm keys resources).symm
  refine List.Perm.eq_of_pairwise ?_ ascend (pairwise_sortBy _ _) rearranged
  intro left right leftMember rightMember leftRight rightLeft
  have equal : compareBy keys left right = .eq :=
    Std.OrientedCmp.isLE_antisymm leftRight rightLeft
  exact
    List.inj_on_of_nodup_map differ
      (perm.mem_iff.mp leftMember)
      ((sortBy_perm keys resources).mem_iff.mp rightMember)
      (id_eq_of_compareBy equal)

/-- Resources with different ids come in a strict order. -/
theorem pairwise_lt_sortBy
    (differ : (resources.map Resource.id).Nodup) :
    (sortBy keys resources).Pairwise fun left right =>
      compareBy keys left right = .lt := by
  have idsDiffer :
      (sortBy keys resources).Pairwise fun left right =>
        left.id ≠ right.id := by
    apply List.pairwise_map.mp
    exact ((sortBy_perm keys resources).map _).nodup_iff.mpr differ
  refine (pairwise_sortBy keys resources).imp₂ ?_ idsDiffer
  intro left right isLE isOther
  cases compared : compareBy keys left right with
  | lt => rfl
  | eq => exact absurd (id_eq_of_compareBy compared) isOther
  | gt => rw [compared] at isLE; cases isLE

end Resource

/-! ## Results of a store -/

/-- What a query lists of an entry: all of it, or no more than its id and revision. -/
def Entry.listed
    (entry : Entry)
    (idsOnly : Bool) :
    Resource where
  id := some entry.id
  revision := some (toString entry.revision)
  content := if idsOnly then .object [] else entry.content

namespace Store

variable {store : Store}

/-- A query is about all entries of the store, each of them once. -/
theorem selected_eq_map_listed
    (store : Store)
    (idsOnly : Bool) :
    store.selected idsOnly =
      store.entries.map fun pair => pair.2.listed idsOnly := by
  rw [selected]
  refine List.map_congr_left ?_
  rintro ⟨key, entry⟩ -
  cases idsOnly <;> rfl

/-- No two resources of a store have the same id. -/
theorem Keyed.nodup_ids
    (keyed : store.Keyed)
    (idsOnly : Bool) :
    ((store.selected idsOnly).map Resource.id).Nodup := by
  have ids :
      (store.selected idsOnly).map Resource.id =
        store.entries.map fun pair => some pair.2.id := by
    rw [selected_eq_map_listed, List.map_map]
    rfl
  have keys :
      (store.entries.map fun pair => some pair.2.id).map
          (Option.map Text.fold) =
        (store.entries.map Prod.fst).map some := by
    rw [← keyed.map_fold_id, List.map_map, List.map_map]
    rfl
  rw [ids]
  refine List.Nodup.of_map (Option.map Text.fold) ?_
  rw [keys]
  exact keyed.sorted.keys_nodup.map (Option.some_injective String)

/-- A query is answered alike in whatever order the entries are kept. -/
theorem Keyed.query_of_perm
    (keyed : store.Keyed)
    {entries : List (String × Entry)}
    (perm : entries.Perm store.entries)
    (query : Query) :
    Store.query { store with entries := entries } query =
      store.query query := by
  have sameResults :
      ∀ idsOnly,
        Resource.sortBy query.sortKeys
            (selected { store with entries := entries } idsOnly) =
          Resource.sortBy query.sortKeys (store.selected idsOnly) := by
    intro idsOnly
    have rearranged :
        (selected { store with entries := entries } idsOnly).Perm
          (store.selected idsOnly) :=
      perm.map _
    exact
      Resource.eq_sortBy (keyed.nodup_ids idsOnly)
        ((Resource.sortBy_perm _ _).trans rearranged)
        (Resource.pairwise_sortBy _ _)
  have sameSelection :
      idsOnly { store with entries := entries } query =
        store.idsOnly query :=
    rfl
  simp only [Store.query, sameSelection, sameResults]

/--
The comparison of resources meets what sorting asks for. So after every history
the results of a query are the entries of the store, each of them once and
without its content where ids alone are wanted, in the one order in which they
ascend, whatever the order in which the store keeps them. A page shows them from
its start on, and without a size it shows all that are left.
-/
theorem results_in_one_order
    (name : String)
    (calls : List Call)
    (query : Query) :
    let store := (empty name).afterAll calls
    let idsOnly := query.filter ≠ some allFilter
    let all := store.entries.map fun pair => pair.2.listed idsOnly
    let results := store.results query
    (∀ keys, Resource.OrdersTotally (Resource.compareBy keys)) ∧
      (∀ entries : List (String × Entry),
        entries.Perm store.entries →
          Store.query { store with entries := entries } query =
            store.query query) ∧
      (∀ start,
        Supported query →
          startOf query = .ok start →
            ∃ page,
              store.query query = .ok page ∧
                page = pageFrom query results start ∧
                page.resources =
                  if query.pageSize = 0 then
                    results.drop start
                  else
                    (results.drop start).take query.pageSize) ∧
      results.Perm all ∧
      (results.Pairwise fun first second =>
        Resource.compareBy query.sortKeys first second = .lt) ∧
      ∀ sorted : List Resource,
        sorted.Perm all →
          (sorted.Pairwise fun first second =>
            (Resource.compareBy query.sortKeys first second).isLE) →
              sorted = results := by
  intro store idsOnly all results
  have keyed : store.Keyed := (Keyed.empty name).afterAll calls
  have isAll : all = store.selected idsOnly :=
    (store.selected_eq_map_listed idsOnly).symm
  have differ : (all.map Resource.id).Nodup := by
    rw [isAll]
    exact keyed.nodup_ids _
  have sorts : results = Resource.sortBy query.sortKeys all := by
    rw [isAll]
    rfl
  refine ⟨Resource.ordersTotally_compareBy, ?_, ?_, ?_, ?_, ?_⟩
  · intro entries perm
    exact keyed.query_of_perm perm query
  · intro start supported starts
    exact
      ⟨_, query_of_supported supported starts, rfl,
        resources_pageFrom query results start⟩
  · rw [sorts]
    exact Resource.sortBy_perm query.sortKeys all
  · rw [sorts]
    exact Resource.pairwise_lt_sortBy differ
  · intro sorted perm ascend
    rw [sorts]
    exact Resource.eq_sortBy differ perm ascend

/-! ## Three letters -/

namespace Letters

/-- A call that creates a resource with a letter. -/
def creating (id letter : String) : Call :=
  let content := .object [("v", .string letter)]
  ⟨"", ⟨Name.empty, [], [], .create content (some id)⟩⟩

/-- Sorted by the letters. -/
def byLetter : Query :=
  { sortKeys := [⟨"v", true⟩] }

/-- The resource with a letter. -/
def resource (id letter : String) : Resource :=
  ⟨some id, some "0", .object [("v", .string letter)]⟩

end Letters

/-- Sorted by letters, resources with the same letter come in the order of ids. -/
theorem results_in_one_order_of_letters :
    let calls :=
      [Letters.creating "1" "b", Letters.creating "3" "a", Letters.creating "2" "a"]
    let query := { Letters.byLetter with filter := some allFilter }
    ∃ page,
      ((empty "letters").afterAll calls).query query = .ok page ∧
        page.resources =
          [Letters.resource "2" "a", Letters.resource "3" "a",
            Letters.resource "1" "b"] := by
  intro calls query
  obtain ⟨-, -, paged, -, -, unique⟩ := results_in_one_order "letters" calls query
  obtain ⟨page, answered, -, shown⟩ := paged 0 (.inl rfl) rfl
  refine ⟨page, answered, shown.trans (unique _ ?_ ?_).symm⟩
  · decide
  · decide

end Store

end ResourceServer
