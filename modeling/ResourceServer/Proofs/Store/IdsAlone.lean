import ResourceServer.Proofs.Store.ResultOrder

namespace ResourceServer

/-!
# Queries for ids alone

A query for ids alone is answered with the page that the query for all
resources is answered with, only without contents. But the contents are taken
away before the results are sorted, so sort keys find nothing to compare and
the results come in the order of their ids. They come in the same order as the
resources themselves just if the sort keys never go against that order.
-/

namespace Resource

/-- The resource without its content. -/
def bare (resource : Resource) : Resource :=
  { resource with content := .object [] }

/-- What is left of a resource without its content: the id and the revision. -/
def identity (resource : Resource) : Option String × Option String :=
  (resource.id, resource.revision)

/-- Without contents, no sort key tells two resources apart. -/
theorem compareBy_bare
    (keys : List SortKey)
    (left right : Resource) :
    compareBy keys left.bare right.bare = compare left.id right.id := by
  induction keys with
  | nil =>
      rfl
  | cons key rest inductionHypothesis =>
      have sameField :
          key.compareBy left.bare right.bare = key.compareBy left.bare left.bare :=
        rfl
      have equal : key.compareBy left.bare left.bare = .eq :=
        Std.ReflCmp.compare_self
      rw [compareBy, sameField, equal, Ordering.eq_then, inductionHypothesis]

/-- So resources without contents are sorted by their ids, whatever the keys. -/
theorem sortBy_map_bare
    (keys : List SortKey)
    (resources : List Resource) :
    sortBy keys (resources.map bare) = (sortBy [] resources).map bare := by
  refine (List.map_mergeSort ?_).symm
  intro left _ right _
  rw [compareBy_bare, compareBy]

/-- Where a list ascends in two orders, they are the same on its members. -/
theorem lt_of_ascending
    {keys others : List SortKey}
    {sorted : List Resource}
    {first second : Resource}
    (byKeys : sorted.Pairwise fun left right => compareBy keys left right = .lt)
    (byOthers : sorted.Pairwise fun left right => compareBy others left right = .lt)
    (isFirst : first ∈ sorted)
    (isSecond : second ∈ sorted)
    (before : compareBy keys first second = .lt) :
    compareBy others first second = .lt := by
  induction sorted with
  | nil =>
      cases isFirst
  | cons head rest inductionHypothesis =>
      rw [List.pairwise_cons] at byKeys byOthers
      rcases List.mem_cons.mp isFirst with rfl | firstLater
      · rcases List.mem_cons.mp isSecond with rfl | secondLater
        · have equal : compareBy keys second second = .eq :=
            Std.ReflCmp.compare_self
          cases before.symm.trans equal
        · exact byOthers.1 second secondLater
      · rcases List.mem_cons.mp isSecond with rfl | secondLater
        · have after : compareBy keys first second = .gt :=
            Std.OrientedCmp.gt_of_lt (byKeys.1 first firstLater)
          cases before.symm.trans after
        · exact inductionHypothesis byKeys.2 byOthers.2 firstLater secondLater

end Resource

namespace Page

/-- The page without the contents of its resources. -/
def bare (page : Page) : Page :=
  { page with resources := page.resources.map Resource.bare }

end Page

namespace Query

/-- The query for all resources, with the other parameters of a query. -/
def forAll (query : Query) : Query :=
  { query with filter := some Store.allFilter, id := none, expression := none }

/-- The query for the ids of all resources, with the other parameters. -/
def forIds (query : Query) : Query :=
  { query with filter := none, id := some Store.allIdsQuery, expression := none }

/-- The query without sort keys. -/
def unsorted (query : Query) : Query :=
  { query with sortKeys := [] }

end Query

namespace Store

variable {store : Store} {query : Query} {keys : List SortKey}

/-! ## The answers to both queries -/

/-- All resources of the store in the order of the sort keys. -/
def sortedBy
    (store : Store)
    (keys : List SortKey) :
    List Resource :=
  Resource.sortBy keys (store.selected false)

/-- The resources that a query for ids selects are those of any other, emptied. -/
theorem selected_idsOnly
    (store : Store) :
    store.selected true = (store.selected false).map Resource.bare := by
  rw [selected, selected, List.map_map]
  rfl

/-- A page of emptied results is the emptied page of the results. -/
theorem pageFrom_map_bare
    (query : Query)
    (results : List Resource)
    (start : Nat) :
    pageFrom query (results.map Resource.bare) start =
      (pageFrom query results start).bare := by
  simp only [pageFrom, Page.bare, List.length_map, List.map_take, List.map_drop]

/-- A query for everything pages through the resources as they are sorted. -/
theorem query_forAll
    (store : Store)
    (query : Query) :
    store.query query.forAll =
      (startOf query).map (pageFrom query (store.sortedBy query.sortKeys)) :=
  store.query_of_filter rfl

/-- The ids come from the same start on, but in their own order. -/
theorem query_forIds
    (store : Store)
    (query : Query) :
    store.query query.forIds =
      (startOf query).map fun start =>
        (pageFrom query (store.sortedBy []) start).bare := by
  have selects : store.idsOnly query.forIds = .ok true :=
    (if_neg nofun).trans (if_pos rfl)
  have results :
      Resource.sortBy query.sortKeys (store.selected true) =
        (store.sortedBy []).map Resource.bare := by
    rw [selected_idsOnly, Resource.sortBy_map_bare]
    rfl
  simp only [← pageFrom_map_bare, ← results]
  rw [Store.query, selects]
  show (startOf query >>= _) = _
  cases startOf query <;> rfl

/-- Both answers begin at the start that the query asks for. -/
theorem exists_start
    {page ids : Page}
    (answered : store.query query.forAll = .ok page)
    (answeredIds : store.query query.forIds = .ok ids) :
    ∃ start,
      page = pageFrom query (store.sortedBy query.sortKeys) start ∧
        ids = (pageFrom query (store.sortedBy []) start).bare := by
  rw [query_forAll] at answered
  rw [query_forIds] at answeredIds
  cases starts : startOf query with
  | error failure =>
      rw [starts] at answered
      cases answered
  | ok start =>
      rw [starts] at answered answeredIds
      cases answered
      cases answeredIds
      exact ⟨start, rfl, rfl⟩

/-! ## The order of both lists -/

/-- The sort keys put no two resources in another order than their ids. -/
def KeepsIdOrder
    (store : Store)
    (keys : List SortKey) :
    Prop :=
  ∀ first ∈ store.selected false,
    ∀ second ∈ store.selected false,
      compare first.id second.id = .lt →
        Resource.compareBy keys first second = .lt

/-- Both queries list the same resources in the same order, whatever the page. -/
def ListsIdsAlike
    (store : Store)
    (keys : List SortKey) :
    Prop :=
  ∀ (query : Query) (page ids : Page),
    query.sortKeys = keys →
      store.query query.forAll = .ok page →
        store.query query.forIds = .ok ids →
          ids.resources.map Resource.identity =
            page.resources.map Resource.identity

theorem mem_sortedBy
    {resource : Resource} :
    resource ∈ store.sortedBy keys ↔ resource ∈ store.selected false :=
  (Resource.sortBy_perm keys (store.selected false)).mem_iff

/-- The sorted resources ascend strictly. -/
theorem Keyed.sortedBy_ascends
    (keyed : store.Keyed)
    (keys : List SortKey) :
    (store.sortedBy keys).Pairwise fun left right =>
      Resource.compareBy keys left right = .lt :=
  Resource.pairwise_lt_sortBy (keyed.nodup_ids false)

/-- What ascends by some keys is sorted by them. -/
theorem Keyed.sortedBy_eq_of_ascends
    (keyed : store.Keyed)
    (others : List SortKey)
    (ascends :
      (store.sortedBy others).Pairwise fun left right =>
        Resource.compareBy keys left right = .lt) :
    store.sortedBy others = store.sortedBy keys := by
  refine Resource.eq_sortBy (keyed.nodup_ids false) (Resource.sortBy_perm others _) ?_
  refine ascends.imp fun before => ?_
  rw [before]
  rfl

/-- Sorting by keys that keep the order of ids is sorting by ids. -/
theorem Keyed.sortedBy_eq_iff
    (keyed : store.Keyed) :
    store.sortedBy keys = store.sortedBy [] ↔ store.KeepsIdOrder keys := by
  have byIds := keyed.sortedBy_ascends []
  constructor
  · intro same first isFirst second isSecond before
    have byKeys := keyed.sortedBy_ascends keys
    rw [same] at byKeys
    exact
      Resource.lt_of_ascending byIds byKeys (mem_sortedBy.mpr isFirst)
        (mem_sortedBy.mpr isSecond) before
  · intro keeps
    refine (keyed.sortedBy_eq_of_ascends [] (byIds.imp_of_mem ?_)).symm
    intro first second isFirst isSecond before
    exact keeps first (mem_sortedBy.mp isFirst) second (mem_sortedBy.mp isSecond) before

/-- Two sorts that list the ids in the same order are the same. -/
theorem Keyed.sortedBy_eq_of_ids
    (keyed : store.Keyed)
    (sameIds :
      (store.sortedBy keys).map Resource.id = (store.sortedBy []).map Resource.id) :
    store.sortedBy keys = store.sortedBy [] := by
  have idsAscend :
      ((store.sortedBy keys).map Resource.id).Pairwise fun left right =>
        compare left right = .lt := by
    rw [sameIds]
    exact List.pairwise_map.mpr (keyed.sortedBy_ascends [])
  exact keyed.sortedBy_eq_of_ascends keys (List.pairwise_map.mp idsAscend)

/-- The query for everything on one page. -/
def everything (keys : List SortKey) : Query :=
  { sortKeys := keys }

theorem map_identity_bare
    (page : Page) :
    page.bare.resources.map Resource.identity =
      page.resources.map Resource.identity := by
  rw [Page.bare, List.map_map]
  rfl

/-- A query lists ids alike exactly when its keys keep the order of the ids. -/
theorem Keyed.listsIdsAlike_iff
    (keyed : store.Keyed) :
    store.ListsIdsAlike keys ↔ store.KeepsIdOrder keys := by
  rw [← keyed.sortedBy_eq_iff]
  constructor
  · intro alike
    have sameIdentities :=
      alike (everything keys) _ _ rfl (store.query_forAll _) (store.query_forIds _)
    rw [map_identity_bare, (pageFrom_unsized rfl _ _).1, (pageFrom_unsized rfl _ _).1]
      at sameIdentities
    have sameIds := congrArg (List.map Prod.fst) sameIdentities
    rw [List.map_map, List.map_map] at sameIds
    exact keyed.sortedBy_eq_of_ids sameIds.symm
  · rintro same query page ids rfl answered answeredIds
    obtain ⟨start, rfl, rfl⟩ := exists_start answered answeredIds
    rw [map_identity_bare, same]

/--
After every history the query for ids alone is answered with the page of the
unsorted query for all resources, without contents. So it fails just when the
query for all resources does, in the same way, and otherwise agrees with it in
the cookie and in the numbers; but it lists the same ids in the same order on
every page just if the sort keys nowhere go against the order of ids.
-/
theorem ids_come_unsorted
    (name : String)
    (calls : List Call) :
    let store := (empty name).afterAll calls
    (∀ query : Query,
      store.query query.forIds = (store.query query.unsorted.forAll).map Page.bare) ∧
    (∀ (query : Query) (failure : Failure),
      store.query query.forIds = .error failure ↔
        store.query query.forAll = .error failure) ∧
    (∀ (query : Query) (page ids : Page),
      store.query query.forAll = .ok page →
        store.query query.forIds = .ok ids →
          ids.cookie = page.cookie ∧
            ids.countPolicy = page.countPolicy ∧
            ids.total = page.total ∧
            ids.resources.length = page.resources.length) ∧
    ∀ keys, store.ListsIdsAlike keys ↔ store.KeepsIdOrder keys := by
  intro store
  have keyed : store.Keyed := (Keyed.empty name).afterAll calls
  refine ⟨?_, ?_, ?_, fun keys => keyed.listsIdsAlike_iff⟩
  · intro query
    rw [query_forIds, query_forAll]
    show _ = ((startOf query).map _).map _
    cases startOf query <;> rfl
  · intro query failure
    rw [query_forIds, query_forAll]
    cases startOf query with
    | error fault =>
        rfl
    | ok start =>
        exact iff_of_false nofun nofun
  · intro query page ids answered answeredIds
    obtain ⟨start, rfl, rfl⟩ := exists_start answered answeredIds
    simp only [pageFrom, Page.bare, sortedBy, Resource.sortBy, List.length_map,
      List.length_take, List.length_drop, List.length_mergeSort, and_self]

/-! ## Two letters -/

namespace Letters

/-- The letters do not come in the order of the ids. -/
def calls : List Call :=
  [creating "1" "b", creating "2" "a"]

theorem selected_calls :
    ((empty "letters").afterAll calls).selected false =
      [resource "1" "b", resource "2" "a"] := by
  decide

theorem sorted_byLetter :
    [resource "2" "a", resource "1" "b"] =
      Resource.sortBy byLetter.sortKeys [resource "1" "b", resource "2" "a"] :=
  Resource.eq_sortBy (by decide) (List.Perm.swap _ _ _) (by decide)

theorem sorted_byId :
    [resource "1" "b", resource "2" "a"] =
      Resource.sortBy [] [resource "1" "b", resource "2" "a"] :=
  Resource.eq_sortBy (by decide) (List.Perm.refl _) (by decide)

end Letters

/-- Sorted by its letters, the second resource comes first; its id comes second. -/
theorem sorted_ids_differ :
    let store := (empty "letters").afterAll Letters.calls
    ∃ page ids,
      store.query Letters.byLetter.forAll = .ok page ∧
        store.query Letters.byLetter.forIds = .ok ids ∧
        page.resources.map Resource.identity =
          [(some "2", some "0"), (some "1", some "0")] ∧
        ids.resources.map Resource.identity =
          [(some "1", some "0"), (some "2", some "0")] := by
  intro store
  refine ⟨_, _, store.query_forAll _, store.query_forIds _, ?_, ?_⟩
  · rw [sortedBy, Letters.selected_calls, ← Letters.sorted_byLetter]
    rfl
  · rw [sortedBy, Letters.selected_calls, ← Letters.sorted_byId]
    rfl

end Store

end ResourceServer
