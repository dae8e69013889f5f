import ResourceServer.Proofs.Json.Pointer
import ResourceServer.Proofs.Store.ResultOrder
import ResourceServer.Proofs.Store.RevisionedMap

namespace ResourceServer

/-!
# The order that clients see

Sort keys are fields of the stored contents. Clients see the contents with the
id and the revision put in as members, and members of these names that were
stored are covered by them. So a client who looks at the fields of what it gets
finds the results in the order of the sort keys as far as no sort key leads to
one of the two members; from such a key on it may find any order.
-/

namespace SortKey

/-- The field of a value that is sorted by. -/
def fieldIn
    (key : SortKey)
    (value : Json) :
    Option Json :=
  value.pointer? (Json.Pointer.absolute key.field)

/-- The order of two values by a sort key; a missing field is the greatest. -/
def compareIn
    (key : SortKey)
    (left right : Json) :
    Ordering :=
  let order := Json.compareFields (key.fieldIn left) (key.fieldIn right)
  if key.ascending then order else order.swap

/-- Resources are compared by the fields of their contents. -/
theorem compareBy_eq_compareIn
    (key : SortKey)
    (first second : Resource) :
    key.compareBy first second = key.compareIn first.content second.content :=
  rfl

/-- The first key on which two values differ, if any, puts them in this order. -/
inductive InOrder : List SortKey → Json → Json → Prop where
  | undecided
      {left right : Json} :
      InOrder [] left right
  | decided
      {key : SortKey}
      {rest : List SortKey}
      {left right : Json}
      (before : key.compareIn left right = .lt) :
      InOrder (key :: rest) left right
  | onward
      {key : SortKey}
      {rest : List SortKey}
      {left right : Json}
      (same : key.compareIn left right = .eq)
      (inOrder : InOrder rest left right) :
      InOrder (key :: rest) left right

/-- The key leads to a member that holds the id or the revision, or into it. -/
def NamesIdentity (key : SortKey) : Prop :=
  ∃ first rest,
    Json.Pointer.keys? (Json.Pointer.absolute key.field) = some (first :: rest) ∧
      (first = Resource.idKey ∨ first = Resource.revisionKey)

namespace InOrder

variable {keys : List SortKey} {left right left' right' : Json}

/-- Values in order are in order by any keys that come first. -/
theorem of_prefix
    {first : List SortKey}
    (inOrder : InOrder keys left right)
    (comesFirst : first <+: keys) :
    InOrder first left right := by
  induction inOrder generalizing first with
  | undecided =>
      rw [List.prefix_nil.mp comesFirst]
      exact .undecided
  | decided before =>
      cases first with
      | nil =>
          exact .undecided
      | cons key others =>
          obtain ⟨rfl, -⟩ := List.cons_prefix_cons.mp comesFirst
          exact .decided before
  | onward same inOrder inductionHypothesis =>
      cases first with
      | nil =>
          exact .undecided
      | cons key others =>
          obtain ⟨rfl, othersFirst⟩ := List.cons_prefix_cons.mp comesFirst
          exact .onward same (inductionHypothesis othersFirst)

/-- Only the fields that the keys name matter. -/
theorem of_sameFields
    (sameFields :
      ∀ key ∈ keys,
        key.fieldIn left' = key.fieldIn left ∧
          key.fieldIn right' = key.fieldIn right)
    (inOrder : InOrder keys left right) :
    InOrder keys left' right' := by
  induction inOrder with
  | undecided =>
      exact .undecided
  | @decided key rest left right before =>
      obtain ⟨sameLeft, sameRight⟩ := sameFields key List.mem_cons_self
      apply decided
      rw [compareIn, sameLeft, sameRight]
      exact before
  | @onward key rest left right same inOrder inductionHypothesis =>
      obtain ⟨sameLeft, sameRight⟩ := sameFields key List.mem_cons_self
      refine onward ?_ (inductionHypothesis fun other isLater => ?_)
      · rw [compareIn, sameLeft, sameRight]
        exact same
      · exact sameFields other (List.mem_cons_of_mem key isLater)

/-- The comparison of resources goes by the order of their contents. -/
theorem of_compareBy
    {first second : Resource}
    (isLE : (Resource.compareBy keys first second).isLE) :
    InOrder keys first.content second.content := by
  induction keys with
  | nil =>
      exact .undecided
  | cons key rest inductionHypothesis =>
      rw [Resource.compareBy, compareBy_eq_compareIn] at isLE
      cases compared : key.compareIn first.content second.content with
      | lt =>
          exact .decided compared
      | eq =>
          rw [compared] at isLE
          exact .onward compared (inductionHypothesis isLE)
      | gt =>
          rw [compared] at isLE
          cases isLE

end InOrder

end SortKey

/-! ## Fields of rendered resources -/

namespace Resource

theorem get?_insertText_of_ne
    (members : Record Json)
    {key other : String}
    (text : Option String)
    (different : key ≠ other) :
    (insertText members key text).get? other = members.get? other := by
  cases text with
  | none =>
      rfl
  | some text =>
      exact Record.get?_insert_of_ne members (.string text) different

/-- Only two members of a resource come from elsewhere than its content. -/
theorem child?_toJson
    (resource : Resource)
    {key : String}
    (notId : key ≠ idKey)
    (notRevision : key ≠ revisionKey) :
    resource.toJson.child? key = resource.content.child? key := by
  unfold toJson
  split
  · rename_i members isObject
    rw [isObject, Json.child?, Json.child?, get?_insertText_of_ne _ _ notRevision.symm,
      get?_insertText_of_ne _ _ notId.symm]
  · rfl

/-- So a field is the same for clients unless it lies in one of the two. -/
theorem fieldIn_toJson
    {key : SortKey}
    (resource : Resource)
    (notIdentity : ¬ key.NamesIdentity) :
    key.fieldIn resource.toJson = key.fieldIn resource.content := by
  obtain ⟨first, rest, hasKeys⟩ := Json.Pointer.exists_keys?_absolute key.field
  have notId : first ≠ idKey :=
    fun isId => notIdentity ⟨first, rest, hasKeys, .inl isId⟩
  have notRevision : first ≠ revisionKey :=
    fun isRevision => notIdentity ⟨first, rest, hasKeys, .inr isRevision⟩
  unfold SortKey.fieldIn Json.pointer?
  rw [hasKeys]
  show resource.toJson.at? (first :: rest) = resource.content.at? (first :: rest)
  rw [Json.at?, Json.at?, resource.child?_toJson notId notRevision]

end Resource

/-! ## Results of a store -/

namespace Store

/-- The query for all resources of a store, whatever else it selects by. -/
def overAll (query : Query) : Query :=
  { query with filter := some allFilter }

/-- The resources of a page are results in their order, a part of them. -/
theorem sublist_pageFrom
    (query : Query)
    (results : List Resource)
    (start : Nat) :
    List.Sublist (pageFrom query results start).resources results :=
  (List.take_sublist _ _).trans (List.drop_sublist start results)

theorem resources_inOrder
    {store : Store}
    {query : Query}
    {page : Page}
    (answered : store.query (overAll query) = .ok page) :
    page.resources.Pairwise fun first second =>
      SortKey.InOrder query.sortKeys first.content second.content := by
  rw [query_of_filter store rfl] at answered
  change (startOf query).map _ = _ at answered
  cases starts : startOf query with
  | error failure =>
      rw [starts] at answered
      cases answered
  | ok start =>
      rw [starts] at answered
      cases answered
      refine List.Pairwise.sublist (sublist_pageFrom _ _ start) ?_
      exact (Resource.pairwise_sortBy query.sortKeys _).imp SortKey.InOrder.of_compareBy

/--
After every history a query for all resources fails just if it has no start to
begin at. The contents of each page are in the order of all sort keys, and what
clients get is in the order of the sort keys in front of the first that leads to
the id or the revision: there, and for no other key, the fields that clients see
may differ from those that are compared.
-/
theorem rendered_in_order
    (name : String)
    (calls : List Call)
    (query : Query) :
    let store := (empty name).afterAll calls
    ((∃ page, store.query (overAll query) = .ok page) ↔
      ∃ start, startOf query = .ok start) ∧
    (∀ page,
      store.query (overAll query) = .ok page →
        (page.resources.map Resource.content).Pairwise
            (SortKey.InOrder query.sortKeys) ∧
          ∀ keys,
            keys <+: query.sortKeys →
              (∀ key ∈ keys, ¬ key.NamesIdentity) →
                (page.resources.map Resource.toJson).Pairwise
                  (SortKey.InOrder keys)) ∧
    ∀ (key : SortKey) (resource : Resource),
      ¬ key.NamesIdentity →
        key.fieldIn resource.toJson = key.fieldIn resource.content := by
  intro store
  refine ⟨?_, ?_, fun key resource => resource.fieldIn_toJson⟩
  · rw [query_of_filter store rfl]
    exact exists_map_eq_ok_iff
  · intro page answered
    have inOrder := resources_inOrder answered
    refine ⟨List.pairwise_map.mpr inOrder, ?_⟩
    intro keys comesFirst noneNames
    refine List.pairwise_map.mpr (inOrder.imp ?_)
    intro first second contentsInOrder
    refine (contentsInOrder.of_prefix comesFirst).of_sameFields ?_
    intro key isKey
    have notIdentity := noneNames key isKey
    exact ⟨first.fieldIn_toJson notIdentity, second.fieldIn_toJson notIdentity⟩

/-! ## Two resources in descending order of their ids -/

namespace Descending

/-- A call that creates a resource without members of its own. -/
def creating (id : String) : Call :=
  ⟨"", ⟨Name.empty, [], [], .create (.object []) (some id)⟩⟩

/-- Two resources are created, the one with the lesser id first. -/
def calls : List Call :=
  [creating "1", creating "2"]

/-- The resource that is created so. -/
def resource (id : String) : Resource :=
  ⟨some id, some "0", .object []⟩

/-- Sorted by the id that clients see, the greatest first. -/
def byId : Query :=
  { sortKeys := [⟨Resource.idKey, false⟩] }

/-- What clients get for the resource of an id. -/
def rendered (id : String) : Json :=
  .object [(Resource.idKey, .string id), (Resource.revisionKey, .string "0")]

end Descending

/-- No content has the id as a field, so the results ascend by it. -/
theorem rendered_out_of_order :
    let store := (empty "users").afterAll Descending.calls
    ∃ page,
      store.query (overAll Descending.byId) = .ok page ∧
        page.resources.map Resource.toJson =
          [Descending.rendered "1", Descending.rendered "2"] ∧
        ¬ SortKey.InOrder Descending.byId.sortKeys
          (Descending.rendered "1") (Descending.rendered "2") := by
  intro store
  have inIdOrder :
      [Descending.resource "1", Descending.resource "2"] =
        Resource.sortBy Descending.byId.sortKeys (store.selected false) :=
    Resource.eq_sortBy (by decide) (List.Perm.refl _) (by decide)
  refine ⟨_, store.query_of_filter rfl, ?_, ?_⟩
  · have sameKeys : (overAll Descending.byId).sortKeys = Descending.byId.sortKeys :=
      rfl
    rw [sameKeys, ← inIdOrder]
    rfl
  · intro inOrder
    cases inOrder with
    | decided before =>
        exact absurd before (by decide)
    | onward same =>
        exact absurd same (by decide)

end Store

end ResourceServer
