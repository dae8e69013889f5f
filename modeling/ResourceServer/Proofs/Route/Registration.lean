import ResourceServer.Route.Table

namespace ResourceServer.Table

/-!
# Tables under registration

A table grows and shrinks by adding routes, removing them and changing the
default route. Every route that is added takes a number above all numbers taken
before, so along every sequence of such edits the numbers ascend and the
default route never shares one with a route of the table.
-/

variable {α : Type u}

/-- One change of a table. -/
inductive Edit (α : Type u) where
  | add (mode : Mode) (pattern : String) (target : α)
  | remove (pattern : String)
  | removeId (id : Nat)
  | setFallback (target : α)
  | clearFallback

/-- The table after an edit; a pattern that is refused changes nothing. -/
def edit (table : Table α) : Edit α → Table α
  | .add mode pattern target =>
      match table.add mode pattern target with
      | .ok changed => changed
      | .error _ => table
  | .remove pattern =>
      match Template.parse pattern with
      | .ok template => table.remove template
      | .error _ => table
  | .removeId id => table.removeId id
  | .setFallback target => table.setFallback target
  | .clearFallback => table.clearFallback

/-- The table after edits of the empty table, in order. -/
def after (edits : List (Edit α)) : Table α :=
  edits.foldl edit empty

/-- The numbers of routes are given out in ascending order and only once. -/
structure Numbered (table : Table α) : Prop where
  idsAscend :
    table.bindings.Pairwise fun earlier later => earlier.id < later.id
  idsGivenOut :
    ∀ binding ∈ table.bindings, binding.id < table.nextId
  fallbackGivenOut :
    ∀ fallback ∈ table.fallback, fallback.id < table.nextId
  fallbackApart :
    ∀ fallback ∈ table.fallback,
      ∀ binding ∈ table.bindings, binding.id ≠ fallback.id

namespace Numbered

theorem empty : (Table.empty : Table α).Numbered where
  idsAscend := .nil
  idsGivenOut := by
    intro binding member
    cases member
  fallbackGivenOut := by
    intro fallback isFallback
    cases isFallback
  fallbackApart := by
    intro fallback isFallback
    cases isFallback

/-- A route that is added takes the next number. -/
theorem insert
    {table : Table α}
    (numbered : table.Numbered)
    (matcher : Matcher)
    (target : α) :
    (table.insert matcher target).Numbered where
  idsAscend := by
    refine List.pairwise_append.mpr
      ⟨numbered.idsAscend, List.pairwise_singleton _ _, ?_⟩
    intro earlier isEarlier later isLater
    cases List.mem_singleton.mp isLater
    exact numbered.idsGivenOut earlier isEarlier
  idsGivenOut := by
    intro binding member
    rcases List.mem_append.mp member with isOld | isNew
    · exact Nat.lt_succ_of_lt (numbered.idsGivenOut binding isOld)
    · cases List.mem_singleton.mp isNew
      exact Nat.lt_succ_self _
  fallbackGivenOut := by
    intro fallback isFallback
    exact Nat.lt_succ_of_lt (numbered.fallbackGivenOut fallback isFallback)
  fallbackApart := by
    intro fallback isFallback binding member
    rcases List.mem_append.mp member with isOld | isNew
    · exact numbered.fallbackApart fallback isFallback binding isOld
    · cases List.mem_singleton.mp isNew
      exact (Nat.ne_of_lt (numbered.fallbackGivenOut fallback isFallback)).symm

/-- Keeping only some of the routes keeps their numbers. -/
theorem filter
    {table : Table α}
    (numbered : table.Numbered)
    (keeps : Binding α → Bool) :
    ({ table with bindings := table.bindings.filter keeps } :
      Table α).Numbered where
  idsAscend := numbered.idsAscend.sublist List.filter_sublist
  idsGivenOut := by
    intro binding member
    exact numbered.idsGivenOut binding (List.mem_filter.mp member).1
  fallbackGivenOut := numbered.fallbackGivenOut
  fallbackApart := by
    intro fallback isFallback binding member
    exact
      numbered.fallbackApart fallback isFallback binding
        (List.mem_filter.mp member).1

theorem setFallback
    {table : Table α}
    (numbered : table.Numbered)
    (target : α) :
    (table.setFallback target).Numbered where
  idsAscend := numbered.idsAscend
  idsGivenOut := by
    intro binding member
    exact Nat.lt_succ_of_lt (numbered.idsGivenOut binding member)
  fallbackGivenOut := by
    intro fallback isFallback
    cases isFallback
    exact Nat.lt_succ_self _
  fallbackApart := by
    intro fallback isFallback binding member
    cases isFallback
    exact Nat.ne_of_lt (numbered.idsGivenOut binding member)

theorem clearFallback
    {table : Table α}
    (numbered : table.Numbered) :
    table.clearFallback.Numbered where
  idsAscend := numbered.idsAscend
  idsGivenOut := numbered.idsGivenOut
  fallbackGivenOut := by
    intro fallback isFallback
    cases isFallback
  fallbackApart := by
    intro fallback isFallback
    cases isFallback

/-- Every edit keeps the numbers in order. -/
theorem edit
    {table : Table α}
    (numbered : table.Numbered)
    (change : Edit α) :
    (table.edit change).Numbered := by
  cases change with
  | add mode pattern target =>
      dsimp only [Table.edit, Table.add]
      cases Matcher.parse mode pattern with
      | error fault =>
          exact numbered
      | ok matcher =>
          exact numbered.insert matcher target
  | remove pattern =>
      -- A refused pattern leaves the table as it was, here and for `add`.
      dsimp only [Table.edit]
      cases Template.parse pattern with
      | error fault =>
          exact numbered
      | ok template =>
          exact numbered.filter _
  | removeId id =>
      exact numbered.filter _
  | setFallback target =>
      exact numbered.setFallback target
  | clearFallback =>
      exact numbered.clearFallback

/-- The numbers stay in order along every sequence of edits. -/
theorem foldl_edit
    {table : Table α}
    (numbered : table.Numbered)
    (edits : List (Edit α)) :
    (edits.foldl Table.edit table).Numbered := by
  induction edits generalizing table with
  | nil =>
      exact numbered
  | cons change rest inductionHypothesis =>
      exact inductionHypothesis (numbered.edit change)

/-- The numbers of every table that edits lead to are in order. -/
theorem after
    (edits : List (Edit α)) :
    (Table.after edits).Numbered :=
  foldl_edit empty edits

/-- No route is in the table twice. -/
theorem bindings_nodup
    {table : Table α}
    (numbered : table.Numbered) :
    table.bindings.Nodup := by
  refine numbered.idsAscend.imp ?_
  rintro earlier later ascends rfl
  exact Nat.lt_irrefl _ ascends

/-- The default route is none of the other routes. -/
theorem fallback_not_mem
    {table : Table α}
    (numbered : table.Numbered)
    {fallback : Binding α}
    (isFallback : table.fallback = some fallback) :
    fallback ∉ table.bindings :=
  fun member =>
    numbered.fallbackApart fallback isFallback fallback member rfl

end Numbered

end ResourceServer.Table
