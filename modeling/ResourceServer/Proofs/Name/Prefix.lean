import ResourceServer.Proofs.Name.Order

namespace ResourceServer.Name

/-!
# Names under a prefix

A name begins with another when its first elements are the same name, which is
when it continues that name. In the order of names a prefix comes first, and
whatever lies between two names under a prefix is under it as well, so these
names stand together in every sorted list.
-/

section Lexicographic

variable {α : Type} [Ord α] [Std.LawfulEqOrd α]

/-- A list is not above those that it begins. -/
theorem isLE_compare_of_isPrefix
    {start items : List α}
    (starts : start <+: items) :
    (compare start items).isLE := by
  obtain ⟨rest, rfl⟩ := starts
  induction start with
  | nil =>
      cases rest with
      | nil =>
          rfl
      | cons item rest =>
          rfl
  | cons first start inductionHypothesis =>
      rw [List.cons_append, List.compare_cons_cons,
        Std.ReflOrd.compare_self]
      exact inductionHypothesis

/-- Heads ascend where lists do, and tails do where the heads are the same. -/
theorem isLE_compare_cons_iff
    {first second : α}
    {rest others : List α} :
    (compare (first :: rest) (second :: others)).isLE ↔
      compare first second = .lt ∨
        first = second ∧ (compare rest others).isLE := by
  rw [List.compare_cons_cons, ← Std.LawfulEqOrd.compare_eq_iff_eq (a := first)]
  cases compare first second <;> simp [Ordering.then]

/-- What lies between two lists with a common start has that start. -/
theorem isPrefix_of_between
    [Std.TransOrd α]
    {start first second third : List α}
    (firstStarts : start <+: first)
    (thirdStarts : start <+: third)
    (above : (compare first second).isLE)
    (below : (compare second third).isLE) :
    start <+: second := by
  induction start generalizing first second third with
  | nil =>
      exact List.nil_prefix
  | cons item start inductionHypothesis =>
      obtain ⟨front, rfl⟩ := firstStarts
      obtain ⟨back, rfl⟩ := thirdStarts
      cases second with
      | nil =>
          cases above
      | cons other others =>
          rw [List.cons_append, isLE_compare_cons_iff] at above below
          have same : item = other := by
            rcases above with isBelow | ⟨same, -⟩
            · rcases below with isAbove | ⟨same, -⟩
              · rw [Std.OrientedOrd.eq_swap, isAbove] at isBelow
                cases isBelow
              · exact same.symm
            · exact same
          subst same
          have irreflexive : compare item item ≠ .lt := by
            rw [Std.ReflOrd.compare_self]
            exact Ordering.noConfusion
          have restAbove := (above.resolve_left irreflexive).2
          have restBelow := (below.resolve_left irreflexive).2
          exact
            (List.prefix_cons_inj item).mpr
              (inductionHypothesis (List.prefix_append _ _)
                (List.prefix_append _ _) restAbove restBelow)

end Lexicographic

/-! ## Prefixes by their elements -/

variable {name start : Name}

/-- A name begins with another when its key does. -/
theorem startsWith_iff_key :
    name.startsWith start = true ↔ start.key <+: name.key :=
  List.isPrefixOf_iff_prefix

theorem length_key
    (name : Name) :
    name.key.length = name.size :=
  List.length_map _

theorem key_append
    (name other : Name) :
    (name ++ other).key = name.key ++ other.key :=
  List.map_append

theorem head_eq_ok_iff
    {count : Nat}
    {front : Name} :
    name.head count = .ok front ↔
      count ≤ name.size ∧ name.slice 0 count = front := by
  unfold head subsequence
  split
  · rename_i outside
    have tooMany : ¬ count ≤ name.size := by omega
    simp only [reduceCtorEq, tooMany, false_and]
  · rename_i inside
    have inName : count ≤ name.size := by omega
    simp only [Except.ok.injEq, inName, true_and]

/-- The first elements of a name tell whether it begins with another. -/
theorem startsWith_iff_head :
    name.startsWith start = true ↔
      start.size ≤ name.size ∧
        ∃ front, name.head start.size = .ok front ∧ front.same start = true := by
  simp only [startsWith_iff_key, head_eq_ok_iff, same_iff_key,
    List.prefix_iff_eq_take, length_key]
  constructor
  · intro isTaken
    have inName : start.size ≤ name.size := by
      rw [← length_key start, ← length_key name, isTaken, List.length_take]
      exact Nat.min_le_right _ _
    refine ⟨inName, _, ⟨inName, rfl⟩, ?_⟩
    rw [key_slice, List.drop_zero, ← isTaken]
  · rintro ⟨-, front, ⟨-, rfl⟩, sameKey⟩
    rw [← sameKey, key_slice, List.drop_zero]

/-- A name begins with those that it continues. -/
theorem startsWith_iff_append :
    name.startsWith start = true ↔
      ∃ rest, name.same (start ++ rest) = true := by
  simp only [startsWith_iff_key, same_iff_key, key_append]
  constructor
  · intro starts
    refine ⟨name.slice start.size name.size, ?_⟩
    rw [key_slice, ← length_key name, List.take_length, ← length_key start]
    exact (List.prefix_iff_eq_append.mp starts).symm
  · rintro ⟨rest, sameKey⟩
    rw [sameKey]
    exact List.prefix_append _ _

/-! ## Sorted lists -/

/-- No name of a list comes before an earlier one. -/
def Ascending
    (names : List Name) :
    Prop :=
  names.Pairwise fun earlier later => (compare earlier later).isLE

/-- The names under a prefix stand together in a list of names. -/
def Together
    (start : Name)
    (names : List Name) :
    Prop :=
  ∃ before block after,
    names = before ++ block ++ after ∧
      (∀ name ∈ block, name.startsWith start = true) ∧
      ∀ name ∈ before ++ after, name.startsWith start = false

/-- Sorting loses and repeats no name. -/
theorem sort_perm
    (names : List Name) :
    (sort names).Perm names :=
  List.mergeSort_perm names _

/-- Sorted names ascend. -/
theorem sort_ascends
    (names : List Name) :
    Ascending (sort names) := by
  refine List.pairwise_mergeSort ?_ ?_ names
  · intro first second third
    exact Std.TransOrd.isLE_trans
  · intro left right
    rw [Bool.or_eq_true]
    rw [Std.OrientedOrd.eq_swap (a := right)]
    cases compare left right <;> simp [Ordering.swap]

/-- A name between two that begin alike begins like them. -/
theorem startsWith_of_between
    {first second third : Name}
    (firstStarts : first.startsWith start = true)
    (thirdStarts : third.startsWith start = true)
    (above : (compare first second).isLE)
    (below : (compare second third).isLE) :
    second.startsWith start = true := by
  rw [startsWith_iff_key] at firstStarts thirdStarts ⊢
  exact isPrefix_of_between firstStarts thirdStarts above below

/-- Behind the names under a prefix that come first, there are no more of them. -/
theorem together_of_head
    {first : Name}
    {names : List Name}
    (firstStarts : first.startsWith start = true)
    (ascends : Ascending (first :: names)) :
    ∃ block after,
      names = block ++ after ∧
        (∀ name ∈ block, name.startsWith start = true) ∧
        ∀ name ∈ after, name.startsWith start = false := by
  induction names with
  | nil =>
      exact ⟨[], [], rfl, List.forall_mem_nil _, List.forall_mem_nil _⟩
  | cons second rest inductionHypothesis =>
      rw [Ascending, List.pairwise_cons, List.pairwise_cons] at ascends
      obtain ⟨firstBelow, secondBelow, restAscends⟩ := ascends
      cases secondStarts : second.startsWith start with
      | true =>
          have shorter : Ascending (first :: rest) :=
            List.pairwise_cons.mpr
              ⟨fun later member =>
                firstBelow later (List.mem_cons_of_mem second member),
                restAscends⟩
          obtain ⟨block, after, rfl, inBlock, inAfter⟩ :=
            inductionHypothesis shorter
          exact
            ⟨second :: block, after, rfl,
              List.forall_mem_cons.mpr ⟨secondStarts, inBlock⟩, inAfter⟩
      | false =>
          refine ⟨[], second :: rest, rfl, List.forall_mem_nil _, ?_⟩
          refine List.forall_mem_cons.mpr ⟨secondStarts, ?_⟩
          intro later member
          -- A later name under the prefix would put `second` under it.
          rw [← Bool.not_eq_true] at secondStarts ⊢
          intro laterStarts
          exact secondStarts
            (startsWith_of_between firstStarts laterStarts
              (firstBelow second List.mem_cons_self)
              (secondBelow later member))

/-- In ascending order, the names that begin alike stand together. -/
theorem together_of_ascends
    {names : List Name}
    (ascends : Ascending names) :
    Together start names := by
  induction names with
  | nil =>
      exact ⟨[], [], [], rfl, List.forall_mem_nil _, List.forall_mem_nil _⟩
  | cons first rest inductionHypothesis =>
      cases firstStarts : first.startsWith start with
      | true =>
          obtain ⟨block, after, rfl, inBlock, inAfter⟩ :=
            together_of_head firstStarts ascends
          exact
            ⟨[], first :: block, after, rfl,
              List.forall_mem_cons.mpr ⟨firstStarts, inBlock⟩, inAfter⟩
      | false =>
          obtain ⟨before, block, after, rfl, inBlock, outside⟩ :=
            inductionHypothesis (List.Pairwise.of_cons ascends)
          exact
            ⟨first :: before, block, after, rfl, inBlock,
              List.forall_mem_cons.mpr ⟨firstStarts, outside⟩⟩

/--
To begin with a name is to have it as the first elements and to continue it; a
prefix comes before the names under it, and these are convex in the order, so
sorting any names puts those under a prefix side by side.
-/
theorem prefixes_fit_order
    (start first second third : Name)
    (names : List Name) :
    (first.startsWith start = true ↔
        start.size ≤ first.size ∧
          ∃ front,
            first.head start.size = .ok front ∧ front.same start = true) ∧
      (first.startsWith start = true ↔
        ∃ rest, first.same (start ++ rest) = true) ∧
      (first.startsWith start = true → (compare start first).isLE) ∧
      ((compare first second).isLE →
        (compare second third).isLE →
        first.startsWith start = true →
        third.startsWith start = true →
        second.startsWith start = true) ∧
      (sort names).Perm names ∧
      Ascending (sort names) ∧
      Together start (sort names) := by
  refine
    ⟨startsWith_iff_head, startsWith_iff_append, ?_, ?_, sort_perm names,
      sort_ascends names, together_of_ascends (sort_ascends names)⟩
  · intro starts
    rw [compare_eq_compare_key]
    exact isLE_compare_of_isPrefix (startsWith_iff_key.mp starts)
  · intro above below firstStarts thirdStarts
    exact startsWith_of_between firstStarts thirdStarts above below

/-- What lies between two names under `users` is under it, in spite of its capitals. -/
theorem prefixes_fit_order_of_users :
    let users : Name := ⟨["users"], by decide⟩
    let first : Name := ⟨["USERS", "1"], by decide⟩
    let second : Name := ⟨["Users", "a/b"], by decide⟩
    let third : Name := ⟨["users", "A/B", "c"], by decide⟩
    (compare first second).isLE ∧
      (compare second third).isLE ∧
      first.startsWith users = true ∧
      third.startsWith users = true ∧
      second.startsWith users = true := by
  intro users first second third
  have above : (compare first second).isLE := by decide
  have below : (compare second third).isLE := by decide
  have firstStarts : first.startsWith users = true := by decide
  have thirdStarts : third.startsWith users = true := by decide
  obtain ⟨-, -, -, convex, -⟩ :=
    prefixes_fit_order users first second third []
  exact
    ⟨above, below, firstStarts, thirdStarts,
      convex above below firstStarts thirdStarts⟩

end ResourceServer.Name
