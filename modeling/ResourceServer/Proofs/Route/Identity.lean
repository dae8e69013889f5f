import ResourceServer.Proofs.Route.Pattern
import ResourceServer.Proofs.Route.Registration

namespace ResourceServer.Table

/-!
# Numbers of routes

Adding a route or setting the default route gives out one number, and no other
edit gives out any. The numbers given out ascend, so each is given out once,
and a table only ever holds routes under numbers given out before. A number that
is no longer in the table can therefore never come back to it, and removing by
pattern or by number leaves all other routes in order and the default route as
it is.
-/

variable {α : Type u}

/-- The numbers of the routes, in the order of the routes. -/
def ids (table : Table α) : List Nat :=
  table.bindings.map Binding.id

/-- The number of the default route. -/
def fallbackId? (table : Table α) : Option Nat :=
  table.fallback.map Binding.id

/-- The numbers that an edit gives out, to a route or to a default route. -/
def issues (table : Table α) : Edit α → List Nat
  | .add mode pattern target =>
      match table.register mode pattern target with
      | .ok (id, _) => [id]
      | .error _ => []
  | .setFallback target => (table.setFallback target).fallbackId?.toList
  | .remove _ => []
  | .removeId _ => []
  | .clearFallback => []

/-- The numbers that edits of a table give out, one edit after the other. -/
def issuedFrom (table : Table α) : List (Edit α) → List Nat
  | [] => []
  | change :: rest => table.issues change ++ (table.edit change).issuedFrom rest

/-- The numbers that edits of the empty table give out. -/
def issued (edits : List (Edit α)) : List Nat :=
  (empty : Table α).issuedFrom edits

/-! ## What one edit gives out -/

/-- An addition that is refused does nothing; any other takes the next number. -/
theorem add_cases
    (table : Table α)
    (mode : Mode)
    (pattern : String)
    (target : α) :
    ((∃ fault,
          Matcher.parse mode pattern = .error fault ∧
            table.register mode pattern target = .error fault) ∧
        table.edit (.add mode pattern target) = table ∧
        table.issues (.add mode pattern target) = []) ∨
      ∃ matcher,
        Matcher.parse mode pattern = .ok matcher ∧
          table.register mode pattern target =
            .ok (table.nextId, table.insert matcher target) ∧
          table.edit (.add mode pattern target) =
            table.insert matcher target ∧
          table.issues (.add mode pattern target) = [table.nextId] := by
  cases isParsed : Matcher.parse mode pattern with
  | error fault =>
      have isRefused : table.add mode pattern target = .error fault := by
        rw [add, isParsed]
        rfl
      have noneIsAdded :
          table.register mode pattern target = .error fault := by
        rw [register, isRefused]
        rfl
      refine .inl ⟨⟨fault, rfl, noneIsAdded⟩, ?_, ?_⟩
      · unfold edit
        dsimp only
        rw [isRefused]
      · unfold issues
        dsimp only
        rw [noneIsAdded]
  | ok matcher =>
      have isInserted :
          table.add mode pattern target =
            .ok (table.insert matcher target) := by
        rw [add, isParsed]
        rfl
      have oneIsAdded :
          table.register mode pattern target =
            .ok (table.nextId, table.insert matcher target) := by
        rw [register, isInserted]
        rfl
      refine .inr ⟨matcher, rfl, oneIsAdded, ?_, ?_⟩
      · unfold edit
        dsimp only
        rw [isInserted]
      · unfold issues
        dsimp only
        rw [oneIsAdded]

/-- An edit gives out the next number or none. -/
theorem issues_cases
    (table : Table α)
    (change : Edit α) :
    (table.issues change = [] ∧
        (table.edit change).nextId = table.nextId) ∨
      (table.issues change = [table.nextId] ∧
        (table.edit change).nextId = table.nextId + 1) := by
  cases change with
  | add mode pattern target =>
      rcases table.add_cases mode pattern target with
        ⟨-, isSame, issuesNone⟩ | ⟨matcher, -, -, isInserted, issuesOne⟩
      · exact .inl ⟨issuesNone, congrArg Table.nextId isSame⟩
      · exact .inr ⟨issuesOne, congrArg Table.nextId isInserted⟩
  | remove pattern =>
      refine .inl ⟨rfl, ?_⟩
      unfold edit
      dsimp only
      split <;> rfl
  | removeId id =>
      exact .inl ⟨rfl, rfl⟩
  | setFallback target =>
      exact .inr ⟨rfl, rfl⟩
  | clearFallback =>
      exact .inl ⟨rfl, rfl⟩

/-- After an edit the routes are some of those before and the one it added. -/
theorem ids_edit
    (table : Table α)
    (change : Edit α) :
    (table.edit change).ids.Sublist (table.ids ++ table.issues change) := by
  cases change with
  | add mode pattern target =>
      rcases table.add_cases mode pattern target with
        ⟨-, isSame, issuesNone⟩ | ⟨matcher, -, -, isInserted, issuesOne⟩
      · rw [isSame]
        exact List.sublist_append_left _ _
      · rw [isInserted, issuesOne, ids, insert, List.map_append]
        exact List.Sublist.refl _
  | remove pattern =>
      unfold edit
      dsimp only
      split
      · exact (List.filter_sublist.map _).trans (List.sublist_append_left _ _)
      · exact List.sublist_append_left _ _
  | removeId id =>
      exact (List.filter_sublist.map _).trans (List.sublist_append_left _ _)
  | setFallback target =>
      exact List.sublist_append_left _ _
  | clearFallback =>
      exact List.sublist_append_left _ _

/-- After an edit the default route is as before, or the edit has set it. -/
theorem fallbackId?_edit
    {table : Table α}
    {change : Edit α}
    {id : Nat}
    (isFallback : (table.edit change).fallbackId? = some id) :
    table.fallbackId? = some id ∨ id ∈ table.issues change := by
  cases change with
  | add mode pattern target =>
      rcases table.add_cases mode pattern target with
        ⟨-, isSame, -⟩ | ⟨matcher, -, -, isInserted, -⟩
      · rw [isSame] at isFallback
        exact .inl isFallback
      · rw [isInserted] at isFallback
        exact .inl isFallback
  | remove pattern =>
      unfold edit at isFallback
      dsimp only at isFallback
      split at isFallback <;> exact .inl isFallback
  | removeId removed =>
      exact .inl isFallback
  | setFallback target =>
      exact .inr (Option.mem_toList.mpr isFallback)
  | clearFallback =>
      cases isFallback

/-! ## What a run of edits gives out -/

/-- The numbers given out are the next ones, without a gap. -/
theorem issuedFrom_eq_range'
    (table : Table α)
    (edits : List (Edit α)) :
    ∃ count,
      table.issuedFrom edits = List.range' table.nextId count ∧
        (edits.foldl edit table).nextId = table.nextId + count := by
  induction edits generalizing table with
  | nil =>
      exact ⟨0, rfl, rfl⟩
  | cons change rest inductionHypothesis =>
      obtain ⟨count, isRange, isNext⟩ := inductionHypothesis (table.edit change)
      rw [issuedFrom, List.foldl_cons, isRange, isNext]
      rcases table.issues_cases change with ⟨none, same⟩ | ⟨one, advanced⟩
      · exact ⟨count, by rw [none, same, List.nil_append], by rw [same]⟩
      · refine ⟨count + 1, ?_, ?_⟩
        · rw [one, advanced, List.range'_succ, List.singleton_append]
        · rw [advanced]
          omega

/-- The numbers in a table are old ones and those given out, in order. -/
theorem ids_foldl
    (table : Table α)
    (edits : List (Edit α)) :
    (edits.foldl edit table).ids.Sublist
      (table.ids ++ table.issuedFrom edits) := by
  induction edits generalizing table with
  | nil =>
      exact List.sublist_append_left _ _
  | cons change rest inductionHypothesis =>
      have onward := inductionHypothesis (table.edit change)
      have first := (table.ids_edit change).append_right
        ((table.edit change).issuedFrom rest)
      rw [List.append_assoc] at first
      exact onward.trans first

/-- The fallback's number is the old one or was given out since. -/
theorem fallbackId?_foldl
    {table : Table α}
    {edits : List (Edit α)}
    {id : Nat}
    (isFallback : (edits.foldl edit table).fallbackId? = some id) :
    table.fallbackId? = some id ∨ id ∈ table.issuedFrom edits := by
  induction edits generalizing table with
  | nil =>
      exact .inl isFallback
  | cons change rest inductionHypothesis =>
      rcases inductionHypothesis isFallback with before | later
      · rcases fallbackId?_edit before with isOld | isNew
        · exact .inl isOld
        · exact .inr (List.mem_append_left _ isNew)
      · exact .inr (List.mem_append_right _ later)

theorem after_append
    (edits more : List (Edit α)) :
    after (edits ++ more) = more.foldl edit (after edits) :=
  List.foldl_append

/-- Numbers are given out in increasing order. -/
theorem pairwise_issued
    (edits : List (Edit α)) :
    (issued edits).Pairwise (· < ·) := by
  obtain ⟨count, isRange, -⟩ := (empty : Table α).issuedFrom_eq_range' edits
  rw [issued, isRange]
  exact List.pairwise_lt_range'

/-- The next number is above all that were given out. -/
theorem lt_nextId_of_issued
    {edits : List (Edit α)}
    {id : Nat}
    (isIssued : id ∈ issued edits) :
    id < (after edits).nextId := by
  obtain ⟨count, isRange, isNext⟩ :=
    (empty : Table α).issuedFrom_eq_range' edits
  rw [issued, isRange, List.mem_range'_1] at isIssued
  rw [after, isNext]
  exact isIssued.2

/-- What is given out later is not below the next number. -/
theorem nextId_le_of_issuedFrom
    {table : Table α}
    {edits : List (Edit α)}
    {id : Nat}
    (isIssued : id ∈ table.issuedFrom edits) :
    table.nextId ≤ id := by
  obtain ⟨count, isRange, -⟩ := table.issuedFrom_eq_range' edits
  rw [isRange, List.mem_range'_1] at isIssued
  exact isIssued.1

/-- A number that was given out is never given out again. -/
theorem not_issued_again
    {edits more : List (Edit α)}
    {id : Nat}
    (isIssued : id ∈ issued edits) :
    id ∉ (after edits).issuedFrom more := by
  intro again
  exact
    Nat.not_le_of_lt (lt_nextId_of_issued isIssued)
      (nextId_le_of_issuedFrom again)

/-- A number given out before is in the table later only if it is there now. -/
theorem mem_ids_of_later
    {edits more : List (Edit α)}
    {id : Nat}
    (isIssued : id ∈ issued edits)
    (isLater : id ∈ (after (edits ++ more)).ids) :
    id ∈ (after edits).ids := by
  rw [after_append] at isLater
  rcases List.mem_append.mp (((after edits).ids_foldl more).subset isLater)
    with isNow | isNew
  · exact isNow
  · exact absurd isNew (not_issued_again isIssued)

/-- A number given out before is the fallback's later only if it is now. -/
theorem fallbackId?_of_later
    {edits more : List (Edit α)}
    {id : Nat}
    (isIssued : id ∈ issued edits)
    (isLater : (after (edits ++ more)).fallbackId? = some id) :
    (after edits).fallbackId? = some id := by
  rw [after_append] at isLater
  rcases fallbackId?_foldl isLater with isNow | isNew
  · exact isNow
  · exact absurd isNew (not_issued_again isIssued)

/-! ## What removing leaves -/

/-- `kept` has the routes of `table` but those told, in order, and its default. -/
structure LeavesOut
    (table kept : Table α)
    (isOut : Binding α → Bool) : Prop where
  inOrder : kept.bindings.Sublist table.bindings
  mem_iff :
    ∀ binding,
      binding ∈ kept.bindings ↔
        binding ∈ table.bindings ∧ isOut binding = false
  fallback : kept.fallback = table.fallback
  nextId : kept.nextId = table.nextId

/-- To keep the bindings that are not out leaves out those that are. -/
theorem leavesOut_filter
    (table : Table α)
    (isOut : Binding α → Bool) :
    table.LeavesOut
      { table with
        bindings := table.bindings.filter fun binding => !isOut binding }
      isOut where
  inOrder := List.filter_sublist
  mem_iff := by
    intro binding
    rw [List.mem_filter, Bool.not_eq_true']
  fallback := rfl
  nextId := rfl

/-- As many routes are missing as there are among those told. -/
theorem length_sub_length_filter
    (bindings : List (Binding α))
    (isOut : Binding α → Bool) :
    bindings.length - (bindings.filter fun binding => !isOut binding).length =
      bindings.countP isOut := by
  have both := List.length_eq_countP_add_countP isOut (l := bindings)
  rw [← List.countP_eq_length_filter]
  simp only [Bool.not_eq_true, Bool.decide_eq_false] at both
  omega

/-- Whether the pattern of a route is, as a name, the same as `name`. -/
def isOf (name : Name) (binding : Binding α) : Bool :=
  binding.matcher.template.name.same name

/-- Whether a route has a number. -/
def hasId (id : Nat) (binding : Binding α) : Bool :=
  binding.id == id

/-- A removal by pattern leaves out the bindings of that name, and counts them. -/
theorem unregister_eq_ok
    {table kept : Table α}
    {pattern : String}
    {count : Nat}
    (isRemoved : table.unregister pattern = .ok (count, kept)) :
    ∃ name,
      Name.parse pattern = .ok name ∧
        kept = table.edit (.remove pattern) ∧
        table.LeavesOut kept (isOf name) ∧
        count = table.bindings.countP (isOf name) := by
  cases isParsed : Template.parse pattern with
  | error fault =>
      simp only [unregister, isParsed, Except.map, reduceCtorEq] at isRemoved
  | ok template =>
      simp only [unregister, isParsed, Except.map, Except.ok.injEq,
        Prod.mk.injEq] at isRemoved
      obtain ⟨rfl, rfl⟩ := isRemoved
      refine
        ⟨template.name, ?_, ?_, table.leavesOut_filter (isOf template.name),
          length_sub_length_filter table.bindings (isOf template.name)⟩
      · exact (Template.parse_eq_ok_iff.mp isParsed).1
      · unfold edit
        dsimp only
        rw [isParsed]

/-- A refused removal leaves the table as it is. -/
theorem unregister_eq_error
    {table : Table α}
    {pattern : String}
    {fault : Template.Fault}
    (isRefused : table.unregister pattern = .error fault) :
    Template.parse pattern = .error fault ∧
      table.edit (.remove pattern) = table := by
  cases isParsed : Template.parse pattern with
  | error other =>
      simp only [unregister, isParsed, Except.map, Except.error.injEq]
        at isRefused
      refine ⟨congrArg Except.error isRefused, ?_⟩
      unfold edit
      dsimp only
      rw [isParsed]
  | ok template =>
      simp only [unregister, isParsed, Except.map, reduceCtorEq] at isRefused

/-- A removal by number succeeds exactly when the number is in the table. -/
theorem unregisterId_found_iff
    (table : Table α)
    (id : Nat) :
    (table.unregisterId id).1 = true ↔ id ∈ table.ids := by
  have isCount := length_sub_length_filter table.bindings (hasId id)
  show
    decide
        (0 < table.bindings.length -
          (table.bindings.filter fun binding => !hasId id binding).length) =
      true ↔ _
  rw [isCount, decide_eq_true_iff, List.countP_pos_iff, ids, List.mem_map]
  simp only [hasId, beq_iff_eq]

/-- Removing the number of a route takes that one route out. -/
theorem Numbered.removeId_of_mem
    {table : Table α}
    (numbered : table.Numbered)
    {id : Nat}
    (isIn : id ∈ table.ids) :
    ∃ earlier binding later,
      table.bindings = earlier ++ binding :: later ∧
        binding.id = id ∧
        (table.removeId id).bindings = earlier ++ later := by
  obtain ⟨binding, isRoute, isId⟩ := List.mem_map.mp isIn
  obtain ⟨earlier, later, divided⟩ := List.mem_iff_append.mp isRoute
  have ascending := numbered.idsAscend
  rw [divided, List.pairwise_append, List.pairwise_cons] at ascending
  obtain ⟨-, ⟨belowLater, -⟩, belowBinding⟩ := ascending
  have keepsEarlier :
      earlier.filter (fun other => other.id != id) = earlier := by
    refine List.filter_eq_self.mpr ?_
    intro other isEarlier
    have isBelow := belowBinding other isEarlier binding List.mem_cons_self
    rw [bne_iff_ne]
    omega
  have keepsLater :
      later.filter (fun other => other.id != id) = later := by
    refine List.filter_eq_self.mpr ?_
    intro other isLater
    have isAbove := belowLater other isLater
    rw [bne_iff_ne]
    omega
  have dropsBinding : (binding.id != id) = false := by
    rw [isId, bne_self_eq_false]
  refine ⟨earlier, binding, later, divided, isId, ?_⟩
  simp only [removeId, divided, List.filter_append, List.filter_cons,
    dropsBinding, keepsEarlier, keepsLater, Bool.false_eq_true, if_false]

/-- To remove a number that is not in the table changes nothing. -/
theorem removeId_of_not_mem
    {table : Table α}
    {id : Nat}
    (isNotIn : id ∉ table.ids) :
    table.removeId id = table := by
  have keepsAll :
      table.bindings.filter (fun other => other.id != id) =
        table.bindings := by
    refine List.filter_eq_self.mpr ?_
    intro other isRoute
    rw [bne_iff_ne]
    intro isId
    exact isNotIn (List.mem_map.mpr ⟨other, isRoute, isId⟩)
  simp only [removeId, keepsAll]

/-! ## The law of numbers -/

/-- How a table from which `issued` were given out answers every edit. -/
structure GoesByNumber
    (table : Table α)
    (issued : List Nat) : Prop where
  /-- A route that is added comes last, under a number above all before. -/
  added :
    ∀ mode pattern target id changed,
      table.register mode pattern target = .ok (id, changed) →
      changed = table.edit (.add mode pattern target) ∧
        (∀ earlier ∈ issued, earlier < id) ∧
        (∃ matcher,
          Matcher.parse mode pattern = .ok matcher ∧
            changed.bindings = table.bindings ++ [⟨id, matcher, target⟩]) ∧
        changed.fallback = table.fallback
  /-- What cannot be read as a pattern adds nothing and takes no number. -/
  rejected :
    ∀ mode pattern target fault,
      table.register mode pattern target = .error fault →
      Matcher.parse mode pattern = .error fault ∧
        table.edit (.add mode pattern target) = table
  /-- Removing by pattern counts and takes out the routes of that pattern. -/
  removed :
    ∀ pattern count kept,
      table.unregister pattern = .ok (count, kept) →
      ∃ name,
        Name.parse pattern = .ok name ∧
          kept = table.edit (.remove pattern) ∧
          table.LeavesOut kept (isOf name) ∧
          count = table.bindings.countP (isOf name)
  /-- What cannot be read as a pattern removes nothing. -/
  refused :
    ∀ pattern fault,
      table.unregister pattern = .error fault →
      Template.parse pattern = .error fault ∧
        table.edit (.remove pattern) = table
  /-- Removing by number tells whether the number is in the table. -/
  removedId :
    ∀ id,
      ((table.unregisterId id).1 = true ↔ id ∈ table.ids) ∧
        (table.unregisterId id).2 = table.edit (.removeId id) ∧
        table.LeavesOut (table.unregisterId id).2 (hasId id)
  /-- A number in the table is that of one route, which is taken out. -/
  takenOut :
    ∀ id ∈ table.ids,
      ∃ earlier binding later,
        table.bindings = earlier ++ binding :: later ∧
          binding.id = id ∧
          (table.unregisterId id).2.bindings = earlier ++ later
  /-- A number that is not in the table is that of no route. -/
  unchanged : ∀ id, id ∉ table.ids → (table.unregisterId id).2 = table
  /-- A default route takes the place of any other, under a number above all before. -/
  defaulted :
    ∀ target,
      ∃ id,
        (∀ earlier ∈ issued, earlier < id) ∧
          (table.edit (.setFallback target)).fallback =
            some ⟨id, ⟨.startsWith, Template.empty⟩, target⟩ ∧
          (table.edit (.setFallback target)).bindings = table.bindings
  /-- Without its default route a table has the same routes. -/
  cleared :
    (table.edit .clearFallback).fallback = none ∧
      (table.edit .clearFallback).bindings = table.bindings ∧
      (table.edit .clearFallback).nextId = table.nextId

/-- After any edits, the table goes by the numbers it has given out. -/
theorem goesByNumber_after
    (edits : List (Edit α)) :
    (after edits).GoesByNumber (issued edits) where
  added := by
    intro mode pattern target id changed isAdded
    rcases (after edits).add_cases mode pattern target with
      ⟨⟨fault, -, isRefused⟩, -⟩ | ⟨matcher, isParsed, isNext, isInserted, -⟩
    · cases isRefused.symm.trans isAdded
    · cases isNext.symm.trans isAdded
      refine ⟨isInserted.symm, ?_, ⟨matcher, isParsed, rfl⟩, rfl⟩
      intro earlier isIssued
      exact lt_nextId_of_issued isIssued
  rejected := by
    intro mode pattern target fault isRejected
    rcases (after edits).add_cases mode pattern target with
      ⟨⟨other, isFault, isRefused⟩, isSame, -⟩ | ⟨matcher, -, isNext, -⟩
    · cases isRefused.symm.trans isRejected
      exact ⟨isFault, isSame⟩
    · cases isNext.symm.trans isRejected
  removed := fun _ _ _ isRemoved => unregister_eq_ok isRemoved
  refused := fun _ _ isRefused => unregister_eq_error isRefused
  removedId := fun id =>
    ⟨unregisterId_found_iff _ id, rfl, leavesOut_filter _ (hasId id)⟩
  takenOut := fun _ isIn => (Numbered.after edits).removeId_of_mem isIn
  unchanged := fun _ isNotIn => removeId_of_not_mem isNotIn
  defaulted := fun target =>
    ⟨(after edits).nextId, fun _ isIssued => lt_nextId_of_issued isIssued, rfl, rfl⟩
  cleared := ⟨rfl, rfl, rfl⟩

/--
Along every sequence of edits of a new table the numbers that are given out
ascend. The routes bear some of them, in the order in which they were given
out, and the default route bears one that no route has. Every edit goes by the
numbers, and a number that was given out and is no longer that of a route, or
no longer that of the default route, never becomes so again.
-/
theorem numbers_identify_routes
    (edits : List (Edit α)) :
    (issued edits).Pairwise (· < ·) ∧
      (after edits).ids.Sublist (issued edits) ∧
      (after edits).ids.Pairwise (· < ·) ∧
      (∀ id,
        (after edits).fallbackId? = some id →
        id ∈ issued edits ∧ id ∉ (after edits).ids) ∧
      (after edits).GoesByNumber (issued edits) ∧
      ∀ (more : List (Edit α)), ∀ id ∈ issued edits,
        (id ∉ (after edits).ids → id ∉ (after (edits ++ more)).ids) ∧
          ((after edits).fallbackId? ≠ some id →
            (after (edits ++ more)).fallbackId? ≠ some id) := by
  have numbered : (after edits).Numbered := Numbered.after edits
  have givenOut : (after edits).ids.Sublist (issued edits) :=
    (empty : Table α).ids_foldl edits
  refine
    ⟨pairwise_issued edits, givenOut, (pairwise_issued edits).sublist givenOut,
      ?_, goesByNumber_after edits, ?_⟩
  · intro id isFallback
    constructor
    · rcases fallbackId?_foldl isFallback with isOld | isIssued
      · cases isOld
      · exact isIssued
    · intro isRoute
      obtain ⟨fallback, isDefault, isItsId⟩ := Option.map_eq_some_iff.mp isFallback
      obtain ⟨binding, isIn, isId⟩ := List.mem_map.mp isRoute
      exact
        numbered.fallbackApart fallback isDefault binding isIn
          (isId.trans isItsId.symm)
  · intro more id isIssued
    constructor
    · intro isNotIn isLater
      exact isNotIn (mem_ids_of_later isIssued isLater)
    · intro isNotDefault isLater
      exact isNotDefault (fallbackId?_of_later isIssued isLater)

end ResourceServer.Table
