import Mathlib.Data.Finset.Card
import Mathlib.Data.Finset.Dedup
import ResourceServer.Endpoint
import ResourceServer.Proofs.Record
import ResourceServer.Proofs.Store.Outcome

namespace ResourceServer.Store

/-!
# A store and its history

Along every sequence of calls to an empty store the entries are a map from ids
in small letters, and the changes that succeeded tell the revision of each: it
is the number of revisions since the resource was last created. One lemma says
how a single call takes a revision further, and the lemma on whole histories
follows by induction on the calls.
-/

/-- A change of the resource of an id, which is given in small letters. -/
inductive Change where
  | created (key : String)
  | revised (key : String)
  | deleted (key : String)
deriving Repr, DecidableEq

namespace Change

/-- The id that a change is about. -/
def key : Change → String
  | .created key => key
  | .revised key => key
  | .deleted key => key

/-- How many revisions of a resource there are after it was last created. -/
def revisionsSinceCreation
    (key : String)
    (changes : List Change) :
    Nat :=
  (changes.reverse.takeWhile (· ≠ .created key)).count (.revised key)

end Change

/-- The change that a call makes if it succeeds. -/
def Call.change?
    (call : Call) :
    Option Change :=
  match call.request.name.elements, call.request.operation with
  | [], .create _ newId =>
      some (.created (Text.fold (newId.getD call.freshId)))
  | [id], .update _ _ => some (.revised (Text.fold id))
  | [id], .patch _ _ => some (.revised (Text.fold id))
  | [id], .delete _ => some (.deleted (Text.fold id))
  | _, _ => none

/-- The change that a call makes to a store. -/
def change?
    (store : Store)
    (call : Call) :
    Option Change :=
  match store.answer call with
  | .ok _ => call.change?
  | .error _ => none

/-- The store after calls, one after the other. -/
def afterAll
    (store : Store)
    (calls : List Call) :
    Store :=
  calls.foldl after store

/-- The changes that calls make one after the other, in that order. -/
def changes
    (store : Store) :
    List Call → List Change
  | [] => []
  | call :: calls =>
      (store.change? call).toList ++ (store.after call).changes calls

/-- The revision that the resource of a key is at. -/
def revision?
    (store : Store)
    (key : String) :
    Option Nat :=
  (store.entries.get? key).map Entry.revision

theorem afterAll_append
    (store : Store)
    (calls later : List Call) :
    store.afterAll (calls ++ later) =
      (store.afterAll calls).afterAll later :=
  List.foldl_append

/-! ## Entries by their ids -/

/-- The entries are a map, and each stands at its own id in small letters. -/
structure Keyed (store : Store) : Prop where
  sorted : store.entries.Sorted
  atOwnKey :
    ∀ {key : String} {entry : Entry},
      store.entries.get? key = some entry → Text.fold entry.id = key

/-- An inserted entry is found under its folded id, all others as before. -/
theorem get?_insert
    (store : Store)
    (entry : Entry)
    (key : String) :
    (store.insert entry).entries.get? key =
      if key = Text.fold entry.id then
        some entry
      else
        store.entries.get? key := by
  have found :=
    Record.get?_insert store.entries (Text.fold entry.id) key entry
  simp only [@eq_comm _ (Text.fold entry.id)] at found
  exact found

namespace Keyed

theorem empty
    (name : String) :
    (Store.empty name).Keyed where
  sorted := .nil
  atOwnKey := by
    intro key entry found
    cases found

variable {store : Store}

theorem insert
    (keyed : store.Keyed)
    (entry : Entry) :
    (store.insert entry).Keyed where
  sorted := keyed.sorted.insert _ _
  atOwnKey := by
    intro key found isAt
    rw [get?_insert] at isAt
    split at isAt
    · rename_i same
      cases isAt
      exact same.symm
    · exact keyed.atOwnKey isAt

/-- An erased id is not found, all others as before. -/
theorem get?_erase
    (keyed : store.Keyed)
    (id key : String) :
    (store.erase id).entries.get? key =
      if key = Text.fold id then
        none
      else
        store.entries.get? key := by
  by_cases same : key = Text.fold id
  · rw [if_pos same, same]
    exact keyed.sorted.get?_erase_self _
  · rw [if_neg same]
    exact Record.get?_erase_of_ne _ fun isKey => same isKey.symm

theorem erase
    (keyed : store.Keyed)
    (id : String) :
    (store.erase id).Keyed where
  sorted := keyed.sorted.erase _
  atOwnKey := by
    intro key entry isAt
    rw [keyed.get?_erase] at isAt
    split at isAt
    · cases isAt
    · exact keyed.atOwnKey isAt

/-- The entry that is found for an id has that id but for letter case. -/
theorem fold_id
    (keyed : store.Keyed)
    {id : String}
    {entry : Entry}
    (found : store.find? id = some entry) :
    Text.fold entry.id = Text.fold id :=
  keyed.atOwnKey found

/-- The keys of the entries are their ids, in small letters. -/
theorem map_fold_id
    (keyed : store.Keyed) :
    store.entries.map (fun pair => Text.fold pair.2.id) =
      store.entries.map Prod.fst := by
  refine List.map_congr_left ?_
  rintro ⟨key, entry⟩ member
  exact keyed.atOwnKey (keyed.sorted.get?_eq_some_iff.mpr member)

/-- Every call keeps the entries in order. -/
theorem after
    (keyed : store.Keyed)
    (call : Call) :
    (store.after call).Keyed := by
  have outcome := store.handle_outcome call
  unfold Store.after
  generalize store.handle call.freshId call.request = result at outcome ⊢
  cases outcome with
  | created =>
      exact keyed.insert _
  | revised =>
      exact keyed.insert _
  | deleted =>
      exact keyed.erase _
  | observed =>
      exact keyed
  | refused =>
      exact keyed

theorem afterAll
    (keyed : store.Keyed)
    (calls : List Call) :
    (store.afterAll calls).Keyed := by
  induction calls generalizing store with
  | nil =>
      exact keyed
  | cons call calls inductionHypothesis =>
      exact inductionHypothesis (keyed.after call)

end Keyed

/-! ## What a call changes -/

section

variable {call : Call}

/-- A create counts as a creation under the id it is given, or under a fresh one. -/
theorem Call.change?_of_create
    {content : Json}
    {newId : Option String}
    (whole : call.request.name.elements = [])
    (asks : call.request.operation = .create content newId) :
    call.change? = some (.created (Text.fold (newId.getD call.freshId))) := by
  simp only [Call.change?, whole, asks]

/-- A call that writes counts as a revision of the instance it names. -/
theorem Call.change?_of_writes
    {id : String}
    {old content : Json}
    (instanceName : call.request.name.elements = [id])
    (writes : call.request.operation.Writes old content) :
    call.change? = some (.revised (Text.fold id)) := by
  generalize asks : call.request.operation = operation at writes
  cases writes with
  | update =>
      simp only [Call.change?, instanceName, asks]
  | patch =>
      simp only [Call.change?, instanceName, asks]

/-- A delete counts as a deletion of the instance it names. -/
theorem Call.change?_of_delete
    {id : String}
    {revision : Option String}
    (instanceName : call.request.name.elements = [id])
    (asks : call.request.operation = .delete revision) :
    call.change? = some (.deleted (Text.fold id)) := by
  simp only [Call.change?, instanceName, asks]

theorem Call.change?_of_observes
    (observes : call.request.verb.observes = true) :
    call.change? = none := by
  unfold Call.change?
  split
  · rename_i asks
    rw [Request.verb, asks] at observes
    cases observes
  · rename_i asks
    rw [Request.verb, asks] at observes
    cases observes
  · rename_i asks
    rw [Request.verb, asks] at observes
    cases observes
  · rename_i asks
    rw [Request.verb, asks] at observes
    cases observes
  · rfl

end

/-! ## The course of a revision -/

/-- Changes take the revision of a key from its first to its last value. -/
inductive Course
    (key : String) :
    Option Nat → List Change → Option Nat → Prop where
  | done (revision : Option Nat) :
      Course key revision [] revision
  | created
      {changes : List Change}
      {last : Option Nat}
      (onward : Course key (some 0) changes last) :
      Course key none (.created key :: changes) last
  | revised
      {revision : Nat}
      {changes : List Change}
      {last : Option Nat}
      (onward : Course key (some (revision + 1)) changes last) :
      Course key (some revision) (.revised key :: changes) last
  | deleted
      {revision : Nat}
      {changes : List Change}
      {last : Option Nat}
      (onward : Course key none changes last) :
      Course key (some revision) (.deleted key :: changes) last
  | elsewhere
      {change : Change}
      {first : Option Nat}
      {changes : List Change}
      {last : Option Nat}
      (isOther : change.key ≠ key)
      (onward : Course key first changes last) :
      Course key first (change :: changes) last

namespace Course

variable {key : String}

/-- Two courses in turn are a course. -/
theorem append
    {first middle last : Option Nat}
    {changes later : List Change}
    (course : Course key first changes middle)
    (onward : Course key middle later last) :
    Course key first (changes ++ later) last := by
  induction course with
  | done =>
      exact onward
  | created _ inductionHypothesis =>
      exact .created (inductionHypothesis onward)
  | revised _ inductionHypothesis =>
      exact .revised (inductionHypothesis onward)
  | deleted _ inductionHypothesis =>
      exact .deleted (inductionHypothesis onward)
  | elsewhere isOther _ inductionHypothesis =>
      exact .elsewhere isOther (inductionHypothesis onward)

/-- A course can be divided after any of its changes. -/
theorem split
    {first last : Option Nat}
    {changes later : List Change}
    (course : Course key first (changes ++ later) last) :
    ∃ middle,
      Course key first changes middle ∧ Course key middle later last := by
  induction changes generalizing first with
  | nil =>
      exact ⟨first, .done first, course⟩
  | cons change changes inductionHypothesis =>
      cases course with
      | created onward =>
          obtain ⟨middle, before, after⟩ := inductionHypothesis onward
          exact ⟨middle, .created before, after⟩
      | revised onward =>
          obtain ⟨middle, before, after⟩ := inductionHypothesis onward
          exact ⟨middle, .revised before, after⟩
      | deleted onward =>
          obtain ⟨middle, before, after⟩ := inductionHypothesis onward
          exact ⟨middle, .deleted before, after⟩
      | elsewhere isOther onward =>
          obtain ⟨middle, before, after⟩ := inductionHypothesis onward
          exact ⟨middle, .elsewhere isOther before, after⟩

/-- A resource is created only where there is none. -/
theorem of_created
    {first last : Option Nat}
    {changes : List Change}
    (course : Course key first (.created key :: changes) last) :
    first = none ∧ Course key (some 0) changes last := by
  cases course with
  | created onward =>
      exact ⟨rfl, onward⟩
  | elsewhere isOther onward =>
      exact absurd rfl isOther

/-- A resource that is there, and was not created, only gained revisions. -/
theorem steady
    {first : Option Nat}
    {changes : List Change}
    {last : Nat}
    (course : Course key first changes (some last))
    (notCreated : .created key ∉ changes) :
    .deleted key ∉ changes ∧
      ∃ revision,
        first = some revision ∧
          last = revision + changes.count (.revised key) := by
  generalize ends : some last = final at course
  induction course with
  | done =>
      cases ends
      exact ⟨List.not_mem_nil, last, rfl, rfl⟩
  | created onward inductionHypothesis =>
      exact absurd List.mem_cons_self notCreated
  | @revised revision changes final onward inductionHypothesis =>
      have notLater := fun member => notCreated (List.mem_cons_of_mem _ member)
      obtain ⟨notDeleted, next, isNext, counted⟩ :=
        inductionHypothesis notLater ends
      cases isNext
      refine ⟨?_, revision, rfl, ?_⟩
      · intro member
        rcases List.mem_cons.mp member with isHead | inRest
        · cases isHead
        · exact notDeleted inRest
      · rw [List.count_cons_self, counted]
        omega
  | deleted onward inductionHypothesis =>
      have notLater := fun member => notCreated (List.mem_cons_of_mem _ member)
      obtain ⟨-, next, isNext, -⟩ := inductionHypothesis notLater ends
      cases isNext
  | @elsewhere change first changes final isOther onward inductionHypothesis =>
      have notLater := fun member => notCreated (List.mem_cons_of_mem _ member)
      obtain ⟨notDeleted, revision, isFirst, counted⟩ :=
        inductionHypothesis notLater ends
      have notRevised : change ≠ .revised key := by
        rintro rfl
        exact isOther rfl
      refine ⟨?_, revision, isFirst, ?_⟩
      · intro member
        rcases List.mem_cons.mp member with isHead | inRest
        · exact isOther (isHead ▸ rfl)
        · exact notDeleted inRest
      · rw [List.count_cons_of_ne notRevised]
        exact counted

/-- A resource that was there and is no more has been deleted. -/
theorem deleted_mem
    {revision : Nat}
    {changes : List Change}
    (course : Course key (some revision) changes none) :
    .deleted key ∈ changes := by
  generalize starts : some revision = first at course
  generalize ends : none = final at course
  induction course generalizing revision with
  | done =>
      cases starts.trans ends.symm
  | created onward inductionHypothesis =>
      cases starts
  | revised onward inductionHypothesis =>
      exact List.mem_cons_of_mem _ (inductionHypothesis rfl ends)
  | deleted onward inductionHypothesis =>
      exact List.mem_cons_self
  | elsewhere isOther onward inductionHypothesis =>
      exact List.mem_cons_of_mem _ (inductionHypothesis starts ends)

/-- Changes, divided where the resource of a key was created last. -/
structure Recreated
    (key : String)
    (changes before since : List Change) : Prop where
  divided : changes = before ++ .created key :: since
  notCreated : .created key ∉ since
  notDeleted : .deleted key ∉ since

/-- After its last creation a resource only gained revisions, from zero on. -/
theorem since_creation
    {first : Option Nat}
    {changes : List Change}
    {last : Nat}
    (course : Course key first changes (some last))
    (isCreated : .created key ∈ changes) :
    ∃ before since,
      Recreated key changes before since ∧
        last = since.count (.revised key) ∧
        Course key first before none := by
  obtain ⟨later, earlier, reversed, notCreated⟩ :=
    List.eq_append_cons_of_mem (List.mem_reverse.mpr isCreated)
  have divided :
      changes = earlier.reverse ++ .created key :: later.reverse := by
    rw [← List.reverse_reverse changes, reversed, List.reverse_append,
      List.reverse_cons, List.append_assoc]
    rfl
  rw [divided] at course
  obtain ⟨middle, before, onward⟩ := course.split
  obtain ⟨rfl, since⟩ := onward.of_created
  have notSince : .created key ∉ later.reverse :=
    fun member => notCreated (List.mem_reverse.mp member)
  obtain ⟨notDeleted, revision, fromZero, counted⟩ := since.steady notSince
  cases fromZero
  refine
    ⟨earlier.reverse, later.reverse, ⟨divided, notSince, notDeleted⟩, ?_,
      before⟩
  rw [counted, Nat.zero_add]

end Course

/-- The revisions that are counted are those after the last creation. -/
theorem Change.revisionsSinceCreation_eq
    {key : String}
    {changes before since : List Change}
    (recreated : Course.Recreated key changes before since) :
    revisionsSinceCreation key changes = since.count (.revised key) := by
  have allRevise :
      ∀ change ∈ since.reverse, decide (change ≠ .created key) = true := by
    intro change member
    refine decide_eq_true fun isCreation => recreated.notCreated ?_
    exact isCreation ▸ List.mem_reverse.mp member
  rw [revisionsSinceCreation, recreated.divided, List.reverse_append,
    List.reverse_cons, List.append_assoc,
    List.takeWhile_append_of_pos allRevise]
  simp only [List.cons_append, List.nil_append, ne_eq, not_true_eq_false,
    decide_false, List.takeWhile_cons, Bool.false_eq_true, if_false,
    List.append_nil, List.count_reverse]

/-! ## Revisions along a history -/

/-- An insertion sets the revision under the entry's id, and no other. -/
theorem revision?_insert
    (store : Store)
    (entry : Entry)
    (key : String) :
    (store.insert entry).revision? key =
      if key = Text.fold entry.id then
        some entry.revision
      else
        store.revision? key := by
  unfold revision?
  rw [get?_insert]
  split <;> rfl

/-- An erasure takes the revision under the id away, and no other. -/
theorem Keyed.revision?_erase
    {store : Store}
    (keyed : store.Keyed)
    (id key : String) :
    (store.erase id).revision? key =
      if key = Text.fold id then none else store.revision? key := by
  unfold revision?
  rw [keyed.get?_erase]
  split <;> rfl

/-- The change of a call takes every revision on its course. -/
theorem Keyed.course_after
    {store : Store}
    (keyed : store.Keyed)
    (key : String)
    (call : Call) :
    Course key (store.revision? key) (store.change? call).toList
      ((store.after call).revision? key) := by
  have outcome := store.handle_outcome call
  unfold Store.after Store.change? answer
  generalize store.handle call.freshId call.request = result at outcome ⊢
  cases outcome with
  | @created content newId whole asks free =>
      show Course key _ call.change?.toList ((store.insert _).revision? key)
      rw [Call.change?_of_create whole asks, revision?_insert]
      split
      · rename_i same
        subst same
        have absent :
            store.revision? (Text.fold (newId.getD call.freshId)) = none :=
          congrArg (Option.map Entry.revision) free
        rw [absent]
        exact .created (.done _)
      · rename_i different
        exact .elsewhere (fun same => different same.symm) (.done _)
  | @revised id entry content instanceName writes found isAt =>
      show Course key _ call.change?.toList ((store.insert _).revision? key)
      rw [Call.change?_of_writes instanceName writes, revision?_insert,
        Entry.revise_id, keyed.fold_id found]
      split
      · rename_i same
        subst same
        have present :
            store.revision? (Text.fold id) = some entry.revision :=
          congrArg (Option.map Entry.revision) found
        rw [present]
        exact .revised (.done _)
      · rename_i different
        exact .elsewhere (fun same => different same.symm) (.done _)
  | @deleted id entry revision instanceName asks found isAt =>
      show Course key _ call.change?.toList ((store.erase id).revision? key)
      rw [Call.change?_of_delete instanceName asks, keyed.revision?_erase]
      split
      · rename_i same
        subst same
        have present :
            store.revision? (Text.fold id) = some entry.revision :=
          congrArg (Option.map Entry.revision) found
        rw [present]
        exact .deleted (.done _)
      · rename_i different
        exact .elsewhere (fun same => different same.symm) (.done _)
  | observed observes =>
      show Course key _ call.change?.toList (store.revision? key)
      rw [Call.change?_of_observes observes]
      exact .done _
  | refused =>
      exact .done _

/-- The changes of calls take every revision on its course. -/
theorem Keyed.course_afterAll
    {store : Store}
    (keyed : store.Keyed)
    (key : String)
    (calls : List Call) :
    Course key (store.revision? key) (store.changes calls)
      ((store.afterAll calls).revision? key) := by
  induction calls generalizing store with
  | nil =>
      exact .done _
  | cons call calls inductionHypothesis =>
      exact (keyed.course_after key call).append
        (inductionHypothesis (keyed.after call))

end ResourceServer.Store
