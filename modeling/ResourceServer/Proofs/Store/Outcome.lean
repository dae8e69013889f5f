import ResourceServer.Collection

namespace ResourceServer

/-!
# What one request does to a store

A request that a collection hands to a store either fails and changes nothing,
or does one of four things: it creates a resource at revision zero, revises one
that is at the revision asked for, deletes one that is, or only looks. It never
fails through a fault of the server.
-/

namespace Failure

/-- Whether the failure is laid to the server. -/
def isInternal : Failure → Bool
  | .internal _ => true
  | _ => false

/-- The result is no failure that is laid to the server. -/
def NeverInternal {α : Type} (result : Except Failure α) : Prop :=
  ∀ failure, result = .error failure → failure.isInternal = false

namespace NeverInternal

variable {α β : Type}

theorem ok
    (value : α) :
    NeverInternal (.ok value) := by
  intro failure failed
  cases failed

theorem error
    {failure : Failure}
    (notInternal : failure.isInternal = false) :
    NeverInternal (.error failure : Except Failure α) := by
  rintro _ ⟨⟩
  exact notInternal

theorem bind
    {result : Except Failure α}
    (first : NeverInternal result)
    {next : α → Except Failure β}
    (onward : ∀ value, NeverInternal (next value)) :
    NeverInternal (result >>= next) := by
  cases result with
  | error failure =>
      exact error (first failure rfl)
  | ok value =>
      exact onward value

theorem map
    {result : Except Failure α}
    (first : NeverInternal result)
    (transform : α → β) :
    NeverInternal (result.map transform) := by
  cases result with
  | error failure =>
      exact error (first failure rfl)
  | ok value =>
      exact ok (transform value)

end NeverInternal

end Failure

theorem Failure.of_map_error
    {α β : Type}
    {result : Except Failure α}
    {transform : α → β}
    {failure : Failure}
    (failed : result.map transform = .error failure) :
    result = .error failure := by
  cases result with
  | error reported =>
      cases failed
      rfl
  | ok value =>
      cases failed

open Failure (NeverInternal)

namespace PatchOperation

theorem removeItem_neverInternal
    (items : List Json)
    (key : String) :
    NeverInternal (removeItem items key) := by
  unfold removeItem
  split
  · exact .ok _
  · exact .error rfl

/-- No single change of a parent value fails with an internal error. -/
theorem change_neverInternal
    (operation : PatchOperation)
    (parent : Json)
    (key : String) :
    NeverInternal (operation.change parent key) := by
  unfold change
  dsimp only
  split
  · exact .ok _
  · split
    · exact .ok _
    · exact .error rfl
  · exact .ok _
  · exact .ok _
  · exact (removeItem_neverInternal _ key).map _
  · exact .ok _
  · split
    · exact .error rfl
    · exact .error rfl

theorem apply_neverInternal
    (operation : PatchOperation)
    (content : Json) :
    NeverInternal (operation.apply content) := by
  unfold apply
  split
  · exact .error rfl
  · split
    · exact .error rfl
    · split
      · exact .error rfl
      · exact (operation.change_neverInternal _ _).map _

/-- A whole patch never fails with an internal error. -/
theorem applyAll_neverInternal
    (operations : List PatchOperation)
    (content : Json) :
    NeverInternal (applyAll operations content) := by
  unfold applyAll
  induction operations generalizing content with
  | nil =>
      exact .ok content
  | cons operation rest inductionHypothesis =>
      rw [List.foldlM_cons]
      exact (operation.apply_neverInternal content).bind inductionHypothesis

end PatchOperation

namespace PatchOperation

/-- An item that cannot be removed is a bad request or not implemented. -/
theorem removeItem_error
    {items : List Json}
    {key : String}
    {failure : Failure}
    (failed : removeItem items key = .error failure) :
    failure.status = 400 ∨ failure.status = 501 := by
  unfold removeItem at failed
  split at failed
  · cases failed
  · cases failed
    exact .inl rfl

theorem change_error
    {operation : PatchOperation}
    {parent : Json}
    {key : String}
    {failure : Failure}
    (failed : operation.change parent key = .error failure) :
    failure.status = 400 ∨ failure.status = 501 := by
  unfold change at failed
  dsimp only at failed
  split at failed
  · cases failed
  · split at failed
    · cases failed
    · cases failed
      exact .inl rfl
  · cases failed
  · cases failed
  · exact removeItem_error (Failure.of_map_error failed)
  · cases failed
  · split at failed
    · cases failed
      exact .inl rfl
    · cases failed
      exact .inr rfl

/-- A patch operation that fails is a bad request or not implemented. -/
theorem apply_error
    {operation : PatchOperation}
    {content : Json}
    {failure : Failure}
    (failed : operation.apply content = .error failure) :
    failure.status = 400 ∨ failure.status = 501 := by
  unfold apply at failed
  split at failed
  · cases failed
    exact .inl rfl
  · split at failed
    · cases failed
      exact .inl rfl
    · split at failed
      · cases failed
        exact .inl rfl
      · exact change_error (Failure.of_map_error failed)

/-- A patch fails because it makes no sense, or asks for what is not offered. -/
theorem applyAll_error
    {operations : List PatchOperation}
    {content : Json}
    {failure : Failure}
    (failed : applyAll operations content = .error failure) :
    failure.status = 400 ∨ failure.status = 501 := by
  unfold applyAll at failed
  induction operations generalizing content with
  | nil =>
      cases failed
  | cons operation rest inductionHypothesis =>
      rw [List.foldlM_cons] at failed
      cases applied : operation.apply content with
      | error reported =>
          rw [applied] at failed
          cases failed
          exact apply_error applied
      | ok next =>
          rw [applied] at failed
          exact inductionHypothesis failed

end PatchOperation

/-- Whether a verb only looks at resources. -/
def Verb.observes : Verb → Bool
  | .read => true
  | .query => true
  | .action => true
  | _ => false

/-- The content that an update or a patch makes of the content there is. -/
inductive Operation.Writes :
    Operation → Json → Json → Prop where
  | update (content : Json) (revision : Option String) (old : Json) :
      Writes (.update content revision) old content
  | patch
      {operations : List PatchOperation}
      {revision : Option String}
      {old content : Json}
      (applied : PatchOperation.applyAll operations old = .ok content) :
      Writes (.patch operations revision) old content

namespace Entry

@[simp] theorem revise_id
    (entry : Entry)
    (content : Json) :
    (entry.revise content).id = entry.id :=
  rfl

/-- The revisions that fit an entry: none, the one for any, and its own. -/
theorem isAt_iff
    {entry : Entry}
    {revision : Option String} :
    entry.isAt revision = true ↔
      revision = none ∨
        revision = some anyRevision ∨
        revision = some (toString entry.revision) := by
  cases revision with
  | none =>
      simp only [isAt, true_or]
  | some revision =>
      simp only [isAt, Bool.or_eq_true, beq_iff_eq, reduceCtorEq,
        Option.some.injEq, false_or]

/-- A revision check passes exactly at the entry's own revision, and gives the entry
back. -/
theorem check_eq_ok_iff
    {entry checked : Entry}
    {revision : Option String} :
    entry.check revision = .ok checked ↔
      entry.isAt revision = true ∧ entry = checked := by
  unfold check
  split
  · rename_i current
    simp only [Except.ok.injEq, current, true_and]
  · rename_i stale
    simp only [reduceCtorEq, stale, Bool.false_eq_true, false_and]

theorem check_neverInternal
    (entry : Entry)
    (revision : Option String) :
    NeverInternal (entry.check revision) := by
  unfold check
  split
  · exact .ok entry
  · exact .error rfl

end Entry

namespace Store

/-- A request on its way to a store, and an id for what it may create. -/
structure Call where
  freshId : String
  request : Request

/-- What a store answers to a call. -/
def answer
    (store : Store)
    (call : Call) :
    Except Failure Response :=
  (store.handle call.freshId call.request).map Prod.fst

/-- The store after a call; one that fails leaves it as it is. -/
def after
    (store : Store)
    (call : Call) :
    Store :=
  match store.handle call.freshId call.request with
  | .ok (_, changed) => changed
  | .error _ => store

/-- The entry that a change may be made to. -/
def current
    (store : Store)
    (id : String)
    (revision : Option String) :
    Except Failure Entry := do
  (← store.find id).check revision

/-- Finding an entry succeeds exactly with the one stored under the id. -/
theorem find_eq_ok_iff
    {store : Store}
    {id : String}
    {entry : Entry} :
    store.find id = .ok entry ↔ store.find? id = some entry := by
  unfold find
  split
  · rename_i found
    simp only [found, Except.ok.injEq, Option.some.injEq]
  · rename_i missing
    simp only [missing, reduceCtorEq]

theorem find_neverInternal
    (store : Store)
    (id : String) :
    NeverInternal (store.find id) := by
  unfold find
  split
  · exact .ok _
  · exact .error rfl

/-- The current entry is the stored one, and only where its revision is the expected
one. -/
theorem current_eq_ok_iff
    {store : Store}
    {id : String}
    {revision : Option String}
    {entry : Entry} :
    store.current id revision = .ok entry ↔
      store.find? id = some entry ∧ entry.isAt revision = true := by
  unfold current
  cases looked : store.find id with
  | error failure =>
      have missing : store.find? id ≠ some entry := by
        intro found
        cases looked.symm.trans (find_eq_ok_iff.mpr found)
      simp only [missing, false_and, iff_false]
      intro isOk
      cases isOk
  | ok present =>
      have found := find_eq_ok_iff.mp looked
      show present.check revision = .ok entry ↔ _
      rw [Entry.check_eq_ok_iff, found, Option.some.injEq]
      constructor
      · rintro ⟨isAt, rfl⟩
        exact ⟨rfl, isAt⟩
      · rintro ⟨rfl, isAt⟩
        exact ⟨isAt, rfl⟩

/-- An id under which nothing is stored is answered by "not found". -/
theorem find_of_missing
    {store : Store}
    {id : String}
    (missing : store.find? id = none) :
    ∃ reason, store.find id = .error (.notFound reason) := by
  rw [find, missing]
  exact ⟨_, rfl⟩

theorem current_of_missing
    {store : Store}
    {id : String}
    {revision : Option String}
    (missing : store.find? id = none) :
    ∃ reason, store.current id revision = .error (.notFound reason) := by
  obtain ⟨reason, notFound⟩ := find_of_missing missing
  rw [current, notFound]
  exact ⟨reason, rfl⟩

theorem current_of_found
    {store : Store}
    {id : String}
    {revision : Option String}
    {entry : Entry}
    (found : store.find? id = some entry) :
    store.current id revision = entry.check revision := by
  rw [current, find_eq_ok_iff.mpr found]
  rfl

theorem current_neverInternal
    (store : Store)
    (id : String)
    (revision : Option String) :
    NeverInternal (store.current id revision) :=
  (store.find_neverInternal id).bind fun entry =>
    entry.check_neverInternal revision

/-- An update revises the current entry and stores the revision in its place. -/
theorem update_eq
    (store : Store)
    (id : String)
    (revision : Option String)
    (content : Json) :
    store.update id revision content =
      (store.current id revision).map fun entry =>
        (entry.revise content, store.insert (entry.revise content)) := by
  unfold update current
  cases store.find id with
  | error failure =>
      rfl
  | ok entry =>
      show (entry.check revision >>= _) = (entry.check revision).map _
      cases entry.check revision <;> rfl

/-- A delete answers with the current entry and erases it. -/
theorem delete_eq
    (store : Store)
    (id : String)
    (revision : Option String) :
    store.delete id revision =
      (store.current id revision).map fun entry =>
        (entry, store.erase id) := by
  unfold delete current
  cases store.find id with
  | error failure =>
      rfl
  | ok entry =>
      show (entry.check revision >>= _) = (entry.check revision).map _
      cases entry.check revision <;> rfl

/-- A patch is an update of the current entry by the patched content. -/
theorem patch_eq
    (store : Store)
    (id : String)
    (revision : Option String)
    (operations : List PatchOperation) :
    store.patch id revision operations =
      store.current id revision >>= fun entry =>
        (PatchOperation.applyAll operations entry.content).map fun content =>
          (entry.revise content, store.insert (entry.revise content)) := by
  unfold patch current
  cases store.find id with
  | error failure =>
      rfl
  | ok entry =>
      show (entry.check revision >>= _) = (entry.check revision >>= _)
      cases entry.check revision with
      | error failure =>
          rfl
      | ok entry =>
          show (PatchOperation.applyAll operations entry.content >>= _) =
            (PatchOperation.applyAll operations entry.content).map _
          cases PatchOperation.applyAll operations entry.content <;> rfl

theorem query_neverInternal
    (store : Store)
    (query : Query) :
    NeverInternal (store.query query) := by
  have selects : NeverInternal (store.idsOnly query) := by
    unfold idsOnly
    split
    · exact .ok _
    · split
      · exact .ok _
      · exact .error rfl
  have starts : NeverInternal (startOf query) := by
    unfold startOf
    split
    · exact .ok _
    · split
      · exact .ok _
      · exact .error rfl
  unfold Store.query
  exact selects.bind fun idsOnly => starts.bind fun start => .ok _

/-! ## The outcomes of a call -/

variable {store : Store} {call : Call}

/-- A call for the collection as a whole is carried out as its verb says. -/
theorem handle_of_whole
    (whole : call.request.name.elements = []) :
    store.handle call.freshId call.request =
      CollectionCall.ofWhole call.request.verb >>= fun asked =>
        store.run call.freshId asked call.request.operation := by
  simp only [handle, CollectionCall.ofRequest, whole]

/-- A call for one instance is carried out as its verb says. -/
theorem handle_of_instance
    {id : String}
    (instanceName : call.request.name.elements = [id]) :
    store.handle call.freshId call.request =
      CollectionCall.ofInstance id call.request.verb >>= fun asked =>
        store.run call.freshId asked call.request.operation := by
  simp only [handle, CollectionCall.ofRequest, instanceName]

/-- What a call can come to, with the reason for it. -/
inductive Outcome
    (store : Store)
    (call : Call) :
    Except Failure (Response × Store) → Prop where
  | created
      {content : Json}
      {newId : Option String}
      (whole : call.request.name.elements = [])
      (asks : call.request.operation = .create content newId)
      (free : store.find? (newId.getD call.freshId) = none) :
      Outcome store call
        (.ok
          (shown
            (⟨newId.getD call.freshId, 0, content⟩,
              store.insert ⟨newId.getD call.freshId, 0, content⟩)))
  | revised
      {id : String}
      {entry : Entry}
      {content : Json}
      (instanceName : call.request.name.elements = [id])
      (writes : call.request.operation.Writes entry.content content)
      (found : store.find? id = some entry)
      (isAt : entry.isAt call.request.operation.revision? = true) :
      Outcome store call
        (.ok (shown (entry.revise content, store.insert (entry.revise content))))
  | deleted
      {id : String}
      {entry : Entry}
      {revision : Option String}
      (instanceName : call.request.name.elements = [id])
      (asks : call.request.operation = .delete revision)
      (found : store.find? id = some entry)
      (isAt : entry.isAt revision = true) :
      Outcome store call (.ok (shown (entry, store.erase id)))
  | observed
      {response : Response}
      (observes : call.request.verb.observes = true) :
      Outcome store call (.ok (response, store))
  | refused
      {failure : Failure}
      (notInternal : failure.isInternal = false) :
      Outcome store call (.error failure)

namespace Outcome

/-- A result that changes nothing is an observation or a refusal. -/
theorem of_unchanged
    {α : Type}
    {result : Except Failure α}
    (observes : call.request.verb.observes = true)
    (neverInternal : NeverInternal result)
    (respond : α → Response) :
    store.Outcome call (result.map fun seen => (respond seen, store)) := by
  cases result with
  | error failure =>
      exact .refused (neverInternal failure rfl)
  | ok seen =>
      exact .observed observes

end Outcome

/-- A create of the whole collection ends as the store's own `create` does. -/
theorem outcome_of_create
    {content : Json}
    {newId : Option String}
    (whole : call.request.name.elements = [])
    (asks : call.request.operation = .create content newId) :
    store.Outcome call
      ((store.create (newId.getD call.freshId) content).map shown) := by
  unfold create
  split
  · exact .refused rfl
  · rename_i free
    exact .created whole asks free

/-- An update of one instance ends as the store's own `update` does. -/
theorem outcome_of_update
    {id : String}
    {content : Json}
    {revision : Option String}
    (instanceName : call.request.name.elements = [id])
    (asks : call.request.operation = .update content revision) :
    store.Outcome call ((store.update id revision content).map shown) := by
  rw [update_eq]
  cases chosen : store.current id revision with
  | error failure =>
      exact .refused (store.current_neverInternal id revision failure chosen)
  | ok entry =>
      obtain ⟨found, isAt⟩ := current_eq_ok_iff.mp chosen
      refine .revised instanceName ?_ found ?_
      · rw [asks]
        exact .update content revision entry.content
      · rw [asks]
        exact isAt

theorem outcome_of_delete
    {id : String}
    {revision : Option String}
    (instanceName : call.request.name.elements = [id])
    (asks : call.request.operation = .delete revision) :
    store.Outcome call ((store.delete id revision).map shown) := by
  rw [delete_eq]
  cases chosen : store.current id revision with
  | error failure =>
      exact .refused (store.current_neverInternal id revision failure chosen)
  | ok entry =>
      obtain ⟨found, isAt⟩ := current_eq_ok_iff.mp chosen
      exact .deleted instanceName asks found isAt

theorem outcome_of_patch
    {id : String}
    {operations : List PatchOperation}
    {revision : Option String}
    (instanceName : call.request.name.elements = [id])
    (asks : call.request.operation = .patch operations revision) :
    store.Outcome call ((store.patch id revision operations).map shown) := by
  rw [patch_eq]
  cases chosen : store.current id revision with
  | error failure =>
      exact .refused (store.current_neverInternal id revision failure chosen)
  | ok entry =>
      obtain ⟨found, isAt⟩ := current_eq_ok_iff.mp chosen
      -- The operations work on a copy, so one that fails leaves no trace.
      cases applied : PatchOperation.applyAll operations entry.content with
      | error failure =>
          have notInternal :=
            PatchOperation.applyAll_neverInternal operations entry.content
              failure applied
          show store.Outcome call
            (((PatchOperation.applyAll operations entry.content).map _).map _)
          rw [applied]
          exact .refused notInternal
      | ok content =>
          show store.Outcome call
            (((PatchOperation.applyAll operations entry.content).map _).map _)
          rw [applied]
          refine .revised instanceName ?_ found ?_
          · rw [asks]
            exact .patch applied
          · rw [asks]
            exact isAt

/-- Every call has one of the outcomes. -/
theorem handle_outcome
    (store : Store)
    (call : Call) :
    store.Outcome call (store.handle call.freshId call.request) := by
  cases shape : call.request.name.elements with
  | nil =>
      rw [handle_of_whole shape]
      unfold Request.verb
      cases asks : call.request.operation with
      | create content newId =>
          exact outcome_of_create shape asks
      | query query =>
          have observes : call.request.verb.observes = true := by
            rw [Request.verb, asks]
            rfl
          exact .of_unchanged observes (store.query_neverInternal query) .query
      | action name content =>
          have observes : call.request.verb.observes = true := by
            rw [Request.verb, asks]
            rfl
          show store.Outcome call (if name = countAction then _ else _)
          split
          · exact .observed observes
          · exact .refused rfl
      | read => exact .refused rfl
      | update content revision => exact .refused rfl
      | delete revision => exact .refused rfl
      | patch operations revision => exact .refused rfl
  | cons id rest =>
      cases rest with
      | nil =>
          rw [handle_of_instance shape]
          unfold Request.verb
          cases asks : call.request.operation with
          | read =>
              have observes : call.request.verb.observes = true := by
                rw [Request.verb, asks]
                rfl
              exact .of_unchanged observes (store.find_neverInternal id)
                fun entry => .resource entry.resource
          | update content revision => exact outcome_of_update shape asks
          | delete revision => exact outcome_of_delete shape asks
          | patch operations revision => exact outcome_of_patch shape asks
          | create content newId => exact .refused rfl
          | query query => exact .refused rfl
          | action name content => exact .refused rfl
      | cons second others =>
          simp only [handle, CollectionCall.ofRequest, shape]
          exact .refused rfl

/-- Handling a call gives the answer, and the store after the call. -/
theorem handle_eq_answer
    (store : Store)
    (call : Call) :
    store.handle call.freshId call.request =
      (store.answer call).map fun response =>
        (response, store.after call) := by
  unfold answer Store.after
  cases store.handle call.freshId call.request <;> rfl

/-- An answer and the store after it come from one of the outcomes. -/
theorem outcome_of_answer
    {response : Response}
    (answered : store.answer call = .ok response) :
    store.Outcome call (.ok (response, store.after call)) := by
  have outcome := store.handle_outcome call
  rw [handle_eq_answer, answered] at outcome
  exact outcome

/-- A call that fails changes nothing, and no fault of the server is behind it. -/
theorem after_of_answer_error
    {failure : Failure}
    (answered : store.answer call = .error failure) :
    store.after call = store ∧ failure.isInternal = false := by
  have handled := store.handle_eq_answer call
  have outcome := store.handle_outcome call
  rw [answered] at handled
  rw [handled] at outcome
  cases outcome with
  | refused notInternal =>
      refine ⟨?_, notInternal⟩
      rw [Store.after, handled]
      rfl

end Store

end ResourceServer
