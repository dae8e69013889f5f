import ResourceServer.Proofs.Store.History

namespace ResourceServer.Store

/-!
# Stores as maps with revisions

To its clients a store is a map from ids, whatever the case of their letters,
to resources with revisions. This module states what each kind of request does
to that map and when it may, and that it holds after every history.
-/

/-- A call leaves this for one id, and every other id as it was. -/
def ChangesOnly
    (store : Store)
    (call : Call)
    (id : String)
    (left : Option Entry) :
    Prop :=
  ∀ other,
    (store.after call).find? other =
      if Text.fold other = Text.fold id then left else store.find? other

/-- A revision is one that a request may name for an entry. -/
def Names
    (revision : Option String)
    (entry : Entry) :
    Prop :=
  revision = none ∨
    revision = some "*" ∨
    revision = some (toString entry.revision)

/-- The entries are a map, and the history tells how often each was revised. -/
structure RevisionedMap
    (store : Store)
    (history : List Change) :
    Prop where
  sorted : store.entries.Sorted
  atOwnKey :
    ∀ {key : String} {entry : Entry},
      store.entries.get? key = some entry → Text.fold entry.id = key
  revisionsCounted :
    ∀ {key : String} {entry : Entry},
      store.entries.get? key = some entry →
        .created key ∈ history ∧
          entry.revision = Change.revisionsSinceCreation key history
  /-- Only as many changes as sixty-four bits can count would fill them. -/
  revisionsBounded :
    ∀ {key : String} {entry : Entry},
      store.entries.get? key = some entry →
        entry.revision ≤ history.length
  sizeCounted :
    store.size =
      (store.entries.map fun pair => Text.fold pair.2.id).toFinset.card

/-- A call is carried out as a map with revisions demands. -/
structure ServesAsMap
    (store : Store)
    (call : Call) :
    Prop where
  createSucceeds :
    ∀ {content : Json} {newId : Option String},
      call.request.name.elements = [] →
        call.request.operation = .create content newId →
          ((∃ response, store.answer call = .ok response) ↔
            store.find? (newId.getD call.freshId) = none)
  created :
    ∀ {content : Json} {newId : Option String} {response : Response},
      call.request.operation = .create content newId →
        store.answer call = .ok response →
          let entry : Entry := ⟨newId.getD call.freshId, 0, content⟩
          response = .resource entry.resource ∧
            store.ChangesOnly call entry.id (some entry)
  writeSucceeds :
    ∀ {id : String},
      call.request.name.elements = [id] →
        call.request.verb = .update ∨ call.request.verb = .patch →
          ((∃ response, store.answer call = .ok response) ↔
            ∃ entry content,
              store.find? id = some entry ∧
                Names call.request.operation.revision? entry ∧
                call.request.operation.Writes entry.content content)
  written :
    ∀ {response : Response},
      call.request.verb = .update ∨ call.request.verb = .patch →
        store.answer call = .ok response →
          ∃ id entry content,
            call.request.name.elements = [id] ∧
              store.find? id = some entry ∧
              Names call.request.operation.revision? entry ∧
              call.request.operation.Writes entry.content content ∧
              let revised : Entry := ⟨entry.id, entry.revision + 1, content⟩
              response = .resource revised.resource ∧
                store.ChangesOnly call id (some revised)
  deleteSucceeds :
    ∀ {id : String} {revision : Option String},
      call.request.name.elements = [id] →
        call.request.operation = .delete revision →
          ((∃ response, store.answer call = .ok response) ↔
            ∃ entry, store.find? id = some entry ∧ Names revision entry)
  deleted :
    ∀ {revision : Option String} {response : Response},
      call.request.operation = .delete revision →
        store.answer call = .ok response →
          ∃ id entry,
            call.request.name.elements = [id] ∧
              store.find? id = some entry ∧
              Names revision entry ∧
              response = .resource entry.resource ∧
              store.ChangesOnly call id none
  readAnswers :
    ∀ {id : String} {response : Response},
      call.request.name.elements = [id] →
        call.request.operation = .read →
          (store.answer call = .ok response ↔
            ∃ entry,
              store.find? id = some entry ∧
                response = .resource entry.resource)
  observed :
    call.request.verb.observes = true → store.after call = store
  refused :
    ∀ {failure : Failure},
      store.answer call = .error failure →
        store.after call = store ∧ failure.isInternal = false

variable {store : Store} {call : Call}

/-- The revisions that may be named for an entry are those that the check lets pass. -/
theorem names_iff_isAt
    {revision : Option String}
    {entry : Entry} :
    Names revision entry ↔ entry.isAt revision = true :=
  Entry.isAt_iff.symm

/-! ## What an answer tells about the store -/

/-- To insert an entry changes what is found under its id, and nothing else. -/
theorem changesOnly_of_insert
    {entry : Entry}
    {id : String}
    (changed : store.after call = store.insert entry)
    (sameId : Text.fold entry.id = Text.fold id) :
    store.ChangesOnly call id (some entry) := by
  intro other
  rw [changed, ← sameId]
  exact get?_insert store entry (Text.fold other)

/-- To erase an id removes what is found under it, and nothing else. -/
theorem Keyed.changesOnly_of_erase
    (keyed : store.Keyed)
    {id : String}
    (changed : store.after call = store.erase id) :
    store.ChangesOnly call id none := by
  intro other
  rw [changed]
  exact keyed.get?_erase id (Text.fold other)

/-- A create that succeeded has stored the entry that it answers. -/
theorem after_of_created
    {content : Json}
    {newId : Option String}
    {response : Response}
    (asks : call.request.operation = .create content newId)
    (answered : store.answer call = .ok response) :
    let entry : Entry := ⟨newId.getD call.freshId, 0, content⟩
    store.find? entry.id = none ∧
      response = .resource entry.resource ∧
      store.after call = store.insert entry := by
  have outcome := outcome_of_answer answered
  generalize isResult :
    Except.ok (response, store.after call) = result at outcome
  cases outcome with
  | created whole asked free =>
      cases asks.symm.trans asked
      simp only [shown, Except.ok.injEq, Prod.mk.injEq] at isResult
      exact ⟨free, isResult⟩
  | revised instanceName writes =>
      rw [asks] at writes
      cases writes
  | deleted instanceName asked =>
      cases asks.symm.trans asked
  | observed observes =>
      rw [Request.verb, asks] at observes
      cases observes
  | refused =>
      cases isResult

/-- A resource is created by a request for the collection as a whole. -/
theorem whole_of_created
    {content : Json}
    {newId : Option String}
    {response : Response}
    (asks : call.request.operation = .create content newId)
    (answered : store.answer call = .ok response) :
    call.request.name.elements = [] := by
  have outcome := outcome_of_answer answered
  generalize isResult :
    Except.ok (response, store.after call) = result at outcome
  cases outcome with
  | created whole =>
      exact whole
  | revised instanceName writes =>
      rw [asks] at writes
      cases writes
  | deleted instanceName asked =>
      cases asks.symm.trans asked
  | observed observes =>
      rw [Request.verb, asks] at observes
      cases observes
  | refused =>
      cases isResult

/-- A write that succeeded has revised the entry at the named revision. -/
theorem after_of_written
    {response : Response}
    (isWrite : call.request.verb = .update ∨ call.request.verb = .patch)
    (answered : store.answer call = .ok response) :
    ∃ id entry content,
      call.request.name.elements = [id] ∧
        store.find? id = some entry ∧
        Names call.request.operation.revision? entry ∧
        call.request.operation.Writes entry.content content ∧
        response = .resource (entry.revise content).resource ∧
        store.after call = store.insert (entry.revise content) := by
  have outcome := outcome_of_answer answered
  unfold Request.verb at isWrite
  generalize isResult :
    Except.ok (response, store.after call) = result at outcome
  cases outcome with
  | created whole asked free =>
      rw [asked] at isWrite
      rcases isWrite with isUpdate | isPatch
      · cases isUpdate
      · cases isPatch
  | revised instanceName writes found isAt =>
      simp only [shown, Except.ok.injEq, Prod.mk.injEq] at isResult
      exact
        ⟨_, _, _, instanceName, found, names_iff_isAt.mpr isAt, writes,
          isResult⟩
  | deleted instanceName asked =>
      rw [asked] at isWrite
      rcases isWrite with isUpdate | isPatch
      · cases isUpdate
      · cases isPatch
  | observed observes =>
      unfold Request.verb at observes
      rcases isWrite with isUpdate | isPatch
      · rw [isUpdate] at observes
        cases observes
      · rw [isPatch] at observes
        cases observes
  | refused =>
      cases isResult

/-- A delete that succeeded has erased the entry that it answers. -/
theorem after_of_deleted
    {revision : Option String}
    {response : Response}
    (asks : call.request.operation = .delete revision)
    (answered : store.answer call = .ok response) :
    ∃ id entry,
      call.request.name.elements = [id] ∧
        store.find? id = some entry ∧
        Names revision entry ∧
        response = .resource entry.resource ∧
        store.after call = store.erase id := by
  have outcome := outcome_of_answer answered
  generalize isResult :
    Except.ok (response, store.after call) = result at outcome
  cases outcome with
  | created whole asked free =>
      cases asks.symm.trans asked
  | revised instanceName writes =>
      rw [asks] at writes
      cases writes
  | deleted instanceName asked found isAt =>
      cases asks.symm.trans asked
      simp only [shown, Except.ok.injEq, Prod.mk.injEq] at isResult
      exact ⟨_, _, instanceName, found, names_iff_isAt.mpr isAt, isResult⟩
  | observed observes =>
      rw [Request.verb, asks] at observes
      cases observes
  | refused =>
      cases isResult

/-- A call that only observes leaves the store as it is. -/
theorem after_of_observes
    (observes : call.request.verb.observes = true) :
    store.after call = store := by
  have outcome := store.handle_outcome call
  unfold Request.verb at observes
  unfold Store.after
  generalize store.handle call.freshId call.request = result at outcome ⊢
  cases outcome with
  | created whole asked =>
      rw [asked] at observes
      cases observes
  | revised instanceName writes =>
      generalize call.request.operation = operation at observes writes
      cases writes with
      | update =>
          cases observes
      | patch =>
          cases observes
  | deleted instanceName asked =>
      rw [asked] at observes
      cases observes
  | observed =>
      rfl
  | refused =>
      rfl

/-! ## When a call succeeds -/

theorem exists_map_eq_ok_iff
    {α β : Type}
    {result : Except Failure α}
    {transform : α → β} :
    (∃ value, result.map transform = .ok value) ↔
      ∃ value, result = .ok value := by
  cases result with
  | error failure =>
      simp only [Except.map, reduceCtorEq, exists_false]
  | ok value =>
      simp only [Except.map, Except.ok.injEq, exists_eq']

/-- The answer of a create of the collection is that of the store's `create`. -/
theorem answer_of_create
    {content : Json}
    {newId : Option String}
    (whole : call.request.name.elements = [])
    (asks : call.request.operation = .create content newId) :
    store.answer call =
      ((store.create (newId.getD call.freshId) content).map shown).map
        Prod.fst := by
  rw [answer, handle_of_whole whole, Request.verb, asks]
  rfl

theorem answer_of_read
    {id : String}
    (instanceName : call.request.name.elements = [id])
    (asks : call.request.operation = .read) :
    store.answer call =
      ((store.find id).map fun entry =>
        (Response.resource entry.resource, store)).map Prod.fst := by
  rw [answer, handle_of_instance instanceName, Request.verb, asks]
  rfl

theorem answer_of_update
    {id : String}
    {content : Json}
    {revision : Option String}
    (instanceName : call.request.name.elements = [id])
    (asks : call.request.operation = .update content revision) :
    store.answer call =
      ((store.update id revision content).map shown).map Prod.fst := by
  rw [answer, handle_of_instance instanceName, Request.verb, asks]
  rfl

theorem answer_of_delete
    {id : String}
    {revision : Option String}
    (instanceName : call.request.name.elements = [id])
    (asks : call.request.operation = .delete revision) :
    store.answer call =
      ((store.delete id revision).map shown).map Prod.fst := by
  rw [answer, handle_of_instance instanceName, Request.verb, asks]
  rfl

theorem answer_of_patch
    {id : String}
    {operations : List PatchOperation}
    {revision : Option String}
    (instanceName : call.request.name.elements = [id])
    (asks : call.request.operation = .patch operations revision) :
    store.answer call =
      ((store.patch id revision operations).map shown).map Prod.fst := by
  rw [answer, handle_of_instance instanceName, Request.verb, asks]
  rfl

theorem create_succeeds_iff
    {id : String}
    {content : Json} :
    (∃ created, store.create id content = .ok created) ↔
      store.find? id = none := by
  unfold create
  split
  · rename_i taken
    simp only [reduceCtorEq, exists_false, taken]
  · rename_i free
    simp only [Except.ok.injEq, exists_eq', free]

theorem current_succeeds_iff
    {id : String}
    {revision : Option String} :
    (∃ entry, store.current id revision = .ok entry) ↔
      ∃ entry, store.find? id = some entry ∧ Names revision entry := by
  simp only [current_eq_ok_iff, names_iff_isAt]

theorem write_succeeds_iff
    {id : String}
    (instanceName : call.request.name.elements = [id])
    (isWrite : call.request.verb = .update ∨ call.request.verb = .patch) :
    (∃ response, store.answer call = .ok response) ↔
      ∃ entry content,
        store.find? id = some entry ∧
          Names call.request.operation.revision? entry ∧
          call.request.operation.Writes entry.content content := by
  constructor
  · rintro ⟨response, answered⟩
    obtain ⟨other, entry, content, otherName, found, names, writes, -⟩ :=
      after_of_written isWrite answered
    cases instanceName.symm.trans otherName
    exact ⟨entry, content, found, names, writes⟩
  · rintro ⟨entry, content, found, names, writes⟩
    have isCurrent :
        store.current id call.request.operation.revision? = .ok entry :=
      current_eq_ok_iff.mpr ⟨found, names_iff_isAt.mp names⟩
    generalize asks : call.request.operation = operation
      at isCurrent writes
    cases writes with
    | update _ revision =>
        rw [answer_of_update instanceName asks, exists_map_eq_ok_iff,
          exists_map_eq_ok_iff, update_eq, exists_map_eq_ok_iff]
        exact ⟨entry, isCurrent⟩
    | @patch operations revision _ _ applied =>
        have isCurrent : store.current id revision = .ok entry := isCurrent
        rw [answer_of_patch instanceName asks, exists_map_eq_ok_iff,
          exists_map_eq_ok_iff, patch_eq, isCurrent]
        show ∃ changed,
          (PatchOperation.applyAll operations entry.content).map _ = .ok changed
        rw [exists_map_eq_ok_iff]
        exact ⟨content, applied⟩

/-- Every store whose entries are in order serves as a map. -/
theorem Keyed.servesAsMap
    (keyed : store.Keyed)
    (call : Call) :
    store.ServesAsMap call where
  createSucceeds := by
    intro content newId whole asks
    rw [answer_of_create whole asks, exists_map_eq_ok_iff,
      exists_map_eq_ok_iff, create_succeeds_iff]
  created := by
    intro content newId response asks answered entry
    obtain ⟨-, isAnswer, changed⟩ := after_of_created asks answered
    exact ⟨isAnswer, changesOnly_of_insert changed rfl⟩
  writeSucceeds := by
    intro id instanceName isWrite
    exact write_succeeds_iff instanceName isWrite
  written := by
    intro response isWrite answered
    obtain
      ⟨id, entry, content, instanceName, found, names, writes, isAnswer,
        changed⟩ :=
      after_of_written isWrite answered
    have sameId : Text.fold entry.id = Text.fold id := keyed.fold_id found
    exact
      ⟨id, entry, content, instanceName, found, names, writes, isAnswer,
        changesOnly_of_insert changed sameId⟩
  deleteSucceeds := by
    intro id revision instanceName asks
    rw [answer_of_delete instanceName asks, exists_map_eq_ok_iff,
      exists_map_eq_ok_iff, delete_eq, exists_map_eq_ok_iff,
      current_succeeds_iff]
  deleted := by
    intro revision response asks answered
    obtain ⟨id, entry, instanceName, found, names, isAnswer, changed⟩ :=
      after_of_deleted asks answered
    exact
      ⟨id, entry, instanceName, found, names, isAnswer,
        keyed.changesOnly_of_erase changed⟩
  readAnswers := by
    intro id response instanceName asks
    rw [answer_of_read instanceName asks]
    cases looked : store.find id with
    | error failure =>
        have missing : ∀ entry, store.find? id ≠ some entry := by
          intro entry found
          cases looked.symm.trans (find_eq_ok_iff.mpr found)
        simp only [Except.map, reduceCtorEq, missing, false_and,
          exists_false]
    | ok entry =>
        have found := find_eq_ok_iff.mp looked
        simp only [Except.map, Except.ok.injEq, found, Option.some.injEq,
          exists_eq_left']
        exact eq_comm
  observed := after_of_observes
  refused := after_of_answer_error

/-! ## Histories -/

/-- There are as many entries as ids that differ after folding case. -/
theorem Keyed.size_eq_card
    (keyed : store.Keyed) :
    store.size =
      (store.entries.map fun pair => Text.fold pair.2.id).toFinset.card := by
  rw [keyed.map_fold_id, List.toFinset_card_of_nodup keyed.sorted.keys_nodup,
    List.length_map]
  rfl

/-- The history from the empty store on tells all revisions. -/
theorem revisions_counted
    (name : String)
    (calls : List Call)
    {key : String}
    {entry : Entry}
    (found : ((empty name).afterAll calls).entries.get? key = some entry) :
    .created key ∈ (empty name).changes calls ∧
      entry.revision =
        Change.revisionsSinceCreation key ((empty name).changes calls) := by
  have course := (Keyed.empty name).course_afterAll key calls
  have isLast :
      ((empty name).afterAll calls).revision? key = some entry.revision :=
    congrArg (Option.map Entry.revision) found
  rw [isLast] at course
  have isCreated : .created key ∈ (empty name).changes calls := by
    by_contra notCreated
    obtain ⟨-, revision, fromStart, -⟩ := course.steady notCreated
    cases fromStart
  obtain ⟨before, since, recreated, counted, -⟩ :=
    course.since_creation isCreated
  refine ⟨isCreated, ?_⟩
  rw [counted, Change.revisionsSinceCreation_eq recreated]

/-- No revision exceeds the number of changes that were made. -/
theorem revisions_bounded
    (name : String)
    (calls : List Call)
    {key : String}
    {entry : Entry}
    (found : ((empty name).afterAll calls).entries.get? key = some entry) :
    entry.revision ≤ ((empty name).changes calls).length := by
  obtain ⟨-, counted⟩ := revisions_counted name calls found
  have atMost :=
    (List.takeWhile_sublist (l := ((empty name).changes calls).reverse)
      (· ≠ Change.created key)).length_le
  rw [List.length_reverse] at atMost
  rw [counted]
  exact Nat.le_trans List.count_le_length atMost

/-- A store that is put back where it stands changes nothing. -/
theorem set_self
    {stores : List Store}
    {slot : Nat}
    (isAt : stores[slot]? = some store) :
    stores.set slot store = stores := by
  obtain ⟨isBelow, rfl⟩ := List.getElem?_eq_some_iff.mp isAt
  exact List.set_getElem_self isBelow

/-- In a world a store answers and changes as it does by itself. -/
theorem answer_endpoint
    {world : World}
    {slot : Nat}
    (isAt : world.stores[slot]? = some store)
    (context : Context)
    (request : Request) :
    (Endpoint.store slot).answer world context request =
      ⟨store.answer ⟨world.ids.next, request⟩, context,
        ⟨world.stores.set slot (store.after ⟨world.ids.next, request⟩),
          world.ids.advance⟩⟩ := by
  simp only [Endpoint.answer, isAt, Store.answer, Store.after]
  cases store.handle world.ids.next request with
  | error failure =>
      simp only [set_self isAt]
      rfl
  | ok handled =>
      rfl

/--
After every history a store is a map from ids to resources, each at the
revision that counts its updates and patches. It carries out every call as such
a map does, also where it stands in a world and is reached through a route.
-/
theorem refines_revisioned_map
    (name : String)
    (calls : List Call) :
    let store := (empty name).afterAll calls
    store.RevisionedMap ((empty name).changes calls) ∧
      (∀ call, store.ServesAsMap call) ∧
      ∀ (world : World) (slot : Nat) (context : Context) (request : Request),
        world.stores[slot]? = some store →
          (Endpoint.store slot).answer world context request =
            ⟨store.answer ⟨world.ids.next, request⟩, context,
              ⟨world.stores.set slot (store.after ⟨world.ids.next, request⟩),
                world.ids.advance⟩⟩ := by
  intro store
  have keyed : store.Keyed := (Keyed.empty name).afterAll calls
  refine ⟨?_, keyed.servesAsMap, ?_⟩
  · exact
      {
        sorted := keyed.sorted
        atOwnKey := keyed.atOwnKey
        revisionsCounted := revisions_counted name calls
        revisionsBounded := revisions_bounded name calls
        sizeCounted := keyed.size_eq_card
      }
  · intro world slot context request isAt
    exact answer_endpoint isAt context request

end ResourceServer.Store
