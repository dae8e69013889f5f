import ResourceServer.Proofs.Store.RevisionedMap
import ResourceServer.Proofs.Text.Bytes
import ResourceServer.Request.Builder

namespace ResourceServer

/-!
# Names of resources

Requests reach a resource by a name whose only element is its id. Elements of
names are never empty, but the id of a new resource is not an element of a name
and may be empty. A resource that is created so has no name: no request reads,
changes or deletes it, and it stays in the store for good. All other resources
have a name, and every request for one resource acts on them.
-/

theorem Text.fold_eq_empty_iff
    {text : String} :
    fold text = "" ↔ text = "" := by
  constructor
  · intro isEmpty
    by_contra notEmpty
    exact fold_ne_empty notEmpty isEmpty
  · rintro rfl
    rfl

/-- A name of one element is given by every text that is not empty. -/
theorem Name.child_empty_eq_ok_iff
    {element : String}
    {name : Name} :
    empty.child element = .ok name ↔
      element ≠ "" ∧ name.elements = [element] := by
  unfold child
  split
  · rename_i isEmpty
    exact iff_of_false nofun fun ⟨notEmpty, _⟩ => notEmpty isEmpty
  · rename_i notEmpty
    rw [Except.ok.injEq, and_iff_right notEmpty]
    constructor
    · rintro rfl
      rfl
    · intro sameElements
      cases name
      cases sameElements
      rfl

namespace Store

/-- A call is to create a resource of this id. -/
def Call.CreatesUnder
    (call : Call)
    (id : String) :
    Prop :=
  call.request.name.elements = [] ∧
    ∃ content newId,
      call.request.operation = .create content newId ∧
        newId.getD call.freshId = id

/-- Requests for a name act on an entry, whatever revision it is at. -/
structure ActsOn
    (store : Store)
    (name : Name)
    (entry : Entry) :
    Prop where
  reads :
    ∀ {call : Call},
      call.request.name = name →
        call.request.operation = .read →
          store.answer call = .ok (.resource entry.resource)
  updates :
    ∀ {call : Call} {content : Json},
      call.request.name = name →
        call.request.operation = .update content (some Entry.anyRevision) →
          store.answer call = .ok (.resource (entry.revise content).resource) ∧
            store.ChangesOnly call entry.id (some (entry.revise content))
  deletes :
    ∀ {call : Call},
      call.request.name = name →
        call.request.operation = .delete (some Entry.anyRevision) →
          store.answer call = .ok (.resource entry.resource) ∧
            store.ChangesOnly call entry.id none

/-- The id of an entry is a name, by which requests act on the entry. -/
def Addressable
    (store : Store)
    (entry : Entry) :
    Prop :=
  ∃ name, Name.empty.child entry.id = .ok name ∧ store.ActsOn name entry

/-- The entry is one that the store holds. -/
def Holds
    (store : Store)
    (entry : Entry) :
    Prop :=
  ∃ key, store.entries.get? key = some entry

variable {store : Store} {entry : Entry} {call : Call}

/-! ## Resources with a name -/

theorem Keyed.find?_id
    (keyed : store.Keyed)
    (isHeld : store.Holds entry) :
    store.find? entry.id = some entry := by
  obtain ⟨key, isAt⟩ := isHeld
  rw [find?, keyed.atOwnKey isAt, isAt]

theorem Keyed.actsOn
    (keyed : store.Keyed)
    (found : store.find? entry.id = some entry)
    {name : Name}
    (isName : name.elements = [entry.id]) :
    store.ActsOn name entry where
  reads := by
    rintro call rfl asks
    exact ((keyed.servesAsMap call).readAnswers isName asks).mpr ⟨entry, found, rfl⟩
  updates := by
    rintro call content rfl asks
    have isUpdate : call.request.verb = .update := by
      rw [Request.verb, asks]
      rfl
    have anyRevision : Names call.request.operation.revision? entry := by
      rw [asks]
      exact .inr (.inl rfl)
    have writes : call.request.operation.Writes entry.content content := by
      rw [asks]
      exact .update content (some Entry.anyRevision) entry.content
    have serves := keyed.servesAsMap call
    obtain ⟨response, answered⟩ :=
      (serves.writeSucceeds isName (.inl isUpdate)).mpr
        ⟨entry, content, found, anyRevision, writes⟩
    obtain
      ⟨id, written, left, sameName, isFound, -, leaves, isAnswer, changesOnly⟩ :=
      serves.written (.inl isUpdate) answered
    cases isName.symm.trans sameName
    cases found.symm.trans isFound
    rw [asks] at leaves
    cases leaves
    rw [answered, isAnswer]
    exact ⟨rfl, changesOnly⟩
  deletes := by
    rintro call rfl asks
    have serves := keyed.servesAsMap call
    obtain ⟨response, answered⟩ :=
      (serves.deleteSucceeds isName asks).mpr ⟨entry, found, .inr (.inl rfl)⟩
    obtain ⟨id, deleted, sameName, isFound, -, isAnswer, changesOnly⟩ :=
      serves.deleted asks answered
    cases isName.symm.trans sameName
    cases found.symm.trans isFound
    rw [answered, isAnswer]
    exact ⟨rfl, changesOnly⟩

theorem Keyed.addressable_iff
    (keyed : store.Keyed)
    (isHeld : store.Holds entry) :
    store.Addressable entry ↔ entry.id ≠ "" := by
  constructor
  · rintro ⟨name, isName, -⟩
    exact (Name.child_empty_eq_ok_iff.mp isName).1
  · intro notEmpty
    let name : Name := ⟨[entry.id], by simpa using notEmpty⟩
    exact
      ⟨name, Name.child_empty_eq_ok_iff.mpr ⟨notEmpty, rfl⟩,
        keyed.actsOn (keyed.find?_id isHeld) rfl⟩

/-! ## The resource without a name -/

/-- Only to create the resource without a name makes a difference to it. -/
theorem Keyed.find?_unnamed_after
    (keyed : store.Keyed)
    (notCreates : ¬ call.CreatesUnder "") :
    (store.after call).find? "" = store.find? "" := by
  have outcome := store.handle_outcome call
  unfold Store.after
  generalize store.handle call.freshId call.request = result at outcome ⊢
  -- An element of a name is never empty, so a request for one resource is for another.
  have isOther :
      ∀ {id : String},
        call.request.name.elements = [id] → Text.fold "" ≠ Text.fold id := by
    intro id instanceName sameFold
    have isEmpty := Text.fold_eq_empty_iff.mp sameFold.symm
    refine call.request.name.elements_ne_empty id ?_ isEmpty
    rw [instanceName]
    exact List.mem_singleton_self id
  cases outcome with
  | @created content newId whole asks free =>
      have differs : Text.fold "" ≠ Text.fold (newId.getD call.freshId) := by
        intro sameFold
        have isEmpty := Text.fold_eq_empty_iff.mp sameFold.symm
        exact notCreates ⟨whole, content, newId, asks, isEmpty⟩
      exact (get?_insert store _ _).trans (if_neg differs)
  | @revised id written content instanceName writes found =>
      have differs : Text.fold "" ≠ Text.fold written.id := by
        rw [keyed.fold_id found]
        exact isOther instanceName
      exact (get?_insert store _ _).trans (if_neg differs)
  | deleted instanceName =>
      exact (keyed.get?_erase _ _).trans (if_neg (isOther instanceName))
  | observed =>
      rfl
  | refused =>
      rfl

/-- Once it is there, no call makes a difference: it cannot be created again. -/
theorem Keyed.unnamed_after
    (keyed : store.Keyed)
    (found : store.find? "" = some entry)
    (call : Call) :
    (store.after call).find? "" = some entry := by
  by_cases creates : call.CreatesUnder ""
  · obtain ⟨whole, content, newId, asks, isEmpty⟩ := creates
    cases answered : store.answer call with
    | error failure =>
        rw [(after_of_answer_error answered).1, found]
    | ok response =>
        obtain ⟨free, -⟩ := after_of_created asks answered
        rw [isEmpty] at free
        cases found.symm.trans free
  · rw [keyed.find?_unnamed_after creates, found]

/-- After a call to create it, the resource is there in any case. -/
theorem Keyed.exists_unnamed_after_of_creates
    (keyed : store.Keyed)
    (creates : call.CreatesUnder "") :
    ∃ entry, (store.after call).find? "" = some entry := by
  obtain ⟨whole, content, newId, asks, isEmpty⟩ := creates
  cases found : store.find? "" with
  | some entry =>
      exact ⟨entry, keyed.unnamed_after found call⟩
  | none =>
      have free : store.find? (newId.getD call.freshId) = none := by
        rw [isEmpty, found]
      obtain ⟨response, answered⟩ :=
        ((keyed.servesAsMap call).createSucceeds whole asks).mpr free
      obtain ⟨-, changesOnly⟩ := (keyed.servesAsMap call).created asks answered
      refine ⟨_, (changesOnly "").trans (if_pos ?_)⟩
      rw [isEmpty]

/-- So it is there just if it was, or the call is to create it. -/
theorem Keyed.exists_unnamed_after_iff
    (keyed : store.Keyed)
    (call : Call) :
    (∃ entry, (store.after call).find? "" = some entry) ↔
      (∃ entry, store.find? "" = some entry) ∨ call.CreatesUnder "" := by
  constructor
  · rintro ⟨entry, found⟩
    by_cases creates : call.CreatesUnder ""
    · exact .inr creates
    · exact .inl ⟨entry, (keyed.find?_unnamed_after creates).symm.trans found⟩
  · rintro (⟨entry, found⟩ | creates)
    · exact ⟨entry, keyed.unnamed_after found call⟩
    · exact keyed.exists_unnamed_after_of_creates creates

theorem Keyed.unnamed_afterAll
    (keyed : store.Keyed)
    (found : store.find? "" = some entry)
    (calls : List Call) :
    (store.afterAll calls).find? "" = some entry := by
  induction calls generalizing store with
  | nil =>
      exact found
  | cons call calls inductionHypothesis =>
      exact inductionHypothesis (keyed.after call) (keyed.unnamed_after found call)

theorem Keyed.exists_unnamed_afterAll_iff
    (keyed : store.Keyed)
    (calls : List Call) :
    (∃ entry, (store.afterAll calls).find? "" = some entry) ↔
      (∃ entry, store.find? "" = some entry) ∨
        ∃ call ∈ calls, call.CreatesUnder "" := by
  induction calls generalizing store with
  | nil =>
      simp only [List.not_mem_nil, false_and, exists_false, or_false]
      rfl
  | cons call calls inductionHypothesis =>
      rw [List.exists_mem_cons_iff, ← or_assoc,
        ← keyed.exists_unnamed_after_iff call]
      exact inductionHypothesis (keyed.after call)

/-- A store holds a resource without a name just if one is found for the empty id. -/
theorem Keyed.find?_unnamed_iff
    (keyed : store.Keyed) :
    (∃ entry, store.find? "" = some entry) ↔
      ∃ entry, store.Holds entry ∧ entry.id = "" := by
  constructor
  · rintro ⟨entry, found⟩
    exact ⟨entry, ⟨_, found⟩, Text.fold_eq_empty_iff.mp (keyed.fold_id found)⟩
  · rintro ⟨entry, isHeld, isEmpty⟩
    have found := keyed.find?_id isHeld
    rw [isEmpty] at found
    exact ⟨entry, found⟩

/--
After every history the id of a resource is a name by which requests act on it,
unless it is empty. So all resources have names unless one of the calls was to
create a resource under the empty id; and what was created so cannot be changed
or deleted by any call that follows.
-/
theorem addressable_unless_unnamed
    (name : String)
    (calls : List Call) :
    let store := (empty name).afterAll calls
    (∀ entry, store.Holds entry → (store.Addressable entry ↔ entry.id ≠ "")) ∧
    ((∀ entry, store.Holds entry → store.Addressable entry) ↔
      ∀ call ∈ calls, ¬ call.CreatesUnder "") ∧
    ∀ entry,
      store.Holds entry →
        entry.id = "" →
          ∀ later, (store.afterAll later).Holds entry := by
  intro store
  have keyed : store.Keyed := (Keyed.empty name).afterAll calls
  refine ⟨fun entry => keyed.addressable_iff, ?_, ?_⟩
  · have isUnnamed :
        (∃ entry, store.Holds entry ∧ entry.id = "") ↔
          ∃ call ∈ calls, call.CreatesUnder "" := by
      rw [← keyed.find?_unnamed_iff]
      refine ((Keyed.empty name).exists_unnamed_afterAll_iff calls).trans ?_
      exact or_iff_right nofun
    constructor
    · intro allAddressable call member creates
      obtain ⟨entry, isHeld, isEmpty⟩ := isUnnamed.mpr ⟨call, member, creates⟩
      exact (keyed.addressable_iff isHeld).mp (allAddressable entry isHeld) isEmpty
    · intro noneCreates entry isHeld
      refine (keyed.addressable_iff isHeld).mpr fun isEmpty => ?_
      obtain ⟨call, member, creates⟩ := isUnnamed.mp ⟨entry, isHeld, isEmpty⟩
      exact noneCreates call member creates
  · intro entry isHeld isEmpty later
    have found := keyed.find?_id isHeld
    rw [isEmpty] at found
    exact ⟨_, keyed.unnamed_afterAll found later⟩

/-- A request with the empty id can be built, and creates a resource without a name. -/
theorem unnamed_resource_not_addressable :
    ∃ request,
      ((Draft.start Name.empty (.create .null none)).setAll
          [.content (.object []), .newId ""]).build = .ok request ∧
        (empty "users").answer ⟨"0", request⟩ =
          .ok (.resource ⟨some "", some "0", .object []⟩) ∧
        ((empty "users").after ⟨"0", request⟩).Holds ⟨"", 0, .object []⟩ ∧
        Name.empty.child "" = .error .emptyPart ∧
        ¬ ((empty "users").after ⟨"0", request⟩).Addressable
            ⟨"", 0, .object []⟩ := by
  refine ⟨_, rfl, rfl, ⟨"", rfl⟩, rfl, ?_⟩
  rintro ⟨name, isName, -⟩
  cases isName

end Store

end ResourceServer
