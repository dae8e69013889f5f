import ResourceServer.Proofs.Store.RevisionedMap
import ResourceServer.Proofs.Text.Numeral

namespace ResourceServer.Store

/-!
# Changes on condition

Clients that share a store take turns at it. A client that has read a resource
may ask for a change on the condition that the resource is still at the
revision it has read. Where that succeeds nobody has changed the resource in
between, unless it was deleted and created again: then revisions have started
anew and have come back to the one the client knows.
-/

/-- A call at a store, and the client that it comes from. -/
structure Turn (Client : Type u) where
  client : Client
  call : Call

namespace Turn

variable {Client : Type u}

/-- The calls of a schedule, which may interleave its clients in any way. -/
def calls (schedule : List (Turn Client)) : List Call :=
  schedule.map Turn.call

end Turn

/--
A client reads a resource and later succeeds with a change of it, on condition
of the revision that it has read; others take their turns before and between.
-/
structure ConditionalChange
    {Client : Type u}
    (name : String)
    (earlier : List (Turn Client))
    (reading : Turn Client)
    (between : List (Turn Client))
    (changing : Turn Client)
    (id revision : String) :
    Prop where
  sameClient : changing.client = reading.client
  reads : reading.call.request.operation = .read
  readsId : reading.call.request.name.elements = [id]
  returnsRevision :
    ∃ resource,
      ((empty name).afterAll (Turn.calls earlier)).answer reading.call =
          .ok (.resource resource) ∧
        resource.revision = some revision
  changes : changing.call.request.verb ∈ [.update, .patch, .delete]
  changesId :
    ∃ spelled,
      changing.call.request.name.elements = [spelled] ∧
        Text.fold spelled = Text.fold id
  onCondition : changing.call.request.operation.revision? = some revision
  succeeds :
    ∃ response,
      ((empty name).afterAll
          (Turn.calls (earlier ++ reading :: between))).answer changing.call =
        .ok response

/-- The changes that succeed between a reading and what comes later. -/
def changesBetween
    {Client : Type u}
    (name : String)
    (earlier : List (Turn Client))
    (reading : Turn Client)
    (between : List (Turn Client)) :
    List Change :=
  ((empty name).afterAll (Turn.calls (earlier ++ [reading]))).changes
    (Turn.calls between)

theorem anyRevision_ne_toString
    (revision : Nat) :
    toString revision ≠ "*" :=
  Text.toString_ne_of_unreadable revision fun _ => rfl

/-- An entry that a numeral names is at the revision of that numeral. -/
theorem revision_eq_of_names
    {entry : Entry}
    {revision : Nat}
    (names : Names (some (toString revision)) entry) :
    entry.revision = revision := by
  rcases names with isNone | isAny | isOwn
  · cases isNone
  · exact absurd (Option.some.inj isAny) (anyRevision_ne_toString revision)
  · exact (Text.toString_injective (Option.some.inj isOwn)).symm

theorem found_of_read
    {store : Store}
    {call : Call}
    {id : String}
    {resource : Resource}
    (instanceName : call.request.name.elements = [id])
    (asks : call.request.operation = .read)
    (answered : store.answer call = .ok (.resource resource)) :
    ∃ entry,
      store.find? id = some entry ∧
        resource.revision = some (toString entry.revision) := by
  rw [answer_of_read instanceName asks] at answered
  cases looked : store.find id with
  | error failure =>
      rw [looked] at answered
      cases answered
  | ok entry =>
      rw [looked] at answered
      cases answered
      exact ⟨entry, find_eq_ok_iff.mp looked, rfl⟩

theorem exists_revision_of_delete
    {operation : Operation}
    (isDelete : operation.verb = .delete) :
    ∃ revision, operation = .delete revision := by
  cases operation with
  | delete revision =>
      exact ⟨revision, rfl⟩
  | _ =>
      cases isDelete

/-- Who succeeds with a change has found an entry at the revision named. -/
theorem found_of_change
    {store : Store}
    {call : Call}
    {id : String}
    {response : Response}
    (changes : call.request.verb ∈ [.update, .patch, .delete])
    (instanceName : call.request.name.elements = [id])
    (answered : store.answer call = .ok response) :
    ∃ entry,
      store.find? id = some entry ∧
        Names call.request.operation.revision? entry := by
  by_cases isWrite : call.request.verb = .update ∨ call.request.verb = .patch
  · obtain ⟨other, entry, content, otherName, found, names, -⟩ :=
      after_of_written isWrite answered
    cases instanceName.symm.trans otherName
    exact ⟨entry, found, names⟩
  · have isDelete : call.request.verb = .delete := by
      simp only [List.mem_cons, List.not_mem_nil, or_false] at changes
      rcases changes with isUpdate | isPatch | isDelete
      · exact absurd (.inl isUpdate) isWrite
      · exact absurd (.inr isPatch) isWrite
      · exact isDelete
    obtain ⟨revision, asks⟩ := exists_revision_of_delete isDelete
    obtain ⟨other, entry, otherName, found, names, -⟩ :=
      after_of_deleted asks answered
    cases instanceName.symm.trans otherName
    rw [asks]
    exact ⟨entry, found, names⟩

/-- Changes that bring a revision back leave it alone or start it anew. -/
theorem Course.returning
    {key : String}
    {revision : Nat}
    {changes : List Change}
    (course : Course key (some revision) changes (some revision)) :
    (∀ change ∈ changes, change.key ≠ key) ∨
      ∃ before since,
        Recreated key changes before since ∧
          .deleted key ∈ before ∧
          since.count (.revised key) = revision := by
  by_cases isCreated : .created key ∈ changes
  · obtain ⟨before, since, recreated, counted, courseBefore⟩ :=
      course.since_creation isCreated
    exact
      .inr
        ⟨before, since, recreated, courseBefore.deleted_mem, counted.symm⟩
  · obtain ⟨notDeleted, first, isFirst, counted⟩ := course.steady isCreated
    cases isFirst
    have noRevision : changes.count (.revised key) = 0 := by
      omega
    refine .inl ?_
    rintro change member rfl
    cases change with
    | created key =>
        exact isCreated member
    | revised key =>
        exact List.count_eq_zero.mp noRevision member
    | deleted key =>
        exact notDeleted member

/--
A change on condition of the revision read succeeds only if nobody has changed
the resource since, or if it was deleted and created again and has been revised
since its creation as often as the revision says.
-/
theorem undisturbed_or_recreated
    {Client : Type u}
    {name : String}
    {earlier between : List (Turn Client)}
    {reading changing : Turn Client}
    {id revision : String}
    (conditional :
      ConditionalChange name earlier reading between changing id revision) :
    (∀ change ∈ changesBetween name earlier reading between,
        change.key ≠ Text.fold id) ∨
      ∃ before since,
        changesBetween name earlier reading between =
            before ++ .created (Text.fold id) :: since ∧
          .deleted (Text.fold id) ∈ before ∧
          .created (Text.fold id) ∉ since ∧
          .deleted (Text.fold id) ∉ since ∧
          revision = toString (since.count (.revised (Text.fold id))) := by
  obtain ⟨resource, answered, isReturned⟩ := conditional.returnsRevision
  obtain ⟨entry, found, isNumeral⟩ :=
    found_of_read conditional.readsId conditional.reads answered
  have isRevision : revision = toString entry.revision :=
    Option.some.inj (isReturned.symm.trans isNumeral)
  generalize atReading :
    (empty name).afterAll (Turn.calls earlier) = store at answered found
  have keyed : store.Keyed := by
    rw [← atReading]
    exact (Keyed.empty name).afterAll _
  have unchanged : store.after reading.call = store := by
    apply after_of_observes
    rw [Request.verb, conditional.reads]
    rfl
  have afterReading :
      (empty name).afterAll (Turn.calls (earlier ++ [reading])) = store := by
    rw [Turn.calls, List.map_append, afterAll_append]
    show ((empty name).afterAll (Turn.calls earlier)).after reading.call = store
    rw [atReading, unchanged]
  have atChange :
      (empty name).afterAll (Turn.calls (earlier ++ reading :: between)) =
        store.afterAll (Turn.calls between) := by
    rw [← afterReading, ← afterAll_append, Turn.calls, Turn.calls, Turn.calls,
      ← List.map_append, List.append_assoc, List.singleton_append]
  obtain ⟨response, succeeded⟩ := conditional.succeeds
  obtain ⟨spelled, instanceName, sameId⟩ := conditional.changesId
  rw [atChange] at succeeded
  obtain ⟨current, foundAgain, names⟩ :=
    found_of_change conditional.changes instanceName succeeded
  rw [conditional.onCondition, isRevision] at names
  have isFirst : store.revision? (Text.fold id) = some entry.revision :=
    congrArg (Option.map Entry.revision) found
  have isLast :
      (store.afterAll (Turn.calls between)).revision? (Text.fold id) =
        some entry.revision := by
    rw [← sameId, ← revision_eq_of_names names]
    exact congrArg (Option.map Entry.revision) foundAgain
  have course := keyed.course_afterAll (Text.fold id) (Turn.calls between)
  rw [isFirst, isLast] at course
  rw [changesBetween, afterReading, isRevision]
  rcases course.returning with
    undisturbed | ⟨before, since, recreated, isDeleted, counted⟩
  · exact .inl undisturbed
  · exact
      .inr
        ⟨before, since, recreated.divided, isDeleted, recreated.notCreated,
          recreated.notDeleted, congrArg toString counted.symm⟩

/-! ## A resource that is created again -/

namespace Recreation

/-- A call for the collection as a whole. -/
def toWhole (operation : Operation) : Call :=
  ⟨"", ⟨Name.empty, [], [], operation⟩⟩

/-- A call for the resource that is deleted and created again. -/
def toInstance (operation : Operation) : Call :=
  ⟨"", ⟨⟨["1"], by simp⟩, [], [], operation⟩⟩

/-- The resource is there, at revision zero. -/
def earlier : List (Turn Nat) :=
  [⟨2, toWhole (.create (.string "first") (some "1"))⟩]

/-- The first client reads it. -/
def reading : Turn Nat :=
  ⟨1, toInstance .read⟩

/-- The second client deletes it and creates another of that id. -/
def between : List (Turn Nat) :=
  [⟨2, toInstance (.delete none)⟩,
    ⟨2, toWhole (.create (.string "second") (some "1"))⟩]

/-- The first client overwrites what it takes for the resource it has read. -/
def changing : Turn Nat :=
  ⟨1, toInstance (.update (.string "third") (some "0"))⟩

theorem isConditionalChange :
    ConditionalChange "users" earlier reading between changing "1" "0" where
  sameClient := rfl
  reads := rfl
  readsId := rfl
  returnsRevision :=
    ⟨⟨some "1", some "0", .string "first"⟩, rfl, rfl⟩
  changes := by decide
  changesId := ⟨"1", rfl, rfl⟩
  onCondition := rfl
  succeeds := ⟨.resource ⟨some "1", some "1", .string "third"⟩, rfl⟩

theorem isDeleted :
    .deleted (Text.fold "1") ∈
      changesBetween "users" earlier reading between := by
  decide

end Recreation

/-- In this run the resource was deleted and created again. -/
theorem recreated_since_reading :
    ConditionalChange "users" Recreation.earlier Recreation.reading
        Recreation.between Recreation.changing "1" "0" ∧
      ∃ before since,
        changesBetween "users" Recreation.earlier Recreation.reading
              Recreation.between =
            before ++ .created (Text.fold "1") :: since ∧
          .deleted (Text.fold "1") ∈ before ∧
          .created (Text.fold "1") ∉ since ∧
          .deleted (Text.fold "1") ∉ since ∧
          "0" = toString (since.count (.revised (Text.fold "1"))) := by
  refine ⟨Recreation.isConditionalChange, ?_⟩
  rcases undisturbed_or_recreated Recreation.isConditionalChange with
    undisturbed | recreated
  · exact absurd rfl (undisturbed _ Recreation.isDeleted)
  · exact recreated

/-- A condition on the revision does not tell a resource from its successor. -/
theorem conditional_change_of_successor :
    ¬ ∀ (Client : Type) (name : String)
        (earlier : List (Turn Client)) (reading : Turn Client)
        (between : List (Turn Client)) (changing : Turn Client)
        (id revision : String),
        ConditionalChange name earlier reading between changing id revision →
          ∀ change ∈ changesBetween name earlier reading between,
            change.key ≠ Text.fold id := by
  intro neverDisturbed
  exact
    neverDisturbed Nat "users" Recreation.earlier Recreation.reading
      Recreation.between Recreation.changing "1" "0"
      Recreation.isConditionalChange _ Recreation.isDeleted rfl

end ResourceServer.Store
