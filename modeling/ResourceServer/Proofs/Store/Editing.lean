import ResourceServer.Proofs.Json.Pointer
import ResourceServer.Proofs.Store.RevisionedMap

namespace ResourceServer

/-!
# Edits of a content

Adding to an object, replacing in it and removing from it change what the field
points at and nothing apart from it. Adding behind an array leaves all that
could be reached where it was. A patch with an operation that is refused leaves
no trace of the operations before it.
-/

namespace PatchOperation

/-- The operation was made from what a client gives, so it was checked. -/
def Made
    (operation : PatchOperation) :
    Prop :=
  ∃ verb field value source, make verb field value source = .ok operation

/-- The verbs that put a value at a field or take it away. -/
def Edits
    (verb : PatchVerb) :
    Prop :=
  verb = .add ∨ verb = .replace ∨ verb = .remove

/-- What an edit leaves at a member of an object, from what was there. -/
inductive Leaves :
    PatchVerb → Option Json → Option Json → Option Json → Prop where
  | added
      {old : Option Json}
      {value : Json}
      (whole : value.asItems? = none → old.bind Json.asItems? = none) :
      Leaves .add (some value) old (some value)
  | appended
      {items : List Json}
      {value : Json}
      (single : value.asItems? = none) :
      Leaves .add (some value) (some (.array items))
        (some (.array (items ++ [value])))
  | replaced
      (old : Option Json)
      (value : Json) :
      Leaves .replace (some value) old (some value)
  | emptied
      (old : Option Json) :
      Leaves .replace none old none
  | removed
      (value old : Option Json) :
      Leaves .remove value old none

variable {operation : PatchOperation} {content : Json}

/-! ## What an operation carries -/

/-- An operation that was made has no fault, and carries no null. -/
theorem Made.noFault
    (made : operation.Made) :
    (∃ source, fault? operation.verb operation.value source = none) ∧
      ∀ value, operation.value = some value → value.isNull = false := by
  obtain ⟨verb, field, given, source, isMade⟩ := made
  unfold make at isMade
  dsimp only at isMade
  split at isMade
  · cases isMade
  · rename_i noFault
    cases isMade
    refine ⟨⟨source, noFault⟩, fun value carries => ?_⟩
    simpa using (Option.filter_eq_some_iff.mp carries).2

theorem Made.exists_value_of_add
    (made : operation.Made)
    (adds : operation.verb = .add) :
    ∃ value, operation.value = some value := by
  obtain ⟨⟨source, noFault⟩, -⟩ := made.noFault
  rw [adds] at noFault
  cases carries : operation.value with
  | none =>
      rw [carries] at noFault
      cases noFault
  | some value =>
      exact ⟨value, rfl⟩

/-! ## The place that changes -/

/-- An operation on a field changes the parent value, and puts it back in its place. -/
theorem apply_of_field
    {way : List String}
    {key : String}
    {parent : Json}
    (isField : Json.Pointer.keys? operation.field = some (way ++ [key]))
    (holds : content.at? way = some parent) :
    operation.apply content =
      (operation.change parent key).map (content.setAt way) := by
  obtain ⟨before, last, splits, isWay, rfl⟩ :=
    Json.Pointer.keys?_eq_concat_iff.mp isField
  simp only [apply, splits, isWay, holds]

/-- A field of a parent value is the parent's child under the last key. -/
theorem pointer?_of_field
    {field : String}
    {way : List String}
    {key : String}
    {parent : Json}
    (isField : Json.Pointer.keys? field = some (way ++ [key]))
    (holds : content.at? way = some parent) :
    content.pointer? field = parent.child? key := by
  rw [Json.pointer?, isField]
  exact Json.at?_concat holds key

/-- An operation that is carried out changes a value that was there. -/
theorem exists_field_of_apply
    {changed : Json}
    (applied : operation.apply content = .ok changed) :
    ∃ way key parent replacement,
      Json.Pointer.keys? operation.field = some (way ++ [key]) ∧
        content.at? way = some parent ∧
        operation.change parent key = .ok replacement ∧
        changed = content.setAt way replacement := by
  unfold apply at applied
  split at applied
  · cases applied
  · rename_i before last splits
    split at applied
    · cases applied
    · rename_i way isWay
      split at applied
      · cases applied
      · rename_i parent holds
        obtain ⟨replacement, changes, rfl⟩ :=
          Name.map_eq_ok_iff.mp applied
        exact
          ⟨way, Json.Pointer.key last, parent, replacement,
            Json.Pointer.keys?_eq_concat_iff.mpr
              ⟨before, last, splits, isWay, rfl⟩,
            holds, changes, rfl⟩

/-- Where an object changes at one key, only what the field points at changes. -/
theorem exists_apply_of_member
    {way : List String}
    {key : String}
    {members kept : Record Json}
    (isField : Json.Pointer.keys? operation.field = some (way ++ [key]))
    (holds : content.at? way = some (.object members))
    (changes : operation.change (.object members) key = .ok (.object kept))
    (sameElsewhere :
      ∀ other, key ≠ other → kept.get? other = members.get? other) :
    ∃ changed,
      operation.apply content = .ok changed ∧
        changed.pointer? operation.field = kept.get? key ∧
        ∀ {other : String} {keys : List String},
          Json.Pointer.keys? other = some keys →
            Json.Apart (way ++ [key]) keys →
              changed.pointer? other = content.pointer? other := by
  refine ⟨content.setAt way (.object kept), ?_, ?_, ?_⟩
  · rw [apply_of_field isField holds, changes]
    rfl
  · exact
      pointer?_of_field isField (Json.at?_setAt_self holds (.object kept))
  · intro other keys areKeys apart
    simp only [Json.pointer?, areKeys, Option.bind_some]
    exact Json.at?_setAt_of_apart_concat holds sameElsewhere apart

/-! ## Members of objects -/

theorem asItems?_eq_none
    {value : Json}
    (notArray : ∀ items, value ≠ .array items) :
    value.asItems? = none := by
  cases value with
  | array items =>
      exact absurd rfl (notArray items)
  | _ =>
      rfl

/-- To add a member inserts what the addition leaves there. -/
theorem exists_addMember
    (members : Record Json)
    (key : String)
    (added : Json) :
    ∃ left,
      addMember members key added = members.insert key left ∧
        Leaves .add (some added) (members.get? key) (some left) := by
  unfold addMember
  split
  · rename_i items
    exact ⟨.array items, rfl, .added fun single => by cases single⟩
  · rename_i items notArray found
    rw [found]
    exact ⟨_, rfl, .appended (asItems?_eq_none notArray)⟩
  · rename_i notArray notOld
    refine ⟨_, rfl, .added fun _ => ?_⟩
    cases found : members.get? key with
    | none =>
        rfl
    | some old =>
        refine asItems?_eq_none fun items isArray => ?_
        subst isArray
        exact notOld items found

/-- An edit of an object changes one member, to what the edit leaves there. -/
theorem exists_change_object
    (made : operation.Made)
    (edits : Edits operation.verb)
    {members : Record Json}
    (sorted : members.Sorted)
    (key : String) :
    ∃ kept : Record Json,
      operation.change (.object members) key = .ok (.object kept) ∧
        Leaves operation.verb operation.value (members.get? key)
          (kept.get? key) ∧
        ∀ other, key ≠ other → kept.get? other = members.get? other := by
  rcases edits with adds | replaces | removes
  · obtain ⟨added, carries⟩ := made.exists_value_of_add adds
    obtain ⟨left, isLeft, leaves⟩ := exists_addMember members key added
    refine ⟨members.insert key left, ?_, ?_, ?_⟩
    · simp only [change, adds, carries, Option.getD_some, isLeft]
    · rw [adds, carries, Record.get?_insert_self]
      exact leaves
    · exact fun other differs =>
        Record.get?_insert_of_ne members left differs
  · cases carries : operation.value with
    | none =>
        refine ⟨members.erase key, ?_, ?_, ?_⟩
        · simp only [change, replaces, carries, Option.getD_none, Json.isNull,
            if_true]
        · rw [replaces, sorted.get?_erase_self]
          exact .emptied _
        · exact fun other differs => Record.get?_erase_of_ne members differs
    | some value =>
        have notNull := made.noFault.2 value carries
        refine ⟨members.insert key value, ?_, ?_, ?_⟩
        · simp only [change, replaces, carries, Option.getD_some, notNull,
            Bool.false_eq_true, if_false]
        · rw [replaces, Record.get?_insert_self]
          exact .replaced _ _
        · exact fun other differs =>
            Record.get?_insert_of_ne members value differs
  · refine ⟨members.erase key, ?_, ?_, ?_⟩
    · simp only [change, removes]
    · rw [removes, sorted.get?_erase_self]
      exact .removed _ _
    · exact fun other differs => Record.get?_erase_of_ne members differs

/-! ## Behind arrays -/

/-- What could be reached in an array is where it was when an item is put behind. -/
theorem at?_array_concat
    {items : List Json}
    {keys : List String}
    {found : Json}
    (inside : keys ≠ [])
    (reached : (Json.array items).at? keys = some found)
    (item : Json) :
    (Json.array (items ++ [item])).at? keys = some found := by
  cases keys with
  | nil =>
      exact absurd rfl inside
  | cons key rest =>
      obtain ⟨child, isChild, onward⟩ := Option.bind_eq_some_iff.mp reached
      obtain ⟨index, isIndex, isItem⟩ := Json.item_of_child? isChild
      have inItems := (List.getElem?_eq_some_iff.mp isItem).1
      have sameItem : (Json.array (items ++ [item])).child? key = some child := by
        simp only [Json.child?, isIndex]
        rw [List.getElem?_append_left inItems]
        exact isItem
      rw [Json.at?, sameItem]
      exact onward

/-- An addition behind the last item appends the value. -/
theorem change_array_concat
    {added : Json}
    (adds : operation.verb = .add)
    (carries : operation.value = some added)
    (items : List Json) :
    operation.change (.array items) "-" =
      .ok (.array (items ++ [added])) := by
  simp only [change, adds, carries, Option.getD_some, if_true]

/-! ## Operations in order -/

/-- A patch in two parts applies one after the other. -/
theorem applyAll_append
    (earlier later : List PatchOperation)
    (content : Json) :
    applyAll (earlier ++ later) content =
      applyAll earlier content >>= applyAll later :=
  List.foldlM_append

theorem applyAll_cons
    (operation : PatchOperation)
    (later : List PatchOperation)
    (content : Json) :
    applyAll (operation :: later) content =
      operation.apply content >>= applyAll later :=
  List.foldlM_cons

/-! ## Contents stay well-formed -/

/-- The sum of two numbers is a well-formed number. -/
theorem sum_wellFormed
    (left right : Binary .double) :
    (Json.Number.sum left right).WellFormed := by
  have ofDouble (value : Binary .double) : (Json.ofDouble value).WellFormed := by
    unfold Json.ofDouble
    split
    · exact .number _
    · exact .null
  unfold Json.Number.sum
  dsimp only
  split
  · split
    · exact .number _
    · exact ofDouble _
  · exact ofDouble _

/-- A well-formed value added to a member leaves the object well-formed. -/
theorem addMember_wellFormed
    {members : Record Json}
    (wellFormed : (Json.object members).WellFormed)
    (key : String)
    {value : Json}
    (isWellFormed : value.WellFormed) :
    (Json.object (addMember members key value)).WellFormed := by
  unfold addMember
  split
  · exact wellFormed.insert key isWellFormed
  · rename_i found
    exact
      wellFormed.insert key ((wellFormed.member found).concat isWellFormed)
  · exact wellFormed.insert key isWellFormed

/-- A change that carries a well-formed value leaves the parent well-formed. -/
theorem change_wellFormed
    {parent replacement : Json}
    {key : String}
    (wellFormed : parent.WellFormed)
    (carriesWellFormed : (operation.value.getD .null).WellFormed)
    (changes : operation.change parent key = .ok replacement) :
    replacement.WellFormed := by
  unfold change at changes
  dsimp only at changes
  split at changes
  · cases changes
    exact addMember_wellFormed wellFormed key carriesWellFormed
  · split at changes
    · cases changes
      exact wellFormed.concat carriesWellFormed
    · cases changes
  · cases changes
    split
    · exact wellFormed.erase key
    · exact wellFormed.insert key carriesWellFormed
  · cases changes
    exact wellFormed.erase key
  · obtain ⟨fewer, isFewer, rfl⟩ := Name.map_eq_ok_iff.mp changes
    unfold removeItem at isFewer
    split at isFewer
    · cases isFewer
      exact wellFormed.sublist (List.eraseIdx_sublist _ _)
    · cases isFewer
  · cases changes
    exact wellFormed.insert key (sum_wellFormed _ _)
  · split at changes
    · cases changes
    · cases changes

/-- An operation that carries a well-formed value leaves the content well-formed. -/
theorem apply_wellFormed
    {changed : Json}
    (wellFormed : content.WellFormed)
    (carriesWellFormed : (operation.value.getD .null).WellFormed)
    (applied : operation.apply content = .ok changed) :
    changed.WellFormed := by
  obtain ⟨way, key, parent, replacement, -, holds, changes, rfl⟩ :=
    exists_field_of_apply applied
  exact
    wellFormed.setAt way
      (change_wellFormed (wellFormed.place holds) carriesWellFormed changes)

/-- A patch of well-formed values leaves a well-formed content. -/
theorem applyAll_wellFormed
    {operations : List PatchOperation}
    {changed : Json}
    (wellFormed : content.WellFormed)
    (carryWellFormed :
      ∀ operation ∈ operations, (operation.value.getD .null).WellFormed)
    (applied : applyAll operations content = .ok changed) :
    changed.WellFormed := by
  induction operations generalizing content with
  | nil =>
      cases applied
      exact wellFormed
  | cons operation rest inductionHypothesis =>
      obtain ⟨carriesWellFormed, restWellFormed⟩ :=
        List.forall_mem_cons.mp carryWellFormed
      rw [applyAll_cons] at applied
      cases isNext : operation.apply content with
      | error failure =>
          rw [isNext] at applied
          cases applied
      | ok next =>
          rw [isNext] at applied
          exact
            inductionHypothesis
              (apply_wellFormed wellFormed carriesWellFormed isNext)
              restWellFormed applied

/-! ## Operations that are refused -/

/-- A patch fails as its first refused operation does. -/
theorem applyAll_of_refused
    {earlier later : List PatchOperation}
    {start : Json}
    {failure : Failure}
    (before : applyAll earlier start = .ok content)
    (refused : operation.apply content = .error failure) :
    applyAll (earlier ++ operation :: later) start = .error failure := by
  rw [applyAll_append, before]
  show applyAll (operation :: later) content = _
  rw [applyAll_cons, refused]
  rfl

end PatchOperation

open PatchOperation

/-- A patch is refused with what refuses an operation, and changes nothing. -/
theorem Store.answer_of_refused
    {store : Store}
    {call : Store.Call}
    {id : String}
    {revision : Option String}
    {entry : Entry}
    {earlier later : List PatchOperation}
    {operation : PatchOperation}
    {content : Json}
    {failure : Failure}
    (instanceName : call.request.name.elements = [id])
    (asks :
      call.request.operation =
        .patch (earlier ++ operation :: later) revision)
    (isCurrent : store.current id revision = .ok entry)
    (before : applyAll earlier entry.content = .ok content)
    (refused : operation.apply content = .error failure) :
    store.answer call = .error failure ∧ store.after call = store := by
  have answered : store.answer call = .error failure := by
    rw [Store.answer_of_patch instanceName asks, Store.patch_eq, isCurrent]
    show (((applyAll _ entry.content).map _).map _).map _ = _
    rw [applyAll_of_refused before refused]
    rfl
  exact ⟨answered, (Store.after_of_answer_error answered).1⟩

namespace PatchOperation

/-- An edit changes what its field points at, and a refused one nothing. -/
structure ObeysPointerLaws
    (operation : PatchOperation)
    (content : Json) :
    Prop where
  inObject :
    ∀ {way : List String} {key : String} {members : Record Json},
      Json.Pointer.keys? operation.field = some (way ++ [key]) →
        content.at? way = some (.object members) →
          ∃ changed,
            operation.apply content = .ok changed ∧
              Leaves operation.verb operation.value
                (content.pointer? operation.field)
                (changed.pointer? operation.field) ∧
              ∀ {other : String} {keys : List String},
                Json.Pointer.keys? other = some keys →
                  Json.Apart (way ++ [key]) keys →
                    changed.pointer? other = content.pointer? other
  behindArray :
    ∀ {way : List String} {items : List Json} {added : Json},
      operation.verb = .add →
        operation.value = some added →
          Json.Pointer.keys? operation.field = some (way ++ ["-"]) →
            content.at? way = some (.array items) →
              ∃ changed,
                operation.apply content = .ok changed ∧
                  changed.at? way = some (.array (items ++ [added])) ∧
                  ∀ {other : String} {keys : List String} {found : Json},
                    Json.Pointer.keys? other = some keys →
                      ¬ keys <+: way →
                        content.pointer? other = some found →
                          changed.pointer? other = some found
  refused :
    ∀ {store : Store} {call : Store.Call} {id : String}
        {revision : Option String} {entry : Entry}
        {earlier later : List PatchOperation} {failure : Failure},
      call.request.name.elements = [id] →
        call.request.operation =
            .patch (earlier ++ operation :: later) revision →
          store.current id revision = .ok entry →
            applyAll earlier entry.content = .ok content →
              operation.apply content = .error failure →
                store.answer call = .error failure ∧
                  store.after call = store

variable {operation : PatchOperation} {content : Json}

/-- Every made edit of an object's member succeeds, leaves there what it says, and
spares the rest. -/
theorem exists_apply_in_object
    (made : operation.Made)
    (edits : Edits operation.verb)
    (wellFormed : content.WellFormed)
    {way : List String}
    {key : String}
    {members : Record Json}
    (isField : Json.Pointer.keys? operation.field = some (way ++ [key]))
    (holds : content.at? way = some (.object members)) :
    ∃ changed,
      operation.apply content = .ok changed ∧
        Leaves operation.verb operation.value
          (content.pointer? operation.field)
          (changed.pointer? operation.field) ∧
        ∀ {other : String} {keys : List String},
          Json.Pointer.keys? other = some keys →
            Json.Apart (way ++ [key]) keys →
              changed.pointer? other = content.pointer? other := by
  obtain ⟨kept, changes, leaves, sameElsewhere⟩ :=
    exists_change_object made edits (wellFormed.place holds).sorted key
  obtain ⟨changed, applied, pointsAt, frame⟩ :=
    exists_apply_of_member isField holds changes sameElsewhere
  refine ⟨changed, applied, ?_, frame⟩
  rw [pointsAt, pointer?_of_field isField holds]
  exact leaves

/-- An addition behind an array's end appends, and spares what is not within. -/
theorem exists_apply_behind_array
    {way : List String}
    {items : List Json}
    {added : Json}
    (adds : operation.verb = .add)
    (carries : operation.value = some added)
    (isField : Json.Pointer.keys? operation.field = some (way ++ ["-"]))
    (holds : content.at? way = some (.array items)) :
    ∃ changed,
      operation.apply content = .ok changed ∧
        changed.at? way = some (.array (items ++ [added])) ∧
        ∀ {other : String} {keys : List String} {found : Json},
          Json.Pointer.keys? other = some keys →
            ¬ keys <+: way →
              content.pointer? other = some found →
                changed.pointer? other = some found := by
  refine
    ⟨content.setAt way (.array (items ++ [added])), ?_,
      Json.at?_setAt_self holds _, ?_⟩
  · rw [apply_of_field isField holds, change_array_concat adds carries]
    rfl
  · intro other keys found areKeys notAbove reached
    simp only [Json.pointer?, areKeys, Option.bind_some] at reached ⊢
    by_cases isBelow : way <+: keys
    · obtain ⟨rest, rfl⟩ := isBelow
      rw [Json.at?_append, holds, Option.bind_some] at reached
      rw [Json.at?_setAt_append holds]
      refine at?_array_concat ?_ reached added
      rintro rfl
      exact notAbove (by rw [List.append_nil])
    · rw [Json.at?_setAt_of_apart _ _ ⟨isBelow, notAbove⟩]
      exact reached

/--
An edit of an object leaves at its field what its verb says and nothing else
changes that lies apart from the field; adding behind an array moves nothing
that could be reached; an operation that is refused leaves its resource alone.

Contents are well-formed when they are read from texts, and patches keep them so
(`applyAll_wellFormed`).
-/
theorem edits_obey_pointer_laws
    (made : operation.Made)
    (edits : Edits operation.verb)
    (wellFormed : content.WellFormed) :
    operation.ObeysPointerLaws content where
  inObject := exists_apply_in_object made edits wellFormed
  behindArray := exists_apply_behind_array
  refused := Store.answer_of_refused

/-- Adding to a member that is an array, under a key with a slash in it. -/
theorem edits_obey_pointer_laws_of_append :
    let operation : PatchOperation :=
      ⟨.add, "/o/a~1b", some (.bool true), none⟩
    let members : Record Json := [("a/b", .array [.null]), ("c", .bool false)]
    let content : Json := .object [("o", .object members)]
    operation.Made ∧
      Edits operation.verb ∧
      content.WellFormed ∧
      ∃ changed,
        operation.apply content = .ok changed ∧
          Leaves .add (some (.bool true)) (some (.array [.null]))
            (changed.pointer? "/o/a~1b") ∧
          changed.pointer? "/o/c" = some (.bool false) := by
  intro operation members content
  have made : operation.Made :=
    ⟨.add, "o/a~1b", some (.bool true), none, by cbv⟩
  have edits : Edits operation.verb := .inl rfl
  have members_wellFormed : (Json.object members).WellFormed :=
    .cons (by decide) (.array (List.forall_mem_singleton.mpr .null))
      (.cons (by decide) (.bool false) .noMembers)
  have wellFormed : content.WellFormed :=
    .cons (by decide) members_wellFormed .noMembers
  have isField :
      Json.Pointer.keys? operation.field = some (["o"] ++ ["a/b"]) := by
    cbv
  have holds : content.at? ["o"] = some (.object members) := by
    cbv
  have isOther : Json.Pointer.keys? "/o/c" = some ["o", "c"] := by
    cbv
  have apart : Json.Apart (["o"] ++ ["a/b"]) ["o", "c"] := by
    decide
  obtain ⟨changed, applied, leaves, frame⟩ :=
    (edits_obey_pointer_laws made edits wellFormed).inObject isField holds
  have before : content.pointer? operation.field = some (.array [.null]) := by
    cbv
  have beside : content.pointer? "/o/c" = some (.bool false) := by
    cbv
  rw [before] at leaves
  exact
    ⟨made, edits, wellFormed, changed, applied, leaves,
      (frame isOther apart).trans beside⟩

end PatchOperation

end ResourceServer
