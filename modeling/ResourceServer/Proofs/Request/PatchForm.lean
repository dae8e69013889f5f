import ResourceServer.Proofs.Store.Editing

namespace ResourceServer

/-!
# The JSON form of patch operations

An operation carries what its verb needs, no null, and pointers that are empty
or begin with a slash, whether it was made from its parts or read from JSON.
The operations of this kind are also the ones whose JSON form reads as
themselves, so nothing that can be had is lost by writing it down.
-/

namespace PatchVerb

/-- What a verb needs is given. -/
def Suited : PatchVerb → Option Json → Option String → Prop
  | .add, value, _ => value.isSome
  | .transform, value, _ => value.isSome
  | .increment, value, _ => ∃ amount, value = some (.number amount)
  | .copy, _, source => source.isSome
  | .move, _, source => source.isSome
  | .remove, _, _ => True
  | .replace, _, _ => True

variable {verb : PatchVerb} {value : Option Json} {source : Option String}

theorem suited_map_source
    (change : String → String) :
    verb.Suited value (source.map change) ↔ verb.Suited value source := by
  cases verb <;> simp only [Suited, Option.isSome_map]

end PatchVerb

namespace PatchOperation

/-- A pointer is empty or begins with a slash. -/
def Rooted (pointer : String) : Prop :=
  pointer = "" ∨ ∃ rest, pointer.toList = '/' :: rest

/-- What holds of an operation wherever it comes from. -/
structure WellFormed (operation : PatchOperation) : Prop where
  fieldRooted : Rooted operation.field
  sourceRooted : ∀ source, operation.source = some source → Rooted source
  noNull : operation.value ≠ some .null
  suited : operation.verb.Suited operation.value operation.source

/-- The operations that can be had. -/
inductive Obtained : PatchOperation → Prop where
  | made
      {verb : PatchVerb}
      {field : String}
      {value : Option Json}
      {source : Option String}
      {operation : PatchOperation}
      (isMade : make verb field value source = .ok operation) :
      Obtained operation
  | added
      {field : String}
      {value : Json}
      {operation : PatchOperation}
      (isMade : add field value = .ok operation) :
      Obtained operation
  | removed
      {field : String}
      {operation : PatchOperation}
      (isMade : remove field = .ok operation) :
      Obtained operation
  | replaced
      {field : String}
      {value : Json}
      {operation : PatchOperation}
      (isMade : replace field value = .ok operation) :
      Obtained operation
  | incremented
      {field : String}
      {amount : Json.Number}
      {operation : PatchOperation}
      (isMade : increment field amount = .ok operation) :
      Obtained operation
  | read
      {value : Json}
      {operation : PatchOperation}
      (reads : ofJson value = .ok operation) :
      Obtained operation

variable
  {verb : PatchVerb} {field : String} {value : Option Json}
  {source : Option String} {operation : PatchOperation}

/-! ## Making an operation from its parts -/

/-- An operation has no fault exactly when it suits its verb. -/
theorem fault?_eq_none_iff :
    fault? verb value source = none ↔ verb.Suited value source := by
  cases verb with
  | increment =>
      rcases value with _ | (_ | _ | _ | _ | _ | _) <;>
        simp [fault?, PatchVerb.Suited, Json.asNumber?]
  | add | transform =>
      cases value <;> simp [fault?, PatchVerb.Suited]
  | copy | move =>
      cases source <;> simp [fault?, PatchVerb.Suited]
  | remove | replace =>
      simp [fault?, PatchVerb.Suited]

/-- An operation is made of parts that suit, with pointers normalized and null
left out. -/
theorem make_eq_ok_iff :
    make verb field value source = .ok operation ↔
      verb.Suited (value.filter fun value => !value.isNull) source ∧
        operation = {
          verb := verb
          field := Json.Pointer.normalize field
          value := value.filter fun value => !value.isNull
          source := source.map Json.Pointer.normalize
        } := by
  rw [← fault?_eq_none_iff, make]
  split
  · rename_i fault isFault
    simp only [isFault, reduceCtorEq, false_and]
  · rename_i noFault
    simp only [noFault, true_and, Except.ok.injEq]
    exact eq_comm

/-- An operation that was made is well-formed. -/
theorem Made.wellFormed
    (made : operation.Made) :
    operation.WellFormed := by
  obtain ⟨verb, field, value, source, isMade⟩ := made
  obtain ⟨suited, rfl⟩ := make_eq_ok_iff.mp isMade
  exact {
    fieldRooted := Json.Pointer.normalize_cases field
    sourceRooted := by
      intro normal isNormal
      obtain ⟨given, -, rfl⟩ := Option.map_eq_some_iff.mp isNormal
      exact Json.Pointer.normalize_cases given
    noNull := by
      intro isNull
      cases (Option.filter_eq_some_iff.mp isNull).2
    suited := (PatchVerb.suited_map_source _).mpr suited
  }

/-- Making a well-formed operation once more from its own parts gives it again. -/
theorem WellFormed.make_eq_self
    (wellFormed : operation.WellFormed) :
    make operation.verb operation.field operation.value operation.source =
      .ok operation := by
  have sameField : Json.Pointer.normalize operation.field = operation.field :=
    Json.Pointer.normalize_eq_self_iff.mpr wellFormed.fieldRooted
  have sameValue :
      (operation.value.filter fun value => !value.isNull) = operation.value := by
    cases carries : operation.value with
    | none => rfl
    | some value =>
        cases value with
        | null => exact absurd carries wellFormed.noNull
        | _ => rfl
  have sameSource :
      operation.source.map Json.Pointer.normalize = operation.source := by
    cases isSource : operation.source with
    | none => rfl
    | some source =>
        exact congrArg some
          (Json.Pointer.normalize_eq_self_iff.mpr
            (wellFormed.sourceRooted source isSource))
  rw [make_eq_ok_iff, sameField, sameValue, sameSource]
  exact ⟨wellFormed.suited, rfl⟩

/-! ## Reading an operation -/

/-- An operation that was read was made. -/
theorem made_of_ofJson
    {written : Json}
    (reads : ofJson written = .ok operation) :
    operation.Made := by
  unfold ofJson at reads
  split at reads
  · rename_i members _
    split at reads
    · obtain ⟨verb, -, reads⟩ := Name.bind_eq_ok_iff.mp reads
      split at reads
      · rename_i field _
        obtain ⟨source, -, isMade⟩ := Name.bind_eq_ok_iff.mp reads
        exact ⟨verb, field, members.get? "value", source, isMade⟩
      · cases reads
    · cases reads
  · cases reads

/-- The shorthand constructors and the reading of JSON make operations alike. -/
theorem obtained_iff_made :
    Obtained operation ↔ operation.Made := by
  constructor
  · intro obtained
    cases obtained with
    | made isMade | added isMade | removed isMade | replaced isMade
    | incremented isMade =>
        exact ⟨_, _, _, _, isMade⟩
    | read reads =>
        exact made_of_ofJson reads
  · rintro ⟨verb, field, value, source, isMade⟩
    exact .made isMade

/-- The operations that can be had are the well-formed ones. -/
theorem obtained_iff_wellFormed :
    Obtained operation ↔ operation.WellFormed := by
  rw [obtained_iff_made]
  constructor
  · exact Made.wellFormed
  · intro wellFormed
    exact ⟨_, _, _, _, wellFormed.make_eq_self⟩

/-! ## Writing an operation -/

/-- The members of the JSON form are the parts of the operation. -/
theorem exists_toJson_eq
    (operation : PatchOperation) :
    ∃ members : Record Json,
      operation.toJson = .object members ∧
        members.get? "operation" = some (.string operation.verb.text) ∧
        members.get? "field" = some (.string operation.field) ∧
        members.get? "from" = operation.source.map Json.string ∧
        members.get? "value" = operation.value := by
  obtain ⟨verb, field, value, source⟩ := operation
  -- A source and a value are members only where there are any.
  cases source <;> cases value <;>
    refine ⟨_, rfl, ?_, ?_, ?_, ?_⟩ <;>
    simp [Record.get?_insert, Record.get?]

/-- The text of a verb reads back to the verb. -/
theorem readVerb_text
    (verb : PatchVerb) :
    readVerb verb.text = .ok verb := by
  cases verb <;> rfl

/-- The JSON form of an operation stands for what is made from its parts. -/
theorem ofJson_toJson
    (operation : PatchOperation) :
    ofJson operation.toJson =
      make operation.verb operation.field operation.value operation.source := by
  obtain ⟨members, isObject, isVerb, isField, isSource, isValue⟩ :=
    operation.exists_toJson_eq
  have readsSource : readSource members = .ok operation.source := by
    rw [readSource, isSource]
    cases operation.source <;> rfl
  rw [isObject, ofJson]
  simp only [Json.asMembers?, isVerb, isField, isValue, Option.bind_some,
    Json.asText?, readVerb_text, readsSource]
  rfl

/-- An operation reads back from its JSON form exactly when it is well-formed. -/
theorem ofJson_toJson_eq_ok_iff :
    ofJson operation.toJson = .ok operation ↔ operation.WellFormed := by
  rw [ofJson_toJson]
  constructor
  · intro isMade
    exact Made.wellFormed ⟨_, _, _, _, isMade⟩
  · exact WellFormed.make_eq_self

/-! ## Lists of operations -/

/-- A list of operations is read item by item. -/
theorem listOfJson_array_eq_ok_iff
    {items : List Json}
    {operations : List PatchOperation} :
    listOfJson (.array items) = .ok operations ↔
      List.Forall₂ (fun item operation => ofJson item = .ok operation)
        items operations := by
  rw [← Name.mapM_eq_ok_iff, listOfJson]
  cases items.mapM ofJson with
  | error fault =>
      simp only [reduceCtorEq]
  | ok read =>
      simp only [Except.ok.injEq]

/-- Every operation of a list that was read is well-formed. -/
theorem wellFormed_of_listOfJson
    {written : Json}
    {operations : List PatchOperation}
    (reads : listOfJson written = .ok operations) :
    ∀ operation ∈ operations, operation.WellFormed := by
  cases written with
  | array items =>
      have paired :
          List.Forall₂
            (fun operation item =>
              WellFormed operation ∧ ofJson item = .ok operation)
            operations items :=
        (listOfJson_array_eq_ok_iff.mp reads).flip.imp fun _ _ readsItem =>
          ⟨(made_of_ofJson readsItem).wellFormed, readsItem⟩
      exact ((List.forall₂_and_left _ _).mp paired).1
  | _ => cases reads

theorem listOfJson_toJson_eq_ok_iff
    {operations : List PatchOperation} :
    listOfJson (.array (operations.map toJson)) = .ok operations ↔
      ∀ operation ∈ operations, operation.WellFormed := by
  rw [listOfJson_array_eq_ok_iff, List.forall₂_map_left_iff, List.forall₂_same]
  simp only [ofJson_toJson_eq_ok_iff]

/-- A list of operations can be read from something when all of them are well-formed. -/
theorem exists_listOfJson_iff
    {operations : List PatchOperation} :
    (∃ written, listOfJson written = .ok operations) ↔
      ∀ operation ∈ operations, operation.WellFormed := by
  constructor
  · rintro ⟨written, reads⟩
    exact wellFormed_of_listOfJson reads
  · intro wellFormed
    exact ⟨_, listOfJson_toJson_eq_ok_iff.mpr wellFormed⟩

/--
The operations that can be had are the well-formed ones, and these are the ones
that read as themselves from their JSON form. The lists of operations that can
be read are those of well-formed ones, and these lists, too, are the ones that
read as themselves.
-/
theorem json_form_survives :
    (∀ operation : PatchOperation,
        (Obtained operation ↔ operation.WellFormed) ∧
          (Obtained operation ↔ ofJson operation.toJson = .ok operation)) ∧
      ∀ operations : List PatchOperation,
        ((∃ written, listOfJson written = .ok operations) ↔
            ∀ operation ∈ operations, operation.WellFormed) ∧
          ((∃ written, listOfJson written = .ok operations) ↔
            listOfJson (.array (operations.map toJson)) = .ok operations) := by
  constructor
  · intro operation
    refine ⟨obtained_iff_wellFormed, ?_⟩
    rw [obtained_iff_wellFormed, ofJson_toJson_eq_ok_iff]
  · intro operations
    refine ⟨exists_listOfJson_iff, ?_⟩
    rw [exists_listOfJson_iff, listOfJson_toJson_eq_ok_iff]

/-- What was read from is not kept: it is written in one way, without nulls. -/
example :
    (ofJson (.object [("field", .string "email"), ("from", .null),
      ("operation", .string "REMOVE"), ("value", .null)])).map toJson =
        .ok (.object [("field", .string "/email"),
          ("operation", .string "remove")]) := by
  rfl

end PatchOperation

end ResourceServer
