import ResourceServer.Proofs.Http.ParameterGroups
import ResourceServer.Proofs.Http.QueryParameters

namespace ResourceServer

/-!
# How a request is finished

Each method finishes its request from a draft without fields and parameters,
having read the parameters that it consumes. All other pairs of the query are
taken up then, by what their names are taken for.
-/

namespace Protocol

/-- A parameter that takes one value is read from its first pair. -/
theorem single_eq_ok
    {query : List (String × String)}
    {parameter : Parameter}
    {given : Option String}
    {pair : String × String}
    (isGiven : single (groups query) parameter = .ok given)
    (isFirst :
      (query.find? fun pair => parameter.isNamed pair.1) = some pair) :
    given = some pair.2 ∧
      (query.filter fun other => other.1 == pair.1) = [pair] := by
  unfold single at isGiven
  split at isGiven
  · rename_i noGroup
    rw [find?_of_none noGroup] at isFirst
    cases isFirst
  · rename_i group isGroup
    obtain ⟨value, isOnly, rfl⟩ := Name.map_eq_ok_iff.mp isGiven
    have only := onlyValue_eq_ok isOnly
    have isPair := find?_of_only isGroup only
    rw [isPair] at isFirst
    cases isFirst
    exact ⟨rfl, filter_of_only (List.mem_of_find?_eq_some isGroup) only⟩

/-- The spelling of the name does not matter for a truth value. -/
theorem truth_eq_ok
    {name value : String}
    {isTrue : Bool}
    (other : String)
    (reads : truth name value = .ok isTrue) :
    truth other value = .ok isTrue := by
  unfold truth at reads ⊢
  split at reads <;> first | exact reads | cases reads

end Protocol

namespace Incoming

open Protocol

/-- The parameters that the method consumes. -/
def consumed (incoming : Incoming) : List Parameter :=
  match incoming.method with
  | "GET" => if incoming.selects then queryParameters else [.mimeType]
  | "POST" => [.action]
  | _ => []

/-- The parameters that a request has a use for. -/
def heeded (incoming : Incoming) : List Parameter :=
  .fields :: .prettyPrint :: incoming.consumed

/-- The pairs of the query that are given for a parameter. -/
def given
    (incoming : Incoming)
    (parameter : Parameter) :
    List (String × String) :=
  incoming.query.filter fun pair => parameter.isNamed pair.1

variable
  {incoming : Incoming}
  {named : Name}
  {adapted : Adapted}

/-- How a request is finished that reads the parameters it consumes. -/
structure Finishes
    (incoming : Incoming)
    (adapted : Adapted)
    (draft : Draft) : Prop where
  noFields : draft.request.fields = []
  noParameters : draft.request.parameters = []
  finished :
    finish draft (groups incoming.query) incoming.consumed = .ok adapted
  reads :
    ∀ parameter ∈ incoming.consumed,
      Reads (groups incoming.query) draft.request.operation parameter

/-- A GET that can be read is finished from a draft. -/
theorem finishes_of_get
    (isGet : incoming.method = "GET")
    (isAdapted : incoming.get named (groups incoming.query) = .ok adapted) :
    ∃ draft, incoming.Finishes adapted draft := by
  unfold get at isAdapted
  split at isAdapted
  · rename_i isQuery
    have isConsumed : incoming.consumed = queryParameters := by
      simp only [consumed, isGet, selects, isQuery, if_true]
    obtain ⟨settings, areSet, finished⟩ := Name.bind_eq_ok_iff.mp isAdapted
    obtain ⟨asked, rfl, isRead⟩ := querySettings_eq_ok areSet
    have isRequest :
        ((Draft.start named (.query {})).setAll asked.settings).request =
          ⟨named, [], [], .query (asked.change {})⟩ :=
      asked.takes named [] [] {} none
    refine ⟨_, ?_, ?_, isConsumed ▸ finished, ?_⟩
    · rw [isRequest]
    · rw [isRequest]
    · rw [isRequest, isConsumed]
      exact isRead.reads
  · rename_i isRead
    have isConsumed : incoming.consumed = [.mimeType] := by
      simp only [consumed, isGet, selects, isRead, Bool.false_eq_true, if_false]
    obtain ⟨_, _, isAdapted⟩ := Name.bind_eq_ok_iff.mp isAdapted
    obtain ⟨_, isChecked, finished⟩ := Name.bind_eq_ok_iff.mp isAdapted
    refine ⟨_, rfl, rfl, isConsumed ▸ finished, ?_⟩
    rw [isConsumed]
    exact List.forall_mem_singleton.mpr (checkMimeType_eq_ok isChecked)

theorem finishes_of_post
    (isPost : incoming.method = "POST")
    (isAdapted : incoming.post named (groups incoming.query) = .ok adapted) :
    ∃ draft, incoming.Finishes adapted draft := by
  have isConsumed : incoming.consumed = [.action] := by
    simp only [consumed, isPost]
  obtain ⟨given, isGiven, isAdapted⟩ := Name.bind_eq_ok_iff.mp isAdapted
  have reads :
      ∀ action operation,
        given = some action →
          operation.Applies .action action →
            ∀ parameter ∈ incoming.consumed,
              Reads (groups incoming.query) operation parameter := by
    rintro action operation rfl applies
    rw [isConsumed]
    refine List.forall_mem_singleton.mpr ⟨some action, isGiven, ?_⟩
    rintro _ ⟨⟩
    exact applies
  split at isAdapted
  · cases isAdapted
  · rename_i action
    split at isAdapted
    · rename_i isCreate
      obtain ⟨_, _, finished⟩ := Name.bind_eq_ok_iff.mp isAdapted
      refine ⟨_, rfl, rfl, isConsumed ▸ finished, reads action _ rfl ?_⟩
      exact ⟨isCreate, rfl⟩
    · obtain ⟨_, _, finished⟩ := Name.bind_eq_ok_iff.mp isAdapted
      refine ⟨_, rfl, rfl, isConsumed ▸ finished, reads action _ rfl ?_⟩
      rfl

/-- The other methods consume no parameters. -/
theorem finishes_of_other
    {draft : Draft}
    (isOther : incoming.consumed = [])
    (noFields : draft.request.fields = [])
    (noParameters : draft.request.parameters = [])
    (finished : finish draft (groups incoming.query) [] = .ok adapted) :
    incoming.Finishes adapted draft := by
  refine ⟨noFields, noParameters, isOther ▸ finished, ?_⟩
  rw [isOther]
  exact List.forall_mem_nil _

theorem finishes_of_put
    (isPut : incoming.method = "PUT")
    (isAdapted : incoming.put named (groups incoming.query) = .ok adapted) :
    ∃ draft, incoming.Finishes adapted draft := by
  have isOther : incoming.consumed = [] := by
    rw [consumed, isPut]
    rfl
  obtain ⟨_, _, isAdapted⟩ := Name.bind_eq_ok_iff.mp isAdapted
  obtain ⟨_, _, isAdapted⟩ := Name.bind_eq_ok_iff.mp isAdapted
  split at isAdapted
  · exact ⟨_, finishes_of_other isOther rfl rfl isAdapted⟩
  · exact ⟨_, finishes_of_other isOther rfl rfl isAdapted⟩
  · cases isAdapted

theorem finishes_of_delete
    (isDelete : incoming.method = "DELETE")
    (isAdapted :
      incoming.delete named (groups incoming.query) = .ok adapted) :
    ∃ draft, incoming.Finishes adapted draft := by
  have isOther : incoming.consumed = [] := by
    rw [consumed, isDelete]
    rfl
  obtain ⟨_, _, finished⟩ := Name.bind_eq_ok_iff.mp isAdapted
  refine ⟨_, finishes_of_other isOther ?_ ?_ finished⟩
  · cases incoming.revision? ifMatch <;> rfl
  · cases incoming.revision? ifMatch <;> rfl

theorem finishes_of_patch
    (isPatch : incoming.method = "PATCH")
    (isAdapted : incoming.patch named (groups incoming.query) = .ok adapted) :
    ∃ draft, incoming.Finishes adapted draft := by
  have isOther : incoming.consumed = [] := by
    rw [consumed, isPatch]
    rfl
  obtain ⟨_, _, isAdapted⟩ := Name.bind_eq_ok_iff.mp isAdapted
  obtain ⟨_, _, isAdapted⟩ := Name.bind_eq_ok_iff.mp isAdapted
  obtain ⟨_, _, finished⟩ := Name.bind_eq_ok_iff.mp isAdapted
  refine ⟨_, finishes_of_other isOther ?_ ?_ finished⟩
  · cases incoming.revision? ifMatch <;> rfl
  · cases incoming.revision? ifMatch <;> rfl

/-- A request that is understood is finished from a draft of its operation. -/
theorem finishes_of_adapt
    (isAdapted : incoming.adapt = .ok adapted) :
    ∃ draft, incoming.Finishes adapted draft := by
  obtain ⟨-, -, named, -, isAdapted⟩ := adapt_eq_ok_iff.mp isAdapted
  unfold byMethod at isAdapted
  dsimp only at isAdapted
  split at isAdapted
  · rename_i isGet
    exact finishes_of_get isGet isAdapted
  · rename_i isPut
    exact finishes_of_put isPut isAdapted
  · rename_i isPost
    exact finishes_of_post isPost isAdapted
  · rename_i isDelete
    exact finishes_of_delete isDelete isAdapted
  · rename_i isPatch
    exact finishes_of_patch isPatch isAdapted
  · cases isAdapted

/-! ## What a name is taken for -/

/-- The parameters that a method consumes are none of the common ones. -/
theorem ne_of_mem_consumed
    {parameter : Parameter}
    (isConsumed : parameter ∈ incoming.consumed) :
    parameter ≠ .fields ∧ parameter ≠ .prettyPrint := by
  unfold consumed at isConsumed
  split at isConsumed
  · split at isConsumed
    · revert parameter
      decide
    · revert parameter
      decide
  · revert parameter
    decide
  · cases isConsumed

/-- A name that a request has no use for is one of its own. -/
theorem useOf_eq_own_iff
    {name : String} :
    useOf incoming.consumed name = .own ↔
      ∀ parameter ∈ incoming.heeded, parameter.isNamed name = false := by
  rw [heeded, List.forall_mem_cons, List.forall_mem_cons, useOf]
  split
  · rename_i isConsumed
    obtain ⟨parameter, isIn, isNamed⟩ := List.any_eq_true.mp isConsumed
    simp only [reduceCtorEq, false_iff]
    rintro ⟨-, -, noneNamed⟩
    rw [noneNamed parameter isIn] at isNamed
    cases isNamed
  · rename_i notConsumed
    split
    · rename_i isFields
      simp only [reduceCtorEq, isFields, Bool.true_eq_false, false_and]
    · split
      · rename_i isLayout
        simp only [reduceCtorEq, isLayout, Bool.true_eq_false, false_and,
          and_false]
      · rename_i notFields notLayout
        simp only [Bool.not_eq_true] at notFields notLayout
        simpa [notFields, notLayout] using notConsumed

/-- A name that belongs to one parameter is among those named exactly when that
one is. -/
theorem any_isNamed_iff
    {name : String}
    {parameter : Parameter}
    {parameters : List Parameter}
    (isNamed : parameter.isNamed name = true) :
    (parameters.any fun other => other.isNamed name) = true ↔
      parameter ∈ parameters := by
  rw [List.any_eq_true]
  constructor
  · rintro ⟨other, isIn, isOther⟩
    rwa [Parameter.eq_of_isNamed isNamed isOther]
  · intro isIn
    exact ⟨parameter, isIn, isNamed⟩

/-- A name is used as fields exactly when it is the name of that parameter. -/
theorem useOf_eq_fields_iff
    {name : String} :
    useOf incoming.consumed name = .fields ↔
      Parameter.fields.isNamed name = true := by
  constructor
  · intro isUse
    unfold useOf at isUse
    split at isUse
    · cases isUse
    · split at isUse
      · assumption
      · split at isUse <;> cases isUse
  · intro isNamed
    have notConsumed : .fields ∉ incoming.consumed :=
      fun isConsumed => (ne_of_mem_consumed isConsumed).1 rfl
    rw [useOf, if_neg (mt (any_isNamed_iff isNamed).mp notConsumed),
      if_pos isNamed]

/-- A name is used for the layout exactly when it is the name of that parameter. -/
theorem useOf_eq_layout_iff
    {name : String} :
    useOf incoming.consumed name = .layout ↔
      Parameter.prettyPrint.isNamed name = true := by
  constructor
  · intro isUse
    unfold useOf at isUse
    split at isUse
    · cases isUse
    · split at isUse
      · cases isUse
      · split at isUse
        · assumption
        · cases isUse
  · intro isNamed
    have notConsumed : .prettyPrint ∉ incoming.consumed :=
      fun isConsumed => (ne_of_mem_consumed isConsumed).2 rfl
    have notFields : Parameter.fields.isNamed name ≠ true := by
      intro isFields
      cases Parameter.eq_of_isNamed isNamed isFields
    rw [useOf, if_neg (mt (any_isNamed_iff isNamed).mp notConsumed),
      if_neg notFields, if_pos isNamed]

/-! ## What the pairs of a query become -/

namespace Finishes

variable {draft : Draft}

/-- A finished request is what its groups of parameters are gathered into. -/
theorem gathers
    (finishes : incoming.Finishes adapted draft) :
    ∃ final,
      Gathers incoming.consumed ⟨draft, false⟩ (groups incoming.query) final ∧
        adapted = ⟨final.draft.request, final.prettyPrint⟩ :=
  finish_gathers finishes.finished

/-- A pair that is neither consumed nor a list of fields is given once. -/
theorem filter_of_unconsumed
    (finishes : incoming.Finishes adapted draft)
    {pair : String × String}
    (isGiven : pair ∈ incoming.query)
    (isUse :
      useOf incoming.consumed pair.1 = .layout ∨
        useOf incoming.consumed pair.1 = .own) :
    (incoming.query.filter fun other => other.1 == pair.1) = [pair] := by
  obtain ⟨final, gathers, -⟩ := finishes.gathers
  obtain ⟨group, isGroup, isName, isValue⟩ := exists_group_of_mem isGiven
  rw [← isName] at isUse
  obtain ⟨value, isOnly⟩ := gathers.only group isGroup isUse
  rw [isOnly] at isValue
  have isPair : pair = (group.name, value) :=
    Prod.ext isName.symm (List.mem_singleton.mp isValue)
  rw [isPair]
  exact filter_of_only isGroup isOnly

/-- The parameters kept for the handler are those of the query that nothing else
heeds. -/
theorem get?_parameters_iff
    (finishes : incoming.Finishes adapted draft)
    (name value : String) :
    adapted.request.parameters.get? name = some value ↔
      (name, value) ∈ incoming.query ∧
        ∀ parameter ∈ incoming.heeded, parameter.isNamed name = false := by
  obtain ⟨final, gathers, rfl⟩ := finishes.gathers
  rw [← useOf_eq_own_iff]
  constructor
  · intro isParameter
    rcases gathers.get?_parameters isParameter with before | after
    · rw [finishes.noParameters] at before
      cases before
    · obtain ⟨group, isOwn, rfl, isOnly⟩ := after
      obtain ⟨isGroup, isUse⟩ := List.mem_filter.mp isOwn
      refine ⟨mem_of_group isGroup ?_, of_decide_eq_true isUse⟩
      rw [isOnly]
      exact List.mem_singleton_self value
  · rintro ⟨isGiven, isUse⟩
    obtain ⟨group, isGroup, rfl, isValue⟩ := exists_group_of_mem isGiven
    have isOwn :
        group ∈ under incoming.consumed .own (groups incoming.query) :=
      List.mem_filter.mpr ⟨isGroup, decide_eq_true isUse⟩
    obtain ⟨only, isOnly, isParameter⟩ :=
      gathers.get?_parameters_of_mem (nodup_name_groups _) isOwn
    rw [isOnly] at isValue
    rw [isParameter, ← List.mem_singleton.mp isValue]

/-- All fields are asked for, if not in order. -/
theorem fields_perm
    (finishes : incoming.Finishes adapted draft) :
    adapted.request.fields.Perm
      ((incoming.given .fields).flatMap fun pair =>
        (listed pair.2).map Json.Pointer.normalize) := by
  obtain ⟨final, gathers, rfl⟩ := finishes.gathers
  have areUnder :
      under incoming.consumed .fields (groups incoming.query) =
        (groups incoming.query).filter fun group =>
          Parameter.fields.isNamed group.name := by
    simp only [under, useOf_eq_fields_iff, Bool.decide_eq_true]
  have areFields :
      final.draft.request.fields =
        (((groups incoming.query).flatMap Group.pairs).filter fun pair =>
          Parameter.fields.isNamed pair.1).flatMap fun pair =>
            (listed pair.2).map Json.Pointer.normalize := by
    rw [gathers.fields_eq, finishes.noFields, List.nil_append, areUnder,
      filter_pairs, List.flatMap_assoc]
    simp only [Group.pairs, List.flatMap_map, List.map_flatMap]
  rw [areFields]
  exact ((pairs_groups incoming.query).filter _).flatMap_right _

/-- The last pair of a layout settles the layout. -/
theorem prettyPrint_eq
    (finishes : incoming.Finishes adapted draft) :
    match (incoming.given .prettyPrint).getLast? with
    | none => adapted.prettyPrint = false
    | some pair => truth pair.1 pair.2 = .ok adapted.prettyPrint := by
  obtain ⟨final, gathers, rfl⟩ := finishes.gathers
  have areUnder :
      under incoming.consumed .layout (groups incoming.query) =
        (groups incoming.query).filter fun group =>
          Parameter.prettyPrint.isNamed group.name := by
    simp only [under, useOf_eq_layout_iff, Bool.decide_eq_true]
  have areGiven :
      (under incoming.consumed .layout (groups incoming.query)).flatMap
          Group.pairs =
        incoming.given .prettyPrint := by
    rw [areUnder, given]
    apply flatMap_pairs_of_only
    intro group isGroup isNamed
    exact gathers.only group isGroup (.inl (useOf_eq_layout_iff.mpr isNamed))
  have isSettled := gathers.prettyPrint_eq
  rw [← areGiven]
  cases isLast :
      (under incoming.consumed .layout (groups incoming.query)).getLast? with
  | none =>
      rw [isLast] at isSettled
      rw [List.getLast?_eq_none_iff.mp isLast]
      exact isSettled
  | some group =>
      rw [isLast] at isSettled
      obtain ⟨value, isOnly, reads⟩ := isSettled
      obtain ⟨earlier, isSplit⟩ := List.getLast?_eq_some_iff.mp isLast
      have isLastPair :
          ((under incoming.consumed .layout (groups incoming.query)).flatMap
            Group.pairs).getLast? = some (group.name, value) := by
        rw [isSplit, List.flatMap_append, List.flatMap_singleton, Group.pairs,
          isOnly]
        simp only [List.map_cons, List.map_nil, List.getLast?_append,
          List.getLast?_singleton, Option.some_or]
      rw [isLastPair]
      exact reads

end Finishes

end Incoming

end ResourceServer
