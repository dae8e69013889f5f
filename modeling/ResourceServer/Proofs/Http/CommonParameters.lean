import Mathlib.Data.List.Nodup
import ResourceServer.Proofs.Http.Understanding
import ResourceServer.Proofs.Record

namespace ResourceServer

/-!
# Parameters that a method does not consume

The parameters that a method leaves are gathered group by group: fields to
answer with, the layout of the answer, and all others, which are handed on under
the name that they are given. What a finished request has of each follows by
induction on the groups.
-/

namespace Draft

variable {draft : Draft}

/-- A parameter that leaves no fault is in the request. -/
theorem set_parameter
    {name value : String}
    (faultless : (draft.set (.parameter name value)).fault = none) :
    draft.fault = none ∧
      draft.set (.parameter name value) =
        {
          draft with
          request.parameters := draft.request.parameters.insert name value
        } := by
  rw [set_eq] at faultless ⊢
  by_cases suits : Setting.Suits draft.request.verb (.parameter name value)
  · rw [if_pos suits] at faultless ⊢
    rw [Request.given_parameter]
    exact ⟨faultless, rfl⟩
  · rw [if_neg suits] at faultless
    cases before : draft.fault with
    | none => simp [before] at faultless
    | some first => simp [before] at faultless

theorem setAll_fields
    (draft : Draft)
    (pointers : List String) :
    draft.setAll (pointers.map .field) =
      {
        draft with
        request.fields :=
          draft.request.fields ++ pointers.map Json.Pointer.normalize
      } := by
  unfold setAll
  induction pointers generalizing draft with
  | nil =>
      simp
  | cons pointer rest inductionHypothesis =>
      rw [List.map_cons, List.foldl_cons, inductionHypothesis]
      simp [set, Request.apply]

end Draft

namespace Protocol

namespace Parameter

/-- All parameters that mean something to the protocol. -/
def all : List Parameter :=
  [.action, .fields, .mimeType, .pageSize, .cookie, .offset, .prettyPrint,
    .expression, .filter, .queryId, .sortKeys, .countPolicy]

theorem mem_all
    (parameter : Parameter) :
    parameter ∈ all := by
  cases parameter <;> decide

/-- A text names one parameter at most. -/
theorem eq_of_isNamed
    {one other : Parameter}
    {text : String}
    (isOne : one.isNamed text = true)
    (isOther : other.isNamed text = true) :
    one = other := by
  have distinct : (all.map fun parameter => Text.fold parameter.name).Nodup := by
    decide +kernel
  refine
    List.inj_on_of_nodup_map distinct one.mem_all other.mem_all ?_
  exact (beq_iff_eq.mp isOne).trans (beq_iff_eq.mp isOther).symm

end Parameter

/-- What the name of a group makes of its values. -/
inductive Use where
  /-- The method has made use of them. -/
  | consumed
  | fields
  | layout
  /-- They are handed on. -/
  | own
deriving DecidableEq

/-- What a name is taken for, besides the parameters that are consumed. -/
def useOf
    (consumed : List Parameter)
    (name : String) :
    Use :=
  if consumed.any fun parameter => parameter.isNamed name then
    .consumed
  else if Parameter.fields.isNamed name then
    .fields
  else if Parameter.prettyPrint.isNamed name then
    .layout
  else
    .own

/-- The request with more fields to answer with. -/
def Common.withFields
    (common : Common)
    (values : List String) :
    Common :=
  {
    common with
    draft.request.fields :=
      common.draft.request.fields ++
        (values.flatMap listed).map Json.Pointer.normalize
  }

/-- The request with one more parameter of its own. -/
def Common.withParameter
    (common : Common)
    (name value : String) :
    Common :=
  {
    common with
    draft.request.parameters := common.draft.request.parameters.insert name value
  }

/-- How the groups that a request is given are gathered, without a fault. -/
inductive Gathers
    (consumed : List Parameter) :
    Common → List Group → Common → Prop where
  | done
      {common : Common} :
      Gathers consumed common [] common
  | consumed
      {common final : Common}
      {group : Group}
      {rest : List Group}
      (isUse : useOf consumed group.name = .consumed)
      (onward : Gathers consumed common rest final) :
      Gathers consumed common (group :: rest) final
  | fields
      {common final : Common}
      {group : Group}
      {rest : List Group}
      (isUse : useOf consumed group.name = .fields)
      (onward : Gathers consumed (common.withFields group.values) rest final) :
      Gathers consumed common (group :: rest) final
  | layout
      {common final : Common}
      {group : Group}
      {rest : List Group}
      {value : String}
      {pretty : Bool}
      (isUse : useOf consumed group.name = .layout)
      (only : group.values = [value])
      (reads : truth group.name value = .ok pretty)
      (onward :
        Gathers consumed { common with prettyPrint := pretty } rest final) :
      Gathers consumed common (group :: rest) final
  | own
      {common final : Common}
      {group : Group}
      {rest : List Group}
      {value : String}
      (isUse : useOf consumed group.name = .own)
      (only : group.values = [value])
      (onward :
        Gathers consumed (common.withParameter group.name value) rest final) :
      Gathers consumed common (group :: rest) final

theorem onlyValue_eq_ok
    {name value : String}
    {values : List String}
    (isOnly : onlyValue name values = .ok value) :
    values = [value] := by
  unfold onlyValue at isOnly
  split at isOnly
  · cases isOnly
    rfl
  · cases isOnly

/-- One group is applied in the way that its name is taken for. -/
theorem applyGroup_eq_ok
    {consumed : List Parameter}
    {common applied : Common}
    {group : Group}
    (isApplied : applyGroup consumed common group = .ok applied)
    (faultless : applied.draft.fault = none) :
    common.draft.fault = none ∧
      ∀ {rest : List Group} {final : Common},
        Gathers consumed applied rest final →
          Gathers consumed common (group :: rest) final := by
  unfold applyGroup at isApplied
  split at isApplied
  · rename_i isConsumed
    cases isApplied
    exact ⟨faultless, .consumed (if_pos isConsumed)⟩
  · rename_i notConsumed
    split at isApplied
    · rename_i isFields
      cases isApplied
      rw [Draft.setAll_fields] at faultless ⊢
      refine ⟨faultless, .fields ?_⟩
      rw [useOf, if_neg notConsumed, if_pos isFields]
    · rename_i notFields
      split at isApplied
      · rename_i isLayout
        obtain ⟨value, isOnly, isApplied⟩ := Name.bind_eq_ok_iff.mp isApplied
        obtain ⟨pretty, reads, isApplied⟩ := Name.bind_eq_ok_iff.mp isApplied
        cases isApplied
        refine ⟨faultless, .layout ?_ (onlyValue_eq_ok isOnly) reads⟩
        rw [useOf, if_neg notConsumed, if_neg notFields, if_pos isLayout]
      · rename_i notLayout
        obtain ⟨value, isOnly, isApplied⟩ := Name.bind_eq_ok_iff.mp isApplied
        cases isApplied
        obtain ⟨wasFaultless, isSet⟩ := Draft.set_parameter faultless
        rw [isSet]
        refine ⟨wasFaultless, .own ?_ (onlyValue_eq_ok isOnly)⟩
        rw [useOf, if_neg notConsumed, if_neg notFields, if_neg notLayout]

/-- A run over groups that ends without a fault gathers them. -/
theorem gathers_of_foldlM
    {consumed : List Parameter}
    {common final : Common}
    {groups : List Group}
    (isApplied : groups.foldlM (applyGroup consumed) common = .ok final)
    (faultless : final.draft.fault = none) :
    common.draft.fault = none ∧ Gathers consumed common groups final := by
  induction groups generalizing common with
  | nil =>
      cases isApplied
      exact ⟨faultless, .done⟩
  | cons group rest inductionHypothesis =>
      rw [List.foldlM_cons] at isApplied
      obtain ⟨next, isNext, isApplied⟩ := Name.bind_eq_ok_iff.mp isApplied
      obtain ⟨nextFaultless, gathers⟩ := inductionHypothesis isApplied
      obtain ⟨commonFaultless, prepends⟩ := applyGroup_eq_ok isNext nextFaultless
      exact ⟨commonFaultless, prepends gathers⟩

/-- The groups that are taken for something. -/
def under
    (consumed : List Parameter)
    (use : Use)
    (groups : List Group) :
    List Group :=
  groups.filter fun group => useOf consumed group.name = use

theorem under_cons
    {consumed : List Parameter}
    {group : Group}
    {taken : Use}
    (isUse : useOf consumed group.name = taken)
    (use : Use)
    (rest : List Group) :
    under consumed use (group :: rest) =
      if taken = use then
        group :: under consumed use rest
      else
        under consumed use rest := by
  simp only [under, List.filter_cons, isUse, decide_eq_true_eq]

namespace Gathers

variable
  {consumed : List Parameter}
  {common final : Common}
  {groups : List Group}

/-- The fields of all groups of fields are asked for, in order. -/
theorem fields_eq
    (gathers : Gathers consumed common groups final) :
    final.draft.request.fields =
      common.draft.request.fields ++
        (under consumed .fields groups).flatMap fun group =>
          (group.values.flatMap listed).map Json.Pointer.normalize := by
  induction gathers with
  | done =>
      exact (List.append_nil _).symm
  | consumed isUse _ inductionHypothesis =>
      rw [inductionHypothesis, under_cons isUse]
      rfl
  | fields isUse _ inductionHypothesis =>
      rw [inductionHypothesis, under_cons isUse, if_pos rfl, List.flatMap_cons,
        ← List.append_assoc]
      rfl
  | layout isUse _ _ _ inductionHypothesis =>
      rw [inductionHypothesis, under_cons isUse]
      rfl
  | own isUse _ _ inductionHypothesis =>
      rw [inductionHypothesis, under_cons isUse]
      rfl

/-- A layout or a parameter that is handed on is given once. -/
theorem only
    (gathers : Gathers consumed common groups final) :
    ∀ group ∈ groups,
      useOf consumed group.name = .layout ∨ useOf consumed group.name = .own →
        ∃ value, group.values = [value] := by
  induction gathers with
  | done =>
      intro group isIn
      cases isIn
  | consumed isUse _ inductionHypothesis =>
      refine List.forall_mem_cons.mpr ⟨?_, inductionHypothesis⟩
      simp [isUse]
  | fields isUse _ inductionHypothesis =>
      refine List.forall_mem_cons.mpr ⟨?_, inductionHypothesis⟩
      simp [isUse]
  | layout _ isOnly _ _ inductionHypothesis =>
      exact List.forall_mem_cons.mpr ⟨fun _ => ⟨_, isOnly⟩, inductionHypothesis⟩
  | own _ isOnly _ inductionHypothesis =>
      exact List.forall_mem_cons.mpr ⟨fun _ => ⟨_, isOnly⟩, inductionHypothesis⟩

/-- The last group of a layout settles the layout. -/
theorem prettyPrint_eq
    (gathers : Gathers consumed common groups final) :
    match (under consumed .layout groups).getLast? with
    | none => final.prettyPrint = common.prettyPrint
    | some group =>
        ∃ value,
          group.values = [value] ∧
            truth group.name value = .ok final.prettyPrint := by
  induction gathers with
  | done =>
      rfl
  | consumed isUse _ inductionHypothesis =>
      rw [under_cons isUse]
      exact inductionHypothesis
  | fields isUse _ inductionHypothesis =>
      rw [under_cons isUse]
      exact inductionHypothesis
  | @layout common final group rest value pretty isUse isOnly reads _
      inductionHypothesis =>
      rw [under_cons isUse, if_pos rfl, List.getLast?_cons]
      -- A later layout takes the place of this one.
      cases isLast : (under consumed .layout rest).getLast? with
      | none =>
          rw [isLast] at inductionHypothesis
          exact ⟨value, isOnly, inductionHypothesis ▸ reads⟩
      | some last =>
          rw [isLast] at inductionHypothesis
          exact inductionHypothesis
  | own isUse _ _ inductionHypothesis =>
      rw [under_cons isUse]
      exact inductionHypothesis

/-- What is handed on was there before or is the value of a group. -/
theorem get?_parameters
    (gathers : Gathers consumed common groups final)
    {key value : String}
    (isParameter : final.draft.request.parameters.get? key = some value) :
    common.draft.request.parameters.get? key = some value ∨
      ∃ group ∈ under consumed .own groups,
        group.name = key ∧ group.values = [value] := by
  induction gathers with
  | done =>
      exact .inl isParameter
  | consumed isUse _ inductionHypothesis =>
      rw [under_cons isUse]
      exact inductionHypothesis isParameter
  | fields isUse _ inductionHypothesis =>
      rw [under_cons isUse]
      exact inductionHypothesis isParameter
  | layout isUse _ _ _ inductionHypothesis =>
      rw [under_cons isUse]
      exact inductionHypothesis isParameter
  | own isUse isOnly _ inductionHypothesis =>
      rw [under_cons isUse, if_pos rfl]
      rcases inductionHypothesis isParameter with before | ⟨group, isIn, isGroup⟩
      · rw [Common.withParameter, Record.get?_insert] at before
        split at before
        · rename_i isName
          cases before
          exact .inr ⟨_, List.mem_cons_self, isName, isOnly⟩
        · exact .inl before
      · exact .inr ⟨group, List.mem_cons_of_mem _ isIn, isGroup⟩

/-- What no group is called is handed on as it was before. -/
theorem get?_parameters_of_not_mem
    (gathers : Gathers consumed common groups final)
    {key : String}
    (isOther : ∀ group ∈ groups, group.name ≠ key) :
    final.draft.request.parameters.get? key =
      common.draft.request.parameters.get? key := by
  induction gathers with
  | done =>
      rfl
  | consumed _ _ inductionHypothesis | fields _ _ inductionHypothesis
  | layout _ _ _ _ inductionHypothesis =>
      exact inductionHypothesis (List.forall_mem_cons.mp isOther).2
  | own _ _ _ inductionHypothesis =>
      obtain ⟨isOtherName, restOther⟩ := List.forall_mem_cons.mp isOther
      rw [inductionHypothesis restOther, Common.withParameter,
        Record.get?_insert, if_neg isOtherName]

/-- A group under a name of its own is handed on with its value. -/
theorem get?_parameters_of_mem
    (gathers : Gathers consumed common groups final)
    (distinct : (groups.map Group.name).Nodup)
    {group : Group}
    (isGroup : group ∈ under consumed .own groups) :
    ∃ value,
      group.values = [value] ∧
        final.draft.request.parameters.get? group.name = some value := by
  induction gathers with
  | done =>
      cases isGroup
  | consumed isUse _ inductionHypothesis | fields isUse _ inductionHypothesis
  | layout isUse _ _ _ inductionHypothesis =>
      rw [under_cons isUse] at isGroup
      exact inductionHypothesis (List.nodup_cons.mp distinct).2 isGroup
  | @own common final first rest value isUse isOnly onward
      inductionHypothesis =>
      obtain ⟨isFresh, restDistinct⟩ := List.nodup_cons.mp distinct
      rw [under_cons isUse, if_pos rfl] at isGroup
      rcases List.mem_cons.mp isGroup with isFirst | isLater
      · subst isFirst
        have noneLater : ∀ other ∈ rest, other.name ≠ group.name := by
          intro other isOther sameName
          exact isFresh (sameName ▸ List.mem_map_of_mem isOther)
        refine ⟨value, isOnly, ?_⟩
        rw [onward.get?_parameters_of_not_mem noneLater, Common.withParameter,
          Record.get?_insert, if_pos rfl]
      · exact inductionHypothesis restDistinct isLater

end Gathers

/-- A request is finished with all its groups gathered. -/
theorem finish_gathers
    {draft : Draft}
    {groups : List Group}
    {consumed : List Parameter}
    {adapted : Adapted}
    (finished : finish draft groups consumed = .ok adapted) :
    ∃ final,
      Gathers consumed ⟨draft, false⟩ groups final ∧
        adapted = ⟨final.draft.request, final.prettyPrint⟩ := by
  obtain ⟨final, isApplied, finished⟩ := Name.bind_eq_ok_iff.mp finished
  obtain ⟨request, built, finished⟩ := Name.bind_eq_ok_iff.mp finished
  have faultless : final.draft.fault = none := by
    unfold Draft.build at built
    split at built
    · cases built
    · assumption
  cases finished
  cases Draft.build_eq_ok built
  exact ⟨final, (gathers_of_foldlM isApplied faultless).2, rfl⟩

end Protocol

end ResourceServer
