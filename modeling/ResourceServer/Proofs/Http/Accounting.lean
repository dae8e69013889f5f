import ResourceServer.Proofs.Http.Finishing

namespace ResourceServer

/-!
# What becomes of the parameters of a query

Every parameter that a method does not consume is handed on under the name that
it is given, and all fields are asked for. A parameter that the method consumes
takes one value. A second one is refused under the same spelling of the name, but
under another spelling it is left out, and of two layouts the last one counts.
-/

open Protocol

/-- The value is what a parameter has in a request, or part of it for fields. -/
def Adapted.Applies
    (adapted : Adapted)
    (parameter : Parameter)
    (value : String) : Prop :=
  match parameter with
  | .fields =>
      ∀ field ∈ listed value,
        Json.Pointer.normalize field ∈ adapted.request.fields
  | .prettyPrint => truth parameter.name value = .ok adapted.prettyPrint
  | _ => adapted.request.operation.Applies parameter value

namespace Incoming

/-- The pair that counts: the first one, or the last one for the layout. -/
def decisive?
    (incoming : Incoming)
    (parameter : Parameter) :
    Option (String × String) :=
  if parameter = .prettyPrint then
    (incoming.given parameter).getLast?
  else
    (incoming.given parameter).head?

variable
  {incoming : Incoming}
  {adapted : Adapted}

theorem decisive?_of_consumed
    {parameter : Parameter}
    (isConsumed : parameter ∈ incoming.consumed) :
    incoming.decisive? parameter =
      incoming.query.find? fun pair => parameter.isNamed pair.1 := by
  rw [decisive?, if_neg (ne_of_mem_consumed isConsumed).2, given,
    List.head?_filter]

/-- What a request makes of all pairs of its query. -/
structure Yields
    (incoming : Incoming)
    (adapted : Adapted) : Prop where
  /-- The parameters of the request are those it has no use for itself. -/
  parameters :
    ∀ name value,
      adapted.request.parameters.get? name = some value ↔
        (name, value) ∈ incoming.query ∧
          ∀ parameter ∈ incoming.heeded, parameter.isNamed name = false
  /-- The fields asked for are those of all lists of fields. -/
  fields :
    adapted.request.fields.Perm
      ((incoming.given .fields).flatMap fun pair =>
        (listed pair.2).map Json.Pointer.normalize)
  /-- Of all other parameters one pair counts. -/
  applied :
    ∀ parameter ∈ incoming.heeded, parameter ≠ .fields →
      ∀ pair, incoming.decisive? parameter = some pair →
        adapted.Applies parameter pair.2
  /-- Nothing is laid out unless that is asked for. -/
  layout :
    incoming.given .prettyPrint = [] → adapted.prettyPrint = false
  /-- What a request has, or what counts for it, is given once so spelled. -/
  once :
    ∀ pair ∈ incoming.query,
      (∀ parameter ∈ incoming.consumed,
        parameter.isNamed pair.1 = true →
          incoming.decisive? parameter = some pair) →
      Parameter.fields.isNamed pair.1 = false →
      (incoming.query.filter fun other => other.1 == pair.1) = [pair]

namespace Finishes

variable {draft : Draft}

/-- A parameter that is consumed is read from the pair that counts. -/
theorem applies_of_consumed
    (finishes : incoming.Finishes adapted draft)
    {parameter : Parameter}
    (isConsumed : parameter ∈ incoming.consumed)
    {pair : String × String}
    (counts : incoming.decisive? parameter = some pair) :
    adapted.request.operation.Applies parameter pair.2 ∧
      (incoming.query.filter fun other => other.1 == pair.1) = [pair] := by
  obtain ⟨-, sameOperation⟩ := finish_eq_ok ⟨rfl, rfl⟩ finishes.finished
  obtain ⟨given, isGiven, applies⟩ := finishes.reads parameter isConsumed
  rw [decisive?_of_consumed isConsumed] at counts
  obtain ⟨isValue, isOnce⟩ := single_eq_ok isGiven counts
  rw [sameOperation]
  exact ⟨applies pair.2 isValue, isOnce⟩

theorem applies
    (finishes : incoming.Finishes adapted draft)
    {parameter : Parameter}
    (isHeeded : parameter ∈ incoming.heeded)
    (notFields : parameter ≠ .fields)
    {pair : String × String}
    (counts : incoming.decisive? parameter = some pair) :
    adapted.Applies parameter pair.2 := by
  rcases List.mem_cons.mp isHeeded with isFields | isHeeded
  · exact absurd isFields notFields
  rcases List.mem_cons.mp isHeeded with rfl | isConsumed
  · have isSettled := finishes.prettyPrint_eq
    rw [decisive?, if_pos rfl] at counts
    rw [counts] at isSettled
    exact truth_eq_ok _ isSettled
  · have notLayout := (ne_of_mem_consumed isConsumed).2
    obtain ⟨applies, -⟩ := finishes.applies_of_consumed isConsumed counts
    unfold Adapted.Applies
    split
    · exact absurd rfl notFields
    · exact absurd rfl notLayout
    · exact applies

/-- What counts is given once under its spelling. -/
theorem filter_of_counts
    (finishes : incoming.Finishes adapted draft)
    {pair : String × String}
    (isGiven : pair ∈ incoming.query)
    (counts :
      ∀ parameter ∈ incoming.consumed,
        parameter.isNamed pair.1 = true →
          incoming.decisive? parameter = some pair)
    (notFields : Parameter.fields.isNamed pair.1 = false) :
    (incoming.query.filter fun other => other.1 == pair.1) = [pair] := by
  -- The method reads what it consumes; all else is taken up group by group.
  by_cases isConsumed :
      ∃ parameter ∈ incoming.consumed, parameter.isNamed pair.1 = true
  · obtain ⟨parameter, isConsumed, isNamed⟩ := isConsumed
    exact
      (finishes.applies_of_consumed isConsumed
        (counts parameter isConsumed isNamed)).2
  · refine finishes.filter_of_unconsumed isGiven ?_
    by_cases isLayout : Parameter.prettyPrint.isNamed pair.1 = true
    · exact .inl (useOf_eq_layout_iff.mpr isLayout)
    · refine .inr (useOf_eq_own_iff.mpr ?_)
      refine List.forall_mem_cons.mpr ⟨notFields, ?_⟩
      refine List.forall_mem_cons.mpr ⟨Bool.eq_false_iff.mpr isLayout, ?_⟩
      intro parameter isIn
      exact Bool.eq_false_iff.mpr fun isNamed =>
        isConsumed ⟨parameter, isIn, isNamed⟩

theorem yields
    (finishes : incoming.Finishes adapted draft) :
    incoming.Yields adapted where
  parameters := finishes.get?_parameters_iff
  fields := finishes.fields_perm
  applied _ isHeeded notFields _ counts :=
    finishes.applies isHeeded notFields counts
  layout noneGiven := by
    have isSettled := finishes.prettyPrint_eq
    rwa [noneGiven] at isSettled
  once _ isGiven counts notFields :=
    finishes.filter_of_counts isGiven counts notFields

end Finishes

/-- The ways in which a request accounts for a pair of its query. -/
inductive Accounts
    (incoming : Incoming)
    (adapted : Adapted)
    (name value : String) : Prop where
  | own
      (isOwn : ∀ parameter ∈ incoming.heeded, parameter.isNamed name = false)
      (isHandedOn : adapted.request.parameters.get? name = some value)
  | fields
      (isFields : Parameter.fields.isNamed name = true)
      (areAskedFor : adapted.Applies .fields value)
  | applied
      {parameter : Parameter}
      {spelling : String}
      (isHeeded : parameter ∈ incoming.heeded)
      (notFields : parameter ≠ .fields)
      (isNamed : parameter.isNamed name = true)
      (counts : incoming.decisive? parameter = some (spelling, value))
      (applies : adapted.Applies parameter value)

/-- What is given for a parameter has one value, however it is spelled. -/
def Agrees
    (incoming : Incoming)
    (parameter : Parameter) : Prop :=
  ∀ one ∈ incoming.given parameter, ∀ other ∈ incoming.given parameter,
    one.2 = other.2

instance (incoming : Incoming) (parameter : Parameter) :
    Decidable (incoming.Agrees parameter) :=
  inferInstanceAs <| Decidable <|
    ∀ one ∈ incoming.given parameter, ∀ other ∈ incoming.given parameter,
      one.2 = other.2

theorem exists_decisive
    {parameter : Parameter}
    {pair : String × String}
    (isGiven : pair ∈ incoming.given parameter) :
    ∃ counting ∈ incoming.given parameter,
      incoming.decisive? parameter = some counting := by
  have someGiven : incoming.given parameter ≠ [] := List.ne_nil_of_mem isGiven
  unfold decisive?
  split
  · exact
      ⟨_, List.getLast_mem someGiven, List.getLast?_eq_some_getLast someGiven⟩
  · exact ⟨_, List.head_mem someGiven, List.head?_eq_some_head someGiven⟩

/-- Of pairs that differ only one is accounted for. -/
theorem agrees_of_accounts
    (accounts :
      ∀ pair ∈ incoming.query, incoming.Accounts adapted pair.1 pair.2)
    {parameter : Parameter}
    (isHeeded : parameter ∈ incoming.heeded)
    (notFields : parameter ≠ .fields) :
    incoming.Agrees parameter := by
  have isCounting :
      ∀ pair ∈ incoming.given parameter,
        ∃ spelling,
          incoming.decisive? parameter = some (spelling, pair.2) := by
    intro pair isGiven
    obtain ⟨isIn, isNamed⟩ := List.mem_filter.mp isGiven
    cases accounts pair isIn with
    | own isOwn =>
        rw [isOwn parameter isHeeded] at isNamed
        cases isNamed
    | fields isFields =>
        exact absurd (Parameter.eq_of_isNamed isNamed isFields) notFields
    | applied _ _ isOther counts =>
        cases Parameter.eq_of_isNamed isNamed isOther
        exact ⟨_, counts⟩
  intro one isOne other isOther
  obtain ⟨_, oneCounts⟩ := isCounting one isOne
  obtain ⟨_, otherCounts⟩ := isCounting other isOther
  have samePair := Option.some.inj (oneCounts.symm.trans otherCounts)
  exact (Prod.mk.inj samePair).2

/-- A pair is accounted for if no other one means the same and differs. -/
theorem accounts_of_agrees
    (yields : incoming.Yields adapted)
    (agrees :
      ∀ parameter ∈ incoming.heeded, parameter ≠ .fields →
        incoming.Agrees parameter)
    {pair : String × String}
    (isIn : pair ∈ incoming.query) :
    incoming.Accounts adapted pair.1 pair.2 := by
  by_cases isOwn :
      ∀ parameter ∈ incoming.heeded, parameter.isNamed pair.1 = false
  · exact .own isOwn ((yields.parameters _ _).mpr ⟨isIn, isOwn⟩)
  · simp only [not_forall, Bool.not_eq_false] at isOwn
    obtain ⟨parameter, isHeeded, isNamed⟩ := isOwn
    have isGiven : pair ∈ incoming.given parameter :=
      List.mem_filter.mpr ⟨isIn, isNamed⟩
    by_cases isFields : parameter = .fields
    · subst isFields
      refine .fields isNamed ?_
      intro field isField
      refine yields.fields.mem_iff.mpr ?_
      exact List.mem_flatMap.mpr
        ⟨pair, isGiven, List.mem_map_of_mem isField⟩
    · obtain ⟨⟨spelling, value⟩, isCounting, counts⟩ :=
        exists_decisive isGiven
      obtain rfl : value = pair.2 :=
        agrees parameter isHeeded isFields _ isCounting pair isGiven
      have applies := yields.applied parameter isHeeded isFields _ counts
      exact .applied isHeeded isFields isNamed counts applies

/--
Whatever the method, a request hands on the pairs of its query that it has no use
for, it asks for all fields, and of each other parameter one pair counts, whose
spelling is given once. So it accounts for every pair if and only if each of these
parameters has one value in all its spellings: any other value is left out.
-/
theorem parameters_accounted_iff
    (isAdapted : incoming.adapt = .ok adapted) :
    incoming.Yields adapted ∧
      ((∀ pair ∈ incoming.query, incoming.Accounts adapted pair.1 pair.2) ↔
        ∀ parameter ∈ incoming.heeded, parameter ≠ .fields →
          incoming.Agrees parameter) := by
  obtain ⟨draft, finishes⟩ := finishes_of_adapt isAdapted
  refine ⟨finishes.yields, ?_, ?_⟩
  · intro accounts parameter isHeeded notFields
    exact agrees_of_accounts accounts isHeeded notFields
  · intro agrees pair isIn
    exact accounts_of_agrees finishes.yields agrees isIn

/-- A search for users. -/
def search (query : List (String × String)) : Incoming :=
  ⟨"GET", "/users", query, ⟨[]⟩, []⟩

/-- A filter is applied, two lists of fields are asked for, a color handed on. -/
theorem accounts_for_search :
    let incoming :=
      search
        [("_queryFilter", "true"), ("_fields", "name"), ("_FIELDS", "age"),
          ("color", "red")]
    ∃ adapted,
      incoming.adapt = .ok adapted ∧
        incoming.Yields adapted ∧
        ∀ pair ∈ incoming.query, incoming.Accounts adapted pair.1 pair.2 := by
  intro incoming
  have isAdapted :
      incoming.adapt =
        .ok
          ⟨⟨⟨["users"], by decide⟩, ["/name", "/age"], [("color", "red")],
            .query { filter := some "true" }⟩, false⟩ := by
    decide +kernel
  have agrees :
      ∀ parameter ∈ incoming.heeded, parameter ≠ .fields →
        incoming.Agrees parameter := by
    decide +kernel
  obtain ⟨yields, accounts⟩ := parameters_accounted_iff isAdapted
  exact ⟨_, isAdapted, yields, accounts.mpr agrees⟩

/-- A second filter is left out if it is spelled in capitals. -/
theorem second_filter_left_out :
    let incoming :=
      search [("_queryFilter", "true"), ("_QUERYFILTER", "false")]
    ∃ adapted,
      incoming.adapt = .ok adapted ∧
        adapted.request.operation = .query { filter := some "true" } ∧
        Parameter.filter ∈ incoming.heeded ∧
        Parameter.filter.isNamed "_QUERYFILTER" = true ∧
        ¬ incoming.Accounts adapted "_QUERYFILTER" "false" := by
  intro incoming
  have isAdapted :
      incoming.adapt =
        .ok
          ⟨⟨⟨["users"], by decide⟩, [], [], .query { filter := some "true" }⟩,
            false⟩ := by
    decide +kernel
  have isHeeded : Parameter.filter ∈ incoming.heeded := by
    decide +kernel
  have isNamed : Parameter.filter.isNamed "_QUERYFILTER" = true := by
    decide +kernel
  have first :
      incoming.decisive? .filter = some ("_queryFilter", "true") := by
    decide +kernel
  refine ⟨_, isAdapted, rfl, isHeeded, isNamed, ?_⟩
  intro accounts
  cases accounts with
  | own isOwn =>
      rw [isOwn .filter isHeeded] at isNamed
      cases isNamed
  | fields isFields =>
      cases Parameter.eq_of_isNamed isNamed isFields
  | applied _ _ isOther counts =>
      cases Parameter.eq_of_isNamed isNamed isOther
      have samePair := Option.some.inj (first.symm.trans counts)
      exact absurd (Prod.mk.inj samePair).2 (by decide)

end Incoming

end ResourceServer
