import ResourceServer.Proofs.Http.PlainRequest
import ResourceServer.Proofs.Http.SafeExchange

namespace ResourceServer

/-!
# Conditions that are overlooked

Besides the revision to change a request may name a revision not to have, or a
time. Conditions on time are always refused, and so is every condition on a
method that cannot have one and on deleting and patching. But to query or to
post in spite of a revision not to have, to read in spite of a single one and to
put in spite of it without naming another one is to do so unconditionally.
-/

namespace Headers

/-- The header fields but for those of some names. -/
def without (headers : Headers) (names : List String) : Headers :=
  ⟨headers.fields.filter fun field => !names.contains field.1⟩

variable
  (headers : Headers)
  {names : List String}
  {name : String}

/-- Leaving fields out keeps the text of all others. -/
theorem text?_without
    (isKept : name ∉ names) :
    (headers.without names).text? name = headers.text? name := by
  have sameFirst :
      ((headers.without names).fields.find? fun field => field.1 == name) =
        headers.fields.find? fun field => field.1 == name := by
    rw [without, List.find?_filter]
    congr 1
    funext field
    by_cases isNamed : field.1 = name
    · simp [isNamed, isKept]
    · simp [isNamed]
  simp only [text?, sameFirst]

theorem has_without
    (isLeftOut : name ∈ names) :
    (headers.without names).has name = false := by
  rw [has, List.any_eq_false]
  intro field isField isNamed
  have isKept := (List.mem_filter.mp isField).2
  rw [beq_iff_eq.mp isNamed] at isKept
  simp [isLeftOut] at isKept

end Headers

namespace Store

/-- Creating a resource leaves all others as they are, and any of its id. -/
theorem get?_after_of_create
    {store : Store}
    {call : Call}
    {key : String}
    {entry : Entry}
    (isCreate : call.request.verb = .create)
    (isStored : store.entries.get? key = some entry) :
    (store.after call).entries.get? key = some entry := by
  have outcome := store.handle_outcome call
  unfold Store.after
  generalize store.handle call.freshId call.request = result at outcome ⊢
  cases outcome with
  | created whole asks free =>
      rename_i content newId
      have isOther : Text.fold (newId.getD call.freshId) ≠ key := by
        rintro rfl
        cases free.symm.trans isStored
      exact (Record.get?_insert_of_ne _ _ isOther).trans isStored
  | revised instanceName writes =>
      rw [Request.verb] at isCreate
      generalize call.request.operation = operation at writes isCreate
      cases writes with
      | update => cases isCreate
      | patch => cases isCreate
  | deleted instanceName asks =>
      rw [Request.verb, asks] at isCreate
      cases isCreate
  | observed =>
      exact isStored
  | refused =>
      exact isStored

end Store

namespace Incoming

open Protocol

variable
  {incoming : Incoming}
  {named : Name}
  {groups : List Group}
  {adapted : Adapted}

/-- The headers with a condition other than the revision to change. -/
def conditions : List String :=
  ifNoneMatch :: refusedHeaders

/-- The request without these conditions. -/
def unconditional (incoming : Incoming) : Incoming :=
  { incoming with headers := incoming.headers.without conditions }

/-- The ways to get past a revision not to have. -/
inductive Overlooks (incoming : Incoming) : Prop where
  | query
      (isGet : incoming.method = "GET")
      (selects : incoming.selects = true)
  | read
      (isGet : incoming.method = "GET")
      (selectsNot : incoming.selects = false)
      (notAny : incoming.revision? ifNoneMatch ≠ some anyTag)
  | post
      (isPost : incoming.method = "POST")
  | put
      (isPut : incoming.method = "PUT")
      (notBoth :
        incoming.revision? ifMatch = none ∨
          incoming.revision? ifNoneMatch = none)

/-! ## What is asked for without the conditions -/

/-- Without its conditions, a request keeps the text of every other field. -/
theorem text?_unconditional
    {header : String}
    (isKept : header ∉ conditions) :
    incoming.unconditional.headers.text? header =
      incoming.headers.text? header :=
  incoming.headers.text?_without isKept

theorem has_unconditional
    {header : String}
    (isLeftOut : header ∈ conditions) :
    incoming.unconditional.headers.has header = false :=
  incoming.headers.has_without isLeftOut

/-- The expected revision stays when the ignored conditions go. -/
theorem ifMatch_unconditional :
    incoming.unconditional.revision? ifMatch = incoming.revision? ifMatch := by
  rw [revision?, revision?, text?_unconditional (by decide)]

theorem ifNoneMatch_unconditional :
    incoming.unconditional.revision? ifNoneMatch = none := by
  rw [revision?, Headers.text?_of_absent (has_unconditional (by decide))]
  rfl

theorem checkContentType_unconditional :
    incoming.unconditional.checkContentType = incoming.checkContentType := by
  unfold checkContentType
  rw [text?_unconditional (by decide)]
  rfl

theorem checkReadable_unconditional :
    incoming.unconditional.checkReadable = .ok () := by
  rw [checkReadable_eq_ok_iff, ifNoneMatch_unconditional]
  simp

theorem checkOneCondition_unconditional :
    incoming.unconditional.checkOneCondition = .ok () :=
  checkOneCondition_eq_ok_iff.mpr (.inr ifNoneMatch_unconditional)

theorem refuseIfNoneMatch_unconditional :
    incoming.unconditional.refuseIfNoneMatch = .ok () :=
  refuseIfNoneMatch_eq_ok_iff.mpr (has_unconditional (by decide))

/-- A GET minds `If-None-Match: *` where it reads, and no other condition. -/
theorem get_eq_ok_iff :
    incoming.get named groups = .ok adapted ↔
      (selectors.any (has groups) = true ∨
          incoming.revision? ifNoneMatch ≠ some anyTag) ∧
        incoming.unconditional.get named groups = .ok adapted := by
  unfold get
  split
  · rename_i selecting
    simp only [selecting, true_or, true_and]
  · rename_i selectingNot
    rw [Failure.guard_eq_ok_iff, checkReadable_unconditional,
      checkReadable_eq_ok_iff, or_iff_right selectingNot]
    rfl

/-- A PUT minds that it does not state both conditions. -/
theorem put_eq_ok_iff :
    incoming.put named groups = .ok adapted ↔
      (incoming.revision? ifMatch = none ∨
          incoming.revision? ifNoneMatch = none) ∧
        incoming.unconditional.put named groups = .ok adapted := by
  unfold put
  rw [Failure.guard_eq_ok_iff, checkOneCondition_unconditional,
    checkOneCondition_eq_ok_iff, ifMatch_unconditional]
  rfl

/-- A POST minds no condition. -/
theorem post_unconditional :
    incoming.unconditional.post named groups = incoming.post named groups :=
  rfl

/-- A DELETE refuses `If-None-Match`. -/
theorem delete_eq_ok_iff :
    incoming.delete named groups = .ok adapted ↔
      incoming.headers.has ifNoneMatch = false ∧
        incoming.unconditional.delete named groups = .ok adapted := by
  unfold delete
  rw [Failure.guard_eq_ok_iff, refuseIfNoneMatch_unconditional,
    refuseIfNoneMatch_eq_ok_iff, ifMatch_unconditional]
  rfl

theorem patch_eq_ok_iff :
    incoming.patch named groups = .ok adapted ↔
      incoming.headers.has ifNoneMatch = false ∧
        incoming.unconditional.patch named groups = .ok adapted := by
  unfold patch
  rw [Failure.guard_eq_ok_iff, refuseIfNoneMatch_unconditional,
    refuseIfNoneMatch_eq_ok_iff, ifMatch_unconditional]
  rfl

/-! ## The conditions as a whole -/

namespace Overlooks

/-- Only a GET, a POST or a PUT overlooks conditions. -/
theorem isMethod
    (overlooks : incoming.Overlooks) :
    incoming.method ∈ ["GET", "POST", "PUT"] := by
  cases overlooks with
  | query isGet => simp [isGet]
  | read isGet => simp [isGet]
  | post isPost => simp [isPost]
  | put isPut => simp [isPut]

/-- A GET overlooks conditions where it selects or does not exclude any revision. -/
theorem iff_of_get
    (isGet : incoming.method = "GET") :
    incoming.Overlooks ↔
      incoming.selects = true ∨ incoming.revision? ifNoneMatch ≠ some anyTag := by
  constructor
  · intro overlooks
    cases overlooks with
    | query _ selects => exact .inl selects
    | read _ _ notAny => exact .inr notAny
    | post isPost => simp [isGet] at isPost
    | put isPut => simp [isGet] at isPut
  · intro passes
    cases isSelecting : incoming.selects with
    | true => exact .query isGet isSelecting
    | false =>
        rw [isSelecting] at passes
        exact .read isGet isSelecting (passes.resolve_left Bool.false_ne_true)

/-- A PUT overlooks conditions unless it states both. -/
theorem iff_of_put
    (isPut : incoming.method = "PUT") :
    incoming.Overlooks ↔
      incoming.revision? ifMatch = none ∨
        incoming.revision? ifNoneMatch = none := by
  constructor
  · intro overlooks
    cases overlooks with
    | query isGet => simp [isPut] at isGet
    | read isGet => simp [isPut] at isGet
    | post isPost => simp [isPut] at isPost
    | put _ notBoth => exact notBoth
  · exact .put isPut

end Overlooks

/-- With a revision not to have, a method succeeds where it overlooks it. -/
theorem byMethod_eq_ok_iff
    (carries : incoming.headers.has ifNoneMatch = true) :
    incoming.byMethod named = .ok adapted ↔
      incoming.Overlooks ∧
        incoming.unconditional.byMethod named = .ok adapted := by
  have sameMethod : incoming.unconditional.method = incoming.method := rfl
  have sameQuery : incoming.unconditional.query = incoming.query := rfl
  have notOther :
      incoming.method ∉ ["GET", "POST", "PUT"] → ¬ incoming.Overlooks :=
    mt Overlooks.isMethod
  -- The method is the same on both sides, so that it is split on once.
  unfold byMethod
  rw [sameMethod, sameQuery]
  dsimp only
  split
  · rename_i isGet
    rw [get_eq_ok_iff, Overlooks.iff_of_get isGet]
    rfl
  · rename_i isPut
    rw [put_eq_ok_iff, Overlooks.iff_of_put isPut]
  · rename_i isPost
    rw [post_unconditional, and_iff_right (Overlooks.post isPost)]
  · rename_i isDelete
    have overlooksNot := notOther (by simp [isDelete])
    rw [delete_eq_ok_iff, carries]
    simp only [overlooksNot, Bool.true_eq_false, false_and]
  · rename_i isPatch
    have overlooksNot := notOther (by simp [isPatch])
    rw [patch_eq_ok_iff, carries]
    simp only [overlooksNot, Bool.true_eq_false, false_and]
  · simp only [reduceCtorEq, and_false]

/-- A request for creating a resource that overwrites none, whatever its store. -/
structure CreatesOnly
    (incoming : Incoming)
    (request : Request) : Prop where
  asks :
    ∃ named id content,
      incoming.name = .ok named ∧
        named.parent? = some request.name ∧
        named.leaf? = some id ∧
        incoming.content = .ok content ∧
        request.operation = .create content (some id)
  keeps :
    ∀ (store : Store) (freshId : String) (name : Name) (key : String)
      (entry : Entry),
      store.entries.get? key = some entry →
        (store.after ⟨freshId, request.withName name⟩).entries.get? key =
          some entry

/-- A PUT without an expected revision asks for a create with the id it names. -/
theorem Asks.of_put
    {name : Name}
    {operation : Operation}
    (isPut : incoming.method = "PUT")
    (insistsNot : incoming.revision? ifMatch = none)
    (asks : incoming.Asks named name operation) :
    ∃ id content,
      named.parent? = some name ∧
        named.leaf? = some id ∧
        incoming.content = .ok content ∧
        operation = .create content (some id) := by
  have isOnly : ∀ method, method ≠ "PUT" → incoming.method ≠ method := by
    rintro method notPut rfl
    exact notPut isPut
  cases asks with
  | read isGet => exact absurd isGet (isOnly _ (by decide))
  | query isGet => exact absurd isGet (isOnly _ (by decide))
  | create isPost => exact absurd isPost (isOnly _ (by decide))
  | action isPost => exact absurd isPost (isOnly _ (by decide))
  | delete isDelete => exact absurd isDelete (isOnly _ (by decide))
  | patch isPatch => exact absurd isPatch (isOnly _ (by decide))
  | update _ _ insists =>
      rw [insistsNot] at insists
      cases insists
  | createUnder _ hasContent _ isParent isLeaf =>
      exact ⟨_, _, isParent, isLeaf, hasContent, rfl⟩

/-- A PUT without an expected revision only creates. -/
theorem createsOnly_of_put
    (isPut : incoming.method = "PUT")
    (insistsNot : incoming.revision? ifMatch = none)
    (isAdapted : incoming.adapt = .ok adapted) :
    incoming.CreatesOnly adapted.request := by
  obtain ⟨named, isNamed, asks⟩ := Incoming.adapt_eq_ok isAdapted
  obtain ⟨id, content, isParent, isLeaf, hasContent, isCreate⟩ :=
    asks.of_put isPut insistsNot
  refine
    ⟨⟨named, id, content, isNamed, isParent, isLeaf, hasContent, isCreate⟩, ?_⟩
  intro store freshId name key entry isStored
  refine Store.get?_after_of_create ?_ isStored
  exact congrArg Operation.verb isCreate

/-- With a condition a request succeeds where it overlooks the condition. -/
theorem adapt_eq_ok_iff_overlooks
    (carries : ∃ header ∈ conditions, incoming.headers.has header = true) :
    incoming.adapt = .ok adapted ↔
      (∀ header ∈ refusedHeaders, incoming.headers.has header = false) ∧
        incoming.Overlooks ∧
        incoming.unconditional.adapt = .ok adapted := by
  have noneRefused :
      ∀ header ∈ refusedHeaders,
        incoming.unconditional.headers.has header = false :=
    fun header isRefused => has_unconditional (List.mem_cons_of_mem _ isRefused)
  have sameName : incoming.unconditional.name = incoming.name := rfl
  rw [adapt_eq_ok_iff, adapt_eq_ok_iff, checkContentType_unconditional,
    sameName]
  by_cases passes :
      ∀ header ∈ refusedHeaders, incoming.headers.has header = false
  · have carriesRevision : incoming.headers.has ifNoneMatch = true := by
      obtain ⟨header, isCondition, isGiven⟩ := carries
      rcases List.mem_cons.mp isCondition with isRevision | isRefused
      · exact isRevision ▸ isGiven
      · rw [passes header isRefused] at isGiven
        cases isGiven
    simp only [byMethod_eq_ok_iff carriesRevision, and_iff_right passes,
      and_iff_right noneRefused]
    constructor
    · rintro ⟨isJson, named, isNamed, overlooks, isAdapted⟩
      exact ⟨overlooks, isJson, named, isNamed, isAdapted⟩
    · rintro ⟨overlooks, isJson, named, isNamed, isAdapted⟩
      exact ⟨isJson, named, isNamed, overlooks, isAdapted⟩
  · simp only [passes, false_and, and_false]

/--
A request with a condition on time is refused, and so is one to delete or to
patch with a revision not to have. But to query or to post, to read unless no
revision is to be had and to put without naming a revision to change besides is
carried out, and exactly as if there was no condition. Only what is put where no
revision is to be had is created, and changes nothing that there is.
-/
theorem conditions_overlooked_iff
    (carries : ∃ header ∈ conditions, incoming.headers.has header = true) :
    (∀ adapted,
      incoming.adapt = .ok adapted ↔
        (∀ header ∈ refusedHeaders, incoming.headers.has header = false) ∧
          incoming.Overlooks ∧
          incoming.unconditional.adapt = .ok adapted) ∧
      (incoming.method = "PUT" →
        incoming.revision? ifNoneMatch = some anyTag →
          ∀ adapted, incoming.adapt = .ok adapted →
            incoming.CreatesOnly adapted.request) := by
  constructor
  · intro adapted
    exact adapt_eq_ok_iff_overlooks carries
  · intro isPut refusesAll adapted isAdapted
    have overlooks := ((adapt_eq_ok_iff_overlooks carries).mp isAdapted).2.1
    refine createsOnly_of_put isPut ?_ isAdapted
    refine ((Overlooks.iff_of_put isPut).mp overlooks).resolve_right ?_
    rw [refusesAll]
    exact Option.some_ne_none _

/-- A request with a revision not to have and an empty array as its body. -/
def unlessAt
    (method path : String)
    (query : List (String × String))
    (tag : String) :
    Incoming :=
  ⟨method, path, query, ⟨[(ifNoneMatch, Text.bytes tag)]⟩, Text.bytes "[]"⟩

/-- A user is put unless there is one. -/
theorem created_unless_there_is_one :
    let incoming := unlessAt "PUT" "/users/1" [] "*"
    (∃ header ∈ conditions, incoming.headers.has header = true) ∧
      incoming.revision? ifNoneMatch = some anyTag ∧
      incoming.Overlooks ∧
      ∃ adapted,
        incoming.adapt = .ok adapted ∧ incoming.CreatesOnly adapted.request := by
  intro incoming
  have carries :
      ∃ header ∈ conditions, incoming.headers.has header = true := by
    decide
  have refusesAll : incoming.revision? ifNoneMatch = some anyTag := by
    decide +kernel
  have isAdapted :
      incoming.adapt =
        .ok
          ⟨⟨⟨["users"], by decide⟩, [], [], .create (.array []) (some "1")⟩,
            false⟩ := by
    decide +kernel
  obtain ⟨succeeds, creates⟩ := conditions_overlooked_iff carries
  have overlooks := ((succeeds _).mp isAdapted).2.1
  exact
    ⟨carries, refusesAll, overlooks, _, isAdapted,
      creates rfl refusesAll _ isAdapted⟩

/-- A user is posted, read and put in spite of a revision not to have. -/
theorem carried_out_in_spite_of_revision :
    (unlessAt "POST" "/users" [("_action", "create")] "\"5\"").adapt =
        .ok
          ⟨⟨⟨["users"], by decide⟩, [], [], .create (.array []) none⟩, false⟩ ∧
      (unlessAt "GET" "/users/1" [] "\"5\"").adapt =
        .ok ⟨⟨⟨["users", "1"], by decide⟩, [], [], .read⟩, false⟩ ∧
      (unlessAt "PUT" "/users/1" [] "\"5\"").adapt =
        .ok
          ⟨⟨⟨["users"], by decide⟩, [], [], .create (.array []) (some "1")⟩,
            false⟩ := by
  decide +kernel

end Incoming

end ResourceServer
