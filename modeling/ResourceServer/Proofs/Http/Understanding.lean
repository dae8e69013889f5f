import ResourceServer.Http.Server
import ResourceServer.Proofs.Request.Building

namespace ResourceServer

/-!
# What HTTP requests ask for

The parameters of a query change neither the resource that a request is for nor
what it asks of it: those are settled by the method, the path, the conditions
and the body alone. Every context of a request has the first advice as its own,
under a single name.
-/

/-- A guarded computation succeeds exactly when its check passes and it succeeds
itself. -/
theorem Failure.guard_eq_ok_iff
    {α : Type}
    {check : Except Failure Unit}
    {next : Except Failure α}
    {last : α} :
    (check >>= fun _ => next) = .ok last ↔ check = .ok () ∧ next = .ok last := by
  cases check with
  | error failure =>
      simp only [bind, Except.bind, reduceCtorEq, false_and]
  | ok checked =>
      simp only [bind, Except.bind, true_and]

/-- No advice is nearer than that of the own frame. -/
theorem Context.advice_of_own
    {context : Context}
    {advice : Advice}
    (isOwn : context.own.frame = .advice advice) :
    context.advice = .ok advice := by
  rw [Context.advice, Context.nearest, Context.nodes, List.findSome?_cons,
    isOwn]
  rfl

namespace Draft

/-- No setting turns a request into one for another resource or of another verb. -/
theorem verb_setAll
    (draft : Draft)
    (settings : List Setting) :
    (draft.setAll settings).request.name = draft.request.name ∧
      (draft.setAll settings).request.verb = draft.request.verb := by
  rw [request_setAll]
  exact ⟨rfl, Request.verb_given ..⟩

/-- The draft is for this resource and asks this of it. -/
structure Targets
    (draft : Draft)
    (name : Name)
    (operation : Operation) : Prop where
  name : draft.request.name = name
  operation : draft.request.operation = operation

namespace Targets

variable
  {draft : Draft}
  {name : Name}
  {operation : Operation}

/-- Asking for fields changes neither the name nor the operation. -/
theorem fields
    (targets : draft.Targets name operation)
    (pointers : List String) :
    (draft.setAll (pointers.map .field)).Targets name operation := by
  unfold setAll
  induction pointers generalizing draft with
  | nil =>
      exact targets
  | cons pointer rest inductionHypothesis =>
      have targetsStill : (draft.set (.field pointer)).Targets name operation :=
        ⟨targets.name, targets.operation⟩
      exact inductionHypothesis targetsStill

theorem parameter
    (targets : draft.Targets name operation)
    (key value : String) :
    (draft.set (.parameter key value)).Targets name operation := by
  rw [set_eq]
  split
  · rw [Request.given_parameter]
    exact ⟨targets.name, targets.operation⟩
  · exact ⟨targets.name, targets.operation⟩

end Targets

theorem build_eq_ok
    {draft : Draft}
    {request : Request}
    (built : draft.build = .ok request) :
    request = draft.request := by
  unfold build at built
  split at built
  · cases built
  · split at built
    · cases built
    · exact (Except.ok.inj built).symm

end Draft

namespace Protocol

/-- An expected revision is put into a delete. -/
theorem targets_insisting_delete
    (name : Name)
    (revision : Option String) :
    (insisting (Draft.start name (.delete none)) revision).Targets name
      (.delete revision) := by
  cases revision <;> exact ⟨rfl, rfl⟩

theorem targets_insisting_patch
    (name : Name)
    (operations : List PatchOperation)
    (revision : Option String) :
    (insisting (Draft.start name (.patch operations none)) revision).Targets
      name (.patch operations revision) := by
  cases revision <;> exact ⟨rfl, rfl⟩

variable
  {name : Name}
  {operation : Operation}

/-- A group of common parameters changes neither the name nor the operation. -/
theorem targets_applyGroup
    {consumed : List Parameter}
    {common applied : Common}
    {group : Group}
    (targets : common.draft.Targets name operation)
    (isApplied : applyGroup consumed common group = .ok applied) :
    applied.draft.Targets name operation := by
  unfold applyGroup at isApplied
  split at isApplied
  · cases isApplied
    exact targets
  · split at isApplied
    · cases isApplied
      exact targets.fields _
    · split at isApplied
      · obtain ⟨value, _, isApplied⟩ := Name.bind_eq_ok_iff.mp isApplied
        obtain ⟨pretty, _, isApplied⟩ := Name.bind_eq_ok_iff.mp isApplied
        cases isApplied
        exact targets
      · obtain ⟨value, _, isApplied⟩ := Name.bind_eq_ok_iff.mp isApplied
        cases isApplied
        exact targets.parameter group.name value

/-- The parameters of a query leave the resource and the operation alone. -/
theorem targets_foldlM
    {consumed : List Parameter}
    {common applied : Common}
    {groups : List Group}
    (targets : common.draft.Targets name operation)
    (isApplied : groups.foldlM (applyGroup consumed) common = .ok applied) :
    applied.draft.Targets name operation := by
  induction groups generalizing common with
  | nil =>
      cases isApplied
      exact targets
  | cons group rest inductionHypothesis =>
      rw [List.foldlM_cons] at isApplied
      obtain ⟨next, isNext, isApplied⟩ := Name.bind_eq_ok_iff.mp isApplied
      exact inductionHypothesis (targets_applyGroup targets isNext) isApplied

/-- A finished request keeps the name and the operation it was begun with. -/
theorem finish_eq_ok
    {draft : Draft}
    {groups : List Group}
    {consumed : List Parameter}
    {adapted : Adapted}
    (targets : draft.Targets name operation)
    (finished : finish draft groups consumed = .ok adapted) :
    adapted.request.name = name ∧ adapted.request.operation = operation := by
  obtain ⟨common, isCommon, finished⟩ := Name.bind_eq_ok_iff.mp finished
  obtain ⟨request, built, finished⟩ := Name.bind_eq_ok_iff.mp finished
  have targetsStill : common.draft.Targets name operation :=
    targets_foldlM targets isCommon
  cases finished
  cases Draft.build_eq_ok built
  exact ⟨targetsStill.name, targetsStill.operation⟩

end Protocol

namespace Incoming

open Protocol

/-- Whether the query selects what it is about. -/
def selects (incoming : Incoming) : Bool :=
  selectors.any (has (Protocol.groups incoming.query))

/-- What a request can ask of which resource, when its path reads as `named`. -/
inductive Asks
    (incoming : Incoming)
    (named : Name) :
    Name → Operation → Prop where
  | read
      (isGet : incoming.method = "GET") :
      Asks incoming named named .read
  | query
      {query : Query}
      (isGet : incoming.method = "GET") :
      Asks incoming named named (.query query)
  | update
      {content : Json}
      {revision : String}
      (isPut : incoming.method = "PUT")
      (hasContent : incoming.content = .ok content)
      (insists : incoming.revision? ifMatch = some revision) :
      Asks incoming named named (.update content (some revision))
  | createUnder
      {content : Json}
      {parent : Name}
      {id : String}
      (isPut : incoming.method = "PUT")
      (hasContent : incoming.content = .ok content)
      (insistsNot : incoming.revision? ifMatch = none)
      (isParent : named.parent? = some parent)
      (isLeaf : named.leaf? = some id) :
      Asks incoming named parent (.create content (some id))
  | create
      {content : Json}
      (isPost : incoming.method = "POST")
      (hasContent : incoming.content = .ok content) :
      Asks incoming named named (.create content none)
  | action
      {action : String}
      {content : Json}
      (isPost : incoming.method = "POST") :
      Asks incoming named named (.action action content)
  | delete
      (isDelete : incoming.method = "DELETE") :
      Asks incoming named named (.delete (incoming.revision? ifMatch))
  | patch
      {content : Json}
      {operations : List PatchOperation}
      (isPatch : incoming.method = "PATCH")
      (hasContent : incoming.content = .ok content)
      (reads : PatchOperation.listOfJson content = .ok operations) :
      Asks incoming named named
        (.patch operations (incoming.revision? ifMatch))

variable
  {incoming : Incoming}
  {named : Name}
  {groups : List Group}
  {adapted : Adapted}

/-- A GET that can be read asks for what it was adapted to. -/
theorem get_eq_ok
    (isGet : incoming.method = "GET")
    (isAdapted : incoming.get named groups = .ok adapted) :
    incoming.Asks named adapted.request.name adapted.request.operation := by
  unfold get at isAdapted
  split at isAdapted
  · obtain ⟨settings, _, finished⟩ := Name.bind_eq_ok_iff.mp isAdapted
    obtain ⟨sameName, sameVerb⟩ :=
      (Draft.start named (.query {})).verb_setAll settings
    obtain ⟨isName, isOperation⟩ := finish_eq_ok ⟨rfl, rfl⟩ finished
    rw [isName, isOperation, sameName]
    unfold Request.verb at sameVerb
    generalize
      ((Draft.start named (.query {})).setAll settings).request.operation =
        operation at sameVerb
    cases operation with
    | query =>
        exact .query isGet
    | create | read | update | delete | patch | action =>
        cases sameVerb
  · obtain ⟨_, _, isAdapted⟩ := Name.bind_eq_ok_iff.mp isAdapted
    obtain ⟨_, _, finished⟩ := Name.bind_eq_ok_iff.mp isAdapted
    obtain ⟨isName, isOperation⟩ := finish_eq_ok ⟨rfl, rfl⟩ finished
    rw [isName, isOperation]
    exact .read isGet

theorem put_eq_ok
    (isPut : incoming.method = "PUT")
    (isAdapted : incoming.put named groups = .ok adapted) :
    incoming.Asks named adapted.request.name adapted.request.operation := by
  obtain ⟨_, _, isAdapted⟩ := Name.bind_eq_ok_iff.mp isAdapted
  obtain ⟨content, hasContent, isAdapted⟩ :=
    Name.bind_eq_ok_iff.mp isAdapted
  split at isAdapted
  · rename_i revision _ _ insists
    obtain ⟨isName, isOperation⟩ := finish_eq_ok ⟨rfl, rfl⟩ isAdapted
    rw [isName, isOperation]
    exact .update isPut hasContent insists
  · rename_i parent id insistsNot isParent isLeaf
    obtain ⟨isName, isOperation⟩ := finish_eq_ok ⟨rfl, rfl⟩ isAdapted
    rw [isName, isOperation]
    exact .createUnder isPut hasContent insistsNot isParent isLeaf
  · cases isAdapted

theorem post_eq_ok
    (isPost : incoming.method = "POST")
    (isAdapted : incoming.post named groups = .ok adapted) :
    incoming.Asks named adapted.request.name adapted.request.operation := by
  obtain ⟨action, _, isAdapted⟩ := Name.bind_eq_ok_iff.mp isAdapted
  split at isAdapted
  · cases isAdapted
  · split at isAdapted
    · obtain ⟨content, hasContent, finished⟩ :=
        Name.bind_eq_ok_iff.mp isAdapted
      obtain ⟨isName, isOperation⟩ := finish_eq_ok ⟨rfl, rfl⟩ finished
      rw [isName, isOperation]
      exact .create isPost hasContent
    · obtain ⟨content, _, finished⟩ := Name.bind_eq_ok_iff.mp isAdapted
      obtain ⟨isName, isOperation⟩ := finish_eq_ok ⟨rfl, rfl⟩ finished
      rw [isName, isOperation]
      exact .action isPost

theorem delete_eq_ok
    (isDelete : incoming.method = "DELETE")
    (isAdapted : incoming.delete named groups = .ok adapted) :
    incoming.Asks named adapted.request.name adapted.request.operation := by
  obtain ⟨_, _, finished⟩ := Name.bind_eq_ok_iff.mp isAdapted
  obtain ⟨isName, isOperation⟩ :=
    finish_eq_ok (targets_insisting_delete named _) finished
  rw [isName, isOperation]
  exact .delete isDelete

theorem patch_eq_ok
    (isPatch : incoming.method = "PATCH")
    (isAdapted : incoming.patch named groups = .ok adapted) :
    incoming.Asks named adapted.request.name adapted.request.operation := by
  obtain ⟨_, _, isAdapted⟩ := Name.bind_eq_ok_iff.mp isAdapted
  obtain ⟨content, hasContent, isAdapted⟩ :=
    Name.bind_eq_ok_iff.mp isAdapted
  obtain ⟨operations, reads, finished⟩ := Name.bind_eq_ok_iff.mp isAdapted
  obtain ⟨isName, isOperation⟩ :=
    finish_eq_ok (targets_insisting_patch named operations _) finished
  rw [isName, isOperation]
  exact .patch isPatch hasContent reads

/-- The name of a request is parsed from its path. -/
theorem name_eq_ok
    (isNamed : incoming.name = .ok named) :
    Name.parse incoming.path = .ok named := by
  unfold name at isNamed
  split at isNamed
  · cases isNamed
    assumption
  · cases isNamed

theorem name_of_parse
    (reads : Name.parse incoming.path = .ok named) :
    incoming.name = .ok named := by
  rw [name, reads]

/-- The conditions pass exactly when no refused header is there. -/
theorem checkConditions_eq_ok_iff :
    incoming.checkConditions = .ok () ↔
      ∀ header ∈ refusedHeaders, incoming.headers.has header = false := by
  unfold checkConditions
  split
  · rename_i header isFirst
    have isRefused := List.mem_of_find?_eq_some isFirst
    have isGiven := List.find?_some isFirst
    simp only [reduceCtorEq, false_iff]
    intro noneGiven
    rw [noneGiven header isRefused] at isGiven
    cases isGiven
  · rename_i noneFound
    simpa using noneFound

/-- A read passes unless its `If-None-Match` stands for any revision. -/
theorem checkReadable_eq_ok_iff :
    incoming.checkReadable = .ok () ↔
      incoming.revision? ifNoneMatch ≠ some anyTag := by
  unfold checkReadable
  split <;> simp_all

/-- A request may set one of the two conditions, not both. -/
theorem checkOneCondition_eq_ok_iff :
    incoming.checkOneCondition = .ok () ↔
      incoming.revision? ifMatch = none ∨
        incoming.revision? ifNoneMatch = none := by
  unfold checkOneCondition
  cases incoming.revision? ifMatch <;>
    cases incoming.revision? ifNoneMatch <;> simp

/-- `If-None-Match` is refused wherever it stands. -/
theorem refuseIfNoneMatch_eq_ok_iff :
    incoming.refuseIfNoneMatch = .ok () ↔
      incoming.headers.has ifNoneMatch = false := by
  unfold refuseIfNoneMatch
  split <;> simp_all

/-- What a request asks for by its method, once its headers are checked. -/
def byMethod
    (incoming : Incoming)
    (named : Name) :
    Except Failure Adapted :=
  let groups := Protocol.groups incoming.query
  match incoming.method with
  | "GET" => incoming.get named groups
  | "PUT" => incoming.put named groups
  | "POST" => incoming.post named groups
  | "DELETE" => incoming.delete named groups
  | "PATCH" => incoming.patch named groups
  | method => .error (.notSupported s!"method {method} is not supported")

/-- A request is adapted exactly when all its checks pass and its method can be read. -/
theorem adapt_eq_ok_iff :
    incoming.adapt = .ok adapted ↔
      incoming.checkContentType = .ok () ∧
        (∀ header ∈ refusedHeaders, incoming.headers.has header = false) ∧
        ∃ named, incoming.name = .ok named ∧
          incoming.byMethod named = .ok adapted := by
  rw [← checkConditions_eq_ok_iff, ← Name.bind_eq_ok_iff,
    ← Failure.guard_eq_ok_iff, ← Failure.guard_eq_ok_iff]
  rfl

/-- A request that is understood asks for one of these things. -/
theorem adapt_eq_ok
    (isAdapted : incoming.adapt = .ok adapted) :
    ∃ named,
      incoming.name = .ok named ∧
        incoming.Asks named adapted.request.name
          adapted.request.operation := by
  obtain ⟨-, -, named, isNamed, isAdapted⟩ := adapt_eq_ok_iff.mp isAdapted
  refine ⟨named, isNamed, ?_⟩
  unfold byMethod at isAdapted
  dsimp only at isAdapted
  split at isAdapted
  · rename_i isGet
    exact get_eq_ok isGet isAdapted
  · rename_i isPut
    exact put_eq_ok isPut isAdapted
  · rename_i isPost
    exact post_eq_ok isPost isAdapted
  · rename_i isDelete
    exact delete_eq_ok isDelete isAdapted
  · rename_i isPatch
    exact patch_eq_ok isPatch isAdapted
  · cases isAdapted

/-! ## The context of a request -/

/-- The first advice goes by one name only. -/
theorem name_of_mem_firstAdvice
    {settings : ApiSettings}
    {version : ApiVersion}
    {one : String × List String}
    (member : one ∈ (firstAdvice settings version).values) :
    one.1 = ApiVersion.header := by
  unfold firstAdvice at member
  dsimp only at member
  split at member
  · rename_i advised isPut
    unfold Advice.put at isPut
    split at isPut
    · cases isPut
    · split at isPut
      · cases isPut
      · cases isPut
        cases List.mem_singleton.mp member
        rfl
  · cases member

/-- The own frame of a request's context holds the first advice. -/
theorem frame_of_context
    {settings : ApiSettings}
    {ids after : IdSupply}
    {context : Context}
    (isContext : incoming.context settings ids = .ok (context, after)) :
    ∃ version,
      context.own.frame = .advice (firstAdvice settings version) := by
  unfold Incoming.context at isContext
  cases isFrames : incoming.frames settings with
  | error failure =>
      rw [isFrames] at isContext
      cases isContext
  | ok frames =>
      rw [isFrames] at isContext
      obtain ⟨accepted, _, isFrames⟩ := Name.bind_eq_ok_iff.mp isFrames
      obtain ⟨version, _, isFrames⟩ := Name.bind_eq_ok_iff.mp isFrames
      cases isFrames
      refine ⟨version, ?_⟩
      simp only [Except.map, Except.ok.injEq, List.foldl_cons,
        List.foldl_append, List.foldl_nil, Prod.mk.injEq] at isContext
      obtain ⟨rfl, -⟩ := isContext
      rfl

/-- The advice of a request's own context is the one every exchange begins with. -/
theorem advice_of_context
    {settings : ApiSettings}
    {ids after : IdSupply}
    {context : Context}
    (isContext : incoming.context settings ids = .ok (context, after)) :
    ∃ version, context.advice = .ok (firstAdvice settings version) := by
  obtain ⟨version, isOwn⟩ := frame_of_context isContext
  exact ⟨version, Context.advice_of_own isOwn⟩

end Incoming

end ResourceServer
