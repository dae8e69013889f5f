import Mathlib.Data.List.Induction
import ResourceServer.Proofs.Http.ResourcePath

namespace ResourceServer

/-!
# A mounted store as clients see it

To its clients a store behind one route is a map with revisions. The last
answer that shows a resource stands until the resource changes or is deleted,
and an entity tag names a revision. One exchange does one of four things to the
store; from that it follows for whole runs that the answers which stand show the
entries that are stored.
-/

namespace Server

/-! ## What one exchange does -/

/-- What an exchange with a mounted store can come to. -/
inductive Effect
    (template : Template)
    (store : Store)
    (incoming : Incoming)
    (outgoing : Outgoing) :
    Store → Prop where
  | created
      {id : String}
      {content : Json}
      (isPut : incoming.method = "PUT")
      (isInstance : template.instance? incoming.path = some id)
      (isCreated : outgoing.status = 201)
      (shown : outgoing.Shows ⟨id, 0, content⟩) :
      Effect template store incoming outgoing
        (store.insert ⟨id, 0, content⟩)
  | revised
      {id : String}
      {entry : Entry}
      {content : Json}
      (isWrite : incoming.method = "PUT" ∨ incoming.method = "PATCH")
      (isInstance : template.instance? incoming.path = some id)
      (found : store.find? id = some entry)
      (isOk : outgoing.status = 200)
      (shown : outgoing.Shows (entry.revise content)) :
      Effect template store incoming outgoing
        (store.insert (entry.revise content))
  | deleted
      {id : String}
      (isDelete : incoming.method = "DELETE")
      (isInstance : template.instance? incoming.path = some id)
      (isOk : outgoing.status = 200) :
      Effect template store incoming outgoing (store.erase id)
  | unchanged
      (changesNothing :
        incoming.method = "GET" ∨ 400 ≤ outgoing.status) :
      Effect template store incoming outgoing store

variable
  {settings : ApiSettings}
  {template : Template}
  {slot : Nat}
  {incoming : Incoming}
  {world : World}
  {store : Store}
  {outgoing : Outgoing}
  {result : Except Failure Response}
  {asked : Name}
  {operation : Operation}

/-- A plain request for a resource is answered with all of it. -/
theorem shown_of_answered
    {entry : Entry}
    (agree :
      Outgoing.AgreeOn "etag" outgoing
        (Outgoing.plain result
          (layout ⟨⟨asked, [], [], operation⟩, false⟩)))
    (answered : result = .ok (.resource entry.resource)) :
    outgoing.Shows entry ∧
      outgoing.status = if operation.verb = .create then 201 else 200 := by
  subst answered
  have isPlain :
      Outgoing.plain (.ok (.resource entry.resource))
          (layout ⟨⟨asked, [], [], operation⟩, false⟩) =
        Outgoing.ofResource entry.resource
          (layout ⟨⟨asked, [], [], operation⟩, false⟩) :=
    rfl
  rw [isPlain] at agree
  refine ⟨(Outgoing.shows_ofResource entry rfl).of_agreeOn agree, ?_⟩
  rw [agree.status, Outgoing.status_ofResource]
  simp only [layout, Option.some.injEq]
  rfl

theorem status_of_failed
    {layout : Layout}
    {failure : Failure}
    (agree :
      Outgoing.AgreeOn "etag" outgoing (Outgoing.plain result layout))
    (failed : result = .error failure) :
    outgoing.status = failure.status := by
  subst failed
  exact agree.status

/-- A request to write that is answered revises the entry of its path. -/
theorem Effect.of_written
    {freshId : String}
    {response : Response}
    (isMethod : incoming.method = "PUT" ∨ incoming.method = "PATCH")
    (isWrite : operation.verb = .update ∨ operation.verb = .patch)
    (rooted : incoming.path.toList.head? = some '/')
    (reads : Name.parse incoming.path = .ok asked)
    (covers : template.Covers asked)
    (agree :
      Outgoing.AgreeOn "etag" outgoing
        (Outgoing.plain
          (store.answer (callOn template freshId ⟨asked, [], [], operation⟩))
          (layout ⟨⟨asked, [], [], operation⟩, false⟩)))
    (answered :
      store.answer (callOn template freshId ⟨asked, [], [], operation⟩) =
        .ok response) :
    Effect template store incoming outgoing
      (store.after (callOn template freshId ⟨asked, [], [], operation⟩)) := by
  let call := callOn template freshId ⟨asked, [], [], operation⟩
  have asksWrite : call.request.verb = .update ∨ call.request.verb = .patch :=
    isWrite
  obtain ⟨id, entry, content, isId, found, -, -, rfl, isAfter⟩ :=
    Store.after_of_written asksWrite answered
  obtain ⟨shown, isStatus⟩ := shown_of_answered agree answered
  have notCreate : operation.verb ≠ .create := by
    rcases isWrite with isUpdate | isPatch
    · rw [isUpdate]
      decide
    · rw [isPatch]
      decide
  rw [if_neg notCreate] at isStatus
  have isInstance : template.instance? incoming.path = some id :=
    Template.instance?_of_forwarded rooted reads covers isId
  rw [isAfter]
  exact .revised isMethod isInstance found isStatus shown

/-- Every plain exchange has one of the effects. -/
theorem exchange_effect
    (settings : ApiSettings)
    (template : Template)
    (plain : incoming.Plain)
    (isAt : world.stores[slot]? = some store) :
    let exchanged := (mount settings template slot).exchange world incoming
    ∃ changed,
      Effect template store incoming exchanged.1 changed ∧
        exchanged.2.stores = world.stores.set slot changed := by
  intro exchanged
  rcases exchange_mount_cases settings incoming template isAt with
    ⟨refused, unchanged⟩ |
      ⟨adapted, freshId, hasPath, isAdapted, covers, agree, changed⟩
  · exact
      ⟨store, .unchanged (.inr refused),
        unchanged.trans (Store.set_self isAt).symm⟩
  · obtain ⟨named, asked, operation, isNamed, asks, rfl, notPost⟩ :=
      plain.adapt_eq_ok isAdapted
    have rooted : incoming.path.toList.head? = some '/' :=
      beq_iff_eq.mp hasPath
    have reads := Incoming.name_eq_ok isNamed
    refine ⟨_, ?_, changed⟩
    cases answered :
        store.answer (callOn template freshId ⟨asked, [], [], operation⟩) with
    | error failure =>
        rw [(Store.after_of_answer_error answered).1]
        refine .unchanged (.inr ?_)
        rw [status_of_failed agree answered]
        exact failure.le_status
    | ok response =>
        cases asks with
        | read isGet | query isGet =>
            rw [Store.after_of_observes rfl]
            exact .unchanged (.inl isGet)
        | update isPut hasContent insists =>
            exact
              .of_written (.inl isPut) (.inl rfl) rooted reads covers agree
                answered
        | createUnder isPut hasContent insistsNot isParent isLeaf =>
            obtain ⟨-, rfl, isAfter⟩ := Store.after_of_created rfl answered
            obtain ⟨shown, isCreated⟩ := shown_of_answered agree answered
            rw [isAfter]
            exact
              .created isPut
                (Template.instance?_of_parent rooted reads isParent isLeaf
                  covers (Store.whole_of_created rfl answered))
                isCreated shown
        | create isPost | action isPost =>
            exact absurd isPost notPost
        | delete isDelete =>
            obtain ⟨id, entry, isId, found, -, rfl, isAfter⟩ :=
              Store.after_of_deleted rfl answered
            obtain ⟨shown, isOk⟩ := shown_of_answered agree answered
            rw [isAfter]
            exact
              .deleted isDelete
                (Template.instance?_of_forwarded rooted reads covers isId)
                isOk
        | patch isPatch hasContent readsPatch =>
            exact
              .of_written (.inr isPatch) (.inr rfl) rooted reads covers agree
                answered

/-! ## Runs -/

/-- The requests of a run with their answers. -/
def transcript
    (server : Server)
    (world : World) :
    List Incoming → List (Incoming × Outgoing)
  | [] => []
  | incoming :: rest =>
      let exchanged := server.exchange world incoming
      (incoming, exchanged.1) :: server.transcript exchanged.2 rest

/-- The world after a run. -/
def afterAll
    (server : Server)
    (world : World)
    (history : List Incoming) : World :=
  history.foldl
    (fun world incoming => (server.exchange world incoming).2)
    world

/--
The answer that stands for a resource after one more exchange.

A resource is created by a PUT request that is answered with 201. From then on
each PUT or PATCH request that is answered with 200 replaces the answer, until a
DELETE request is.
-/
def follow
    (template : Template)
    (key : String)
    (standing : Option Outgoing)
    (exchanged : Incoming × Outgoing) : Option Outgoing :=
  let (incoming, outgoing) := exchanged
  if (template.instance? incoming.path).map Text.fold = some key then
    if incoming.method = "PUT" ∧ outgoing.status = 201 then
      some outgoing
    else if (incoming.method = "PUT" ∨ incoming.method = "PATCH") ∧
        outgoing.status = 200 then
      standing.map fun _ => outgoing
    else if incoming.method = "DELETE" ∧ outgoing.status = 200 then
      none
    else
      standing
  else
    standing

/-- The answer that stands for a resource after a run, if it exists. -/
def standing
    (template : Template)
    (key : String)
    (exchanges : List (Incoming × Outgoing)) : Option Outgoing :=
  exchanges.foldl (follow template key) none

/-- For each key the answer that stands shows the entry that is stored. -/
def Tracks
    (answers : String → Option Outgoing)
    (store : Store) : Prop :=
  ∀ key, Option.Rel Outgoing.Shows (answers key) (store.entries.get? key)

theorem follow_elsewhere
    {key : String}
    (standing : Option Outgoing)
    (isElsewhere : (template.instance? incoming.path).map Text.fold ≠ some key) :
    follow template key standing (incoming, outgoing) = standing :=
  if_neg isElsewhere

theorem follow_unchanged
    (key : String)
    (standing : Option Outgoing)
    (changesNothing : incoming.method = "GET" ∨ 400 ≤ outgoing.status) :
    follow template key standing (incoming, outgoing) = standing := by
  have notOk :
      ∀ status method,
        status < 400 →
          method ≠ "GET" →
            ¬ (incoming.method = method ∧ outgoing.status = status) := by
    rintro status method isBelow notGet ⟨isMethod, isStatus⟩
    rcases changesNothing with isGet | refused
    · exact notGet (isMethod.symm.trans isGet)
    · omega
  have notWritten :
      ¬ ((incoming.method = "PUT" ∨ incoming.method = "PATCH") ∧
        outgoing.status = 200) := by
    rintro ⟨isPut | isPatch, isOk⟩
    · exact notOk 200 "PUT" (by decide) (by decide) ⟨isPut, isOk⟩
    · exact notOk 200 "PATCH" (by decide) (by decide) ⟨isPatch, isOk⟩
  simp only [follow, if_neg (notOk 201 "PUT" (by decide) (by decide)),
    if_neg notWritten, if_neg (notOk 200 "DELETE" (by decide) (by decide)),
    ite_self]

/-- An exchange leaves every resource alone that its path is not of. -/
theorem Effect.get?_elsewhere
    {changed : Store}
    {key : String}
    (effect : Effect template store incoming outgoing changed)
    (keyed : store.Keyed)
    (isElsewhere : (template.instance? incoming.path).map Text.fold ≠ some key) :
    changed.entries.get? key = store.entries.get? key := by
  have isOther :
      ∀ {id}, template.instance? incoming.path = some id →
        key ≠ Text.fold id := by
    rintro id isInstance rfl
    rw [isInstance] at isElsewhere
    exact isElsewhere rfl
  cases effect with
  | created isPut isInstance =>
      rw [Store.get?_insert, if_neg (isOther isInstance)]
  | revised isWrite isInstance found =>
      have differs := isOther isInstance
      rw [← keyed.fold_id found] at differs
      rw [Store.get?_insert, Entry.revise_id, if_neg differs]
  | deleted isDelete isInstance =>
      rw [keyed.get?_erase, if_neg (isOther isInstance)]
  | unchanged =>
      rfl

/-- One exchange keeps the answers that stand in step with the store. -/
theorem Tracks.follow
    {answers : String → Option Outgoing}
    {changed : Store}
    (tracks : Tracks answers store)
    (keyed : store.Keyed)
    (effect : Effect template store incoming outgoing changed) :
    Tracks
      (fun key => follow template key (answers key) (incoming, outgoing))
      changed := by
  intro key
  show Option.Rel _ (Server.follow template key (answers key) _) _
  by_cases isHere : (template.instance? incoming.path).map Text.fold = some key
  · cases effect with
    | @created id content isPut isInstance isCreated shown =>
        rw [isInstance] at isHere
        cases isHere
        rw [Store.get?_insert, if_pos rfl]
        simp only [Server.follow, isInstance, isPut, isCreated,
          Option.map_some, and_self, if_true]
        exact .some shown
    | @revised id entry content isWrite isInstance found isOk shown =>
        rw [isInstance] at isHere
        cases isHere
        have stands := tracks (Text.fold id)
        have isStored : store.entries.get? (Text.fold id) = some entry := found
        rw [isStored] at stands
        rw [Store.get?_insert, Entry.revise_id,
          if_pos (keyed.fold_id found).symm]
        generalize answers (Text.fold id) = standing at stands
        cases stands with
        | some =>
            simp only [Server.follow, isInstance, isWrite, isOk,
              Option.map_some, Nat.reduceEqDiff, and_false, and_self,
              if_false, if_true]
            exact .some shown
    | @deleted id isDelete isInstance isOk =>
        rw [isInstance] at isHere
        cases isHere
        have notWritten :
            ¬ ("DELETE" = "PUT" ∨ "DELETE" = "PATCH") := by
          decide
        rw [keyed.get?_erase, if_pos rfl]
        simp only [Server.follow, isInstance, isDelete, isOk, notWritten,
          Option.map_some, Nat.reduceEqDiff, and_false, false_and, and_self,
          if_false, if_true]
        exact .none
    | unchanged changesNothing =>
        rw [follow_unchanged key (answers key) changesNothing]
        exact tracks key
  · rw [follow_elsewhere _ isHere, effect.get?_elsewhere keyed isHere]
    exact tracks key

/-- An exchange keeps the entries of a store in order. -/
theorem Effect.keyed
    {changed : Store}
    (effect : Effect template store incoming outgoing changed)
    (keyed : store.Keyed) :
    changed.Keyed := by
  cases effect with
  | created | revised =>
      exact keyed.insert _
  | deleted =>
      exact keyed.erase _
  | unchanged =>
      exact keyed

/-- A run of plain requests keeps the answers that stand in step. -/
theorem tracks_afterAll
    (settings : ApiSettings)
    (template : Template)
    {answers : String → Option Outgoing}
    {history : List Incoming}
    (plain : ∀ incoming ∈ history, incoming.Plain)
    (isAt : world.stores[slot]? = some store)
    (keyed : store.Keyed)
    (tracks : Tracks answers store) :
    let server := mount settings template slot
    ∃ reached,
      (server.afterAll world history).stores[slot]? = some reached ∧
        reached.Keyed ∧
        Tracks
          (fun key =>
            (server.transcript world history).foldl (follow template key)
              (answers key))
          reached := by
  induction history generalizing world store answers with
  | nil =>
      exact ⟨store, isAt, keyed, tracks⟩
  | cons incoming rest inductionHypothesis =>
      have isPlain := plain incoming List.mem_cons_self
      have restPlain : ∀ later ∈ rest, later.Plain :=
        fun later member => plain later (List.mem_cons_of_mem incoming member)
      obtain ⟨changed, effect, isChanged⟩ :=
        exchange_effect settings template isPlain isAt
      have isBelow : slot < world.stores.length :=
        (List.getElem?_eq_some_iff.mp isAt).1
      have isAtNext :
          ((mount settings template slot).exchange world
              incoming).2.stores[slot]? =
            some changed := by
        rw [isChanged, List.getElem?_set_self isBelow]
      exact
        inductionHypothesis restPlain isAtNext (effect.keyed keyed)
          (tracks.follow keyed effect)

end Server

end ResourceServer
