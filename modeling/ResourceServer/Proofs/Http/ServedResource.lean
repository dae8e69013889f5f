import ResourceServer.Proofs.Http.EntityTag
import ResourceServer.Proofs.Http.MountedStore

namespace ResourceServer

/-!
# What clients see of a mounted resource

At every point of a run a resource is what the answer shows that stands for it.
It is read back as it was shown, it can be created where it does not exist, and
a request to alter it is carried out just where the condition on its entity tag
fits.
-/

namespace Protocol

/-- The revision of an entry is read back from its entity tag. -/
theorem revisionOfTag_numeral
    (revision : Nat) :
    revisionOfTag (Outgoing.entityTag (toString revision)) =
      toString revision := by
  have numeral := Text.isNumeral_toString revision
  have notDigit : ¬ '"'.isDigit = true := by
    decide
  rw [revisionOfTag_entityTag, unquote_eq_self_iff]
  exact
    ⟨fun isFirst => notDigit (numeral.head isFirst),
      fun isLast => notDigit (numeral.last isLast)⟩

/-- A condition on the entity tag is met: there is none, or it names the revision. -/
def Fits
    (condition : Option String)
    (current : String) : Prop :=
  ∀ tag,
    condition = some tag →
      revisionOfTag tag = anyTag ∨
        revisionOfTag tag = revisionOfTag current

theorem fits_iff_isAt
    {condition : Option String}
    {entry : Entry} :
    Fits condition (Outgoing.tagOf entry) ↔
      entry.isAt (condition.map revisionOfTag) = true := by
  rw [Fits, Outgoing.tagOf, revisionOfTag_numeral, Entry.isAt_iff]
  cases condition with
  | none =>
      simp only [reduceCtorEq, false_implies, implies_true, Option.map_none,
        true_or]
  | some tag =>
      simp only [Option.some.injEq, forall_eq', Option.map_some,
        reduceCtorEq, false_or]
      rfl

end Protocol

namespace Incoming

open Protocol

/-- What a request makes of an entry; a request to delete it leaves nothing. -/
inductive Alters
    (incoming : Incoming) :
    (Entry → Except Failure (Option Entry)) → Prop where
  | update
      {content : Json}
      (isPut : incoming.method = "PUT")
      (readsAs : Json.readBytes? incoming.body = some content)
      (insists : incoming.headers.has ifMatch = true) :
      Alters incoming fun entry => .ok (some (entry.revise content))
  | patch
      {content : Json}
      {operations : List PatchOperation}
      (isPatch : incoming.method = "PATCH")
      (readsAs : Json.readBytes? incoming.body = some content)
      (isWellFormed : PatchOperation.listOfJson content = .ok operations) :
      Alters incoming fun entry =>
        (PatchOperation.applyAll operations entry.content).map fun content =>
          some (entry.revise content)
  | delete
      (isDelete : incoming.method = "DELETE") :
      Alters incoming fun _ => .ok none

/-- A request that alters a resource goes to the entry that its condition fits. -/
theorem Alters.answer
    {incoming : Incoming}
    {alter : Entry → Except Failure (Option Entry)}
    {named : Name}
    (alters : incoming.Alters alter)
    (plain : incoming.Plain)
    (isNamed : incoming.name = .ok named) :
    ∃ operation,
      incoming.adapt = .ok ⟨⟨named, [], [], operation⟩, false⟩ ∧
        operation.verb ≠ .create ∧
        ∀ {store : Store} {call : Store.Call} {id : String},
          call.request.name.elements = [id] →
            call.request.operation = operation →
              store.answer call =
                store.current id (incoming.revision? ifMatch) >>= fun entry =>
                  (alter entry).map fun left =>
                    .resource (left.getD entry).resource := by
  cases alters with
  | update isPut readsAs insists =>
      obtain ⟨tag, isTag⟩ := plain.exists_condition insists
      have isRevision :
          incoming.revision? ifMatch = some (revisionOfTag tag) :=
        congrArg (Option.map revisionOfTag) isTag
      refine
        ⟨_,
          plain.adapt_update isNamed isPut (content_of_readBytes? readsAs)
            isRevision,
          nofun, ?_⟩
      intro store call id instanceName asks
      rw [Store.answer_of_update instanceName asks, Store.update_eq,
        isRevision]
      cases store.current id (some (revisionOfTag tag)) <;> rfl
  | @patch content operations isPatch readsAs isWellFormed =>
      refine
        ⟨_,
          plain.adapt_patch isNamed isPatch (content_of_readBytes? readsAs)
            isWellFormed,
          nofun, ?_⟩
      intro store call id instanceName asks
      rw [Store.answer_of_patch instanceName asks, Store.patch_eq]
      cases store.current id (incoming.revision? ifMatch) with
      | error failure =>
          rfl
      | ok entry =>
          show
            (((PatchOperation.applyAll operations entry.content).map _).map
              _).map _ =
              ((PatchOperation.applyAll operations entry.content).map _).map _
          cases PatchOperation.applyAll operations entry.content <;> rfl
  | delete isDelete =>
      refine ⟨_, plain.adapt_delete isNamed isDelete, nofun, ?_⟩
      intro store call id instanceName asks
      rw [Store.answer_of_delete instanceName asks, Store.delete_eq]
      cases store.current id (incoming.revision? ifMatch) <;> rfl

/-- An alteration that fails is not refused for its condition. -/
theorem Alters.status_of_error
    {incoming : Incoming}
    {alter : Entry → Except Failure (Option Entry)}
    (alters : incoming.Alters alter)
    {entry : Entry}
    {failure : Failure}
    (failed : alter entry = .error failure) :
    failure.status = 400 ∨ failure.status = 501 := by
  cases alters with
  | update | delete =>
      cases failed
  | patch =>
      exact PatchOperation.applyAll_error (Failure.of_map_error failed)

end Incoming

namespace Server

open Protocol

/-- An entry is altered if the condition on its entity tag fits, and only then. -/
structure AltersIfFits
    (exchanged : Outgoing × World)
    (before : World)
    (condition : Option String)
    (entry : Entry)
    (altered : Except Failure (Option Entry)) : Prop where
  refusesIff :
    exchanged.1.status = 412 ↔ ¬ Fits condition (Outgoing.tagOf entry)
  keeps :
    ¬ Fits condition (Outgoing.tagOf entry) →
      exchanged.2.stores = before.stores
  fails :
    ∀ {failure : Failure},
      Fits condition (Outgoing.tagOf entry) →
        altered = .error failure →
          exchanged.1.status = failure.status ∧
            exchanged.2.stores = before.stores
  succeeds :
    ∀ {left : Option Entry},
      Fits condition (Outgoing.tagOf entry) →
        altered = .ok left →
          exchanged.1.status = 200 ∧ exchanged.1.Shows (left.getD entry)

/-- What clients see of a resource, by the answer that stands for it. -/
structure ServesAs
    (server : Server)
    (world : World)
    (path id : String)
    (standing : Option Outgoing) : Prop where
  reads :
    ∀ {incoming : Incoming},
      incoming.Plain →
        incoming.path = path →
          incoming.method = "GET" →
            let outgoing := (server.exchange world incoming).1
            (outgoing.status = 200 ↔ standing.isSome = true) ∧
              ∀ {shown : Outgoing},
                standing = some shown →
                  outgoing.headers.get? "etag" = shown.headers.get? "etag" ∧
                    outgoing.body = shown.body
  creates :
    ∀ {incoming : Incoming} {content : Json},
      incoming.Plain →
        incoming.path = path →
          incoming.method = "PUT" →
            Json.readBytes? incoming.body = some content →
              incoming.headers.has ifMatch = false →
                let exchanged := server.exchange world incoming
                (standing.isSome = true →
                  exchanged.1.status = 409 ∧
                    exchanged.2.stores = world.stores) ∧
                  (standing = none →
                    exchanged.1.status = 201 ∧
                      exchanged.1.Shows ⟨id, 0, content⟩)
  alters :
    ∀ {shown : Outgoing},
      standing = some shown →
        ∃ entry : Entry,
          shown.Shows entry ∧
            Text.fold entry.id = Text.fold id ∧
            ∀ {incoming : Incoming}
              {alter : Entry → Except Failure (Option Entry)},
              incoming.Plain →
                incoming.path = path →
                  incoming.Alters alter →
                    AltersIfFits (server.exchange world incoming) world
                      (incoming.headers.text? ifMatch) entry (alter entry)
  absent :
    ∀ {incoming : Incoming} {alter : Entry → Except Failure (Option Entry)},
      standing = none →
        incoming.Plain →
          incoming.path = path →
            incoming.Alters alter →
              let exchanged := server.exchange world incoming
              exchanged.1.status = 404 ∧ exchanged.2.stores = world.stores

variable
  {settings : ApiSettings}
  {template : Template}
  {slot : Nat}
  {incoming : Incoming}
  {world : World}
  {store : Store}
  {operation : Operation}
  {named : Name}
  {id : String}

/-- A plain request for a resource arrives at the store with the id as name. -/
theorem exchange_resource
    (settings : ApiSettings)
    (plain : incoming.Plain)
    (addresses : template.Addresses incoming.path named id)
    (isAdapted : incoming.adapt = .ok ⟨⟨named, [], [], operation⟩, false⟩)
    (isAt : world.stores[slot]? = some store) :
    let exchanged := (mount settings template slot).exchange world incoming
    ∃ call : Store.Call,
      call.request.name.elements = [id] ∧
        call.request.operation = operation ∧
        Outgoing.AgreeOn "etag" exchanged.1
          (Outgoing.plain (store.answer call)
            (layout ⟨⟨named, [], [], operation⟩, false⟩)) ∧
        exchanged.2.stores = world.stores.set slot (store.after call) := by
  have hasPath : incoming.hasPath = true :=
    beq_iff_eq.mpr addresses.rooted
  obtain ⟨freshId, agree, changed⟩ :=
    exchange_mount plain hasPath isAdapted isAt addresses.covers
  exact ⟨_, addresses.forwarded, rfl, agree, changed⟩

theorem refused_of_failed
    {exchanged : Outgoing × World}
    {layout : Layout}
    {call : Store.Call}
    {failure : Failure}
    (isAt : world.stores[slot]? = some store)
    (agree :
      Outgoing.AgreeOn "etag" exchanged.1
        (Outgoing.plain (store.answer call) layout))
    (changed :
      exchanged.2.stores = world.stores.set slot (store.after call))
    (failed : store.answer call = .error failure) :
    exchanged.1.status = failure.status ∧
      exchanged.2.stores = world.stores := by
  refine ⟨status_of_failed agree failed, ?_⟩
  rw [changed, (Store.after_of_answer_error failed).1, Store.set_self isAt]

/-- A request to read shows the entry that is stored. -/
theorem exchange_read
    (settings : ApiSettings)
    (plain : incoming.Plain)
    (addresses : template.Addresses incoming.path named id)
    (isGet : incoming.method = "GET")
    (isAt : world.stores[slot]? = some store) :
    let outgoing :=
      ((mount settings template slot).exchange world incoming).1
    (store.find? id = none → outgoing.status = 404) ∧
      ∀ entry,
        store.find? id = some entry →
          outgoing.status = 200 ∧ outgoing.Shows entry := by
  have isNamed := Incoming.name_of_parse addresses.reads
  obtain ⟨call, instanceName, asks, agree, -⟩ :=
    exchange_resource settings plain addresses
      (plain.adapt_get isNamed isGet) isAt
  have answered : store.answer call = _ :=
    Store.answer_of_read instanceName asks
  constructor
  · intro missing
    obtain ⟨reason, notFound⟩ := Store.find_of_missing missing
    rw [notFound] at answered
    exact status_of_failed agree answered
  · intro entry found
    rw [Store.find_eq_ok_iff.mpr found] at answered
    obtain ⟨shown, isOk⟩ := shown_of_answered agree answered
    exact ⟨isOk, shown⟩

theorem exchange_create
    (settings : ApiSettings)
    {content : Json}
    (plain : incoming.Plain)
    (addresses : template.Addresses incoming.path named id)
    (isPut : incoming.method = "PUT")
    (readsAs : Json.readBytes? incoming.body = some content)
    (insistsNot : incoming.headers.has ifMatch = false)
    (isAt : world.stores[slot]? = some store) :
    let exchanged := (mount settings template slot).exchange world incoming
    (∀ entry,
      store.find? id = some entry →
        exchanged.1.status = 409 ∧ exchanged.2.stores = world.stores) ∧
      (store.find? id = none →
        exchanged.1.status = 201 ∧
          exchanged.1.Shows ⟨id, 0, content⟩) := by
  intro exchanged
  have isNamed := Incoming.name_of_parse addresses.reads
  obtain ⟨parent, isParent, covers, whole⟩ := addresses.exists_parent
  have noRevision : incoming.revision? ifMatch = none :=
    congrArg (Option.map revisionOfTag)
      (Headers.text?_of_absent insistsNot)
  have isAdapted :=
    plain.adapt_create isNamed isPut
      (Incoming.content_of_readBytes? readsAs) noRevision isParent
      addresses.leaf
  have hasPath : incoming.hasPath = true :=
    beq_iff_eq.mpr addresses.rooted
  obtain ⟨freshId, agree, changed⟩ :=
    exchange_mount plain hasPath isAdapted isAt covers
  have answered :
      store.answer
          (callOn template freshId
            ⟨parent, [], [], .create content (some id)⟩) =
        _ :=
    Store.answer_of_create whole rfl
  constructor
  · intro entry found
    rw [Option.getD_some, Store.create, found] at answered
    exact refused_of_failed isAt agree changed answered
  · intro missing
    rw [Option.getD_some, Store.create, missing] at answered
    obtain ⟨shown, isCreated⟩ := shown_of_answered agree answered
    exact ⟨isCreated, shown⟩

/-- Where the condition fits, nothing is refused for it. -/
theorem AltersIfFits.of_fits
    {exchanged : Outgoing × World}
    {before : World}
    {condition : Option String}
    {entry : Entry}
    {altered : Except Failure (Option Entry)}
    (isFit : Fits condition (Outgoing.tagOf entry))
    (notRefused : exchanged.1.status ≠ 412)
    (fails :
      ∀ failure,
        altered = .error failure →
          exchanged.1.status = failure.status ∧
            exchanged.2.stores = before.stores)
    (succeeds :
      ∀ left,
        altered = .ok left →
          exchanged.1.status = 200 ∧ exchanged.1.Shows (left.getD entry)) :
    AltersIfFits exchanged before condition entry altered where
  refusesIff :=
    ⟨fun isRefused => absurd isRefused notRefused,
      fun notFit => absurd isFit notFit⟩
  keeps := fun notFit => absurd isFit notFit
  fails := fun _ => fails _
  succeeds := fun _ => succeeds _

/-- Where the condition fits, the alteration decides. -/
theorem altersIfFits_of_fits
    {exchanged : Outgoing × World}
    {alter : Entry → Except Failure (Option Entry)}
    {entry : Entry}
    {call : Store.Call}
    (isFit :
      Fits (incoming.headers.text? ifMatch) (Outgoing.tagOf entry))
    (isAt : world.stores[slot]? = some store)
    (alters : incoming.Alters alter)
    (notCreate : operation.verb ≠ .create)
    (agree :
      Outgoing.AgreeOn "etag" exchanged.1
        (Outgoing.plain (store.answer call)
          (layout ⟨⟨named, [], [], operation⟩, false⟩)))
    (changed :
      exchanged.2.stores = world.stores.set slot (store.after call))
    (answered :
      store.answer call =
        (alter entry).map fun left =>
          .resource (left.getD entry).resource) :
    AltersIfFits exchanged world (incoming.headers.text? ifMatch) entry
      (alter entry) := by
  cases altered : alter entry with
  | error failure =>
      rw [altered] at answered
      obtain ⟨isStatus, unchanged⟩ :=
        refused_of_failed isAt agree changed answered
      have notRefused : exchanged.1.status ≠ 412 := by
        rw [isStatus]
        rcases alters.status_of_error altered with isBad | isUnsupported
        · rw [isBad]
          decide
        · rw [isUnsupported]
          decide
      refine .of_fits isFit notRefused ?_ nofun
      rintro _ ⟨⟩
      exact ⟨isStatus, unchanged⟩
  | ok left =>
      rw [altered] at answered
      obtain ⟨shown, isStatus⟩ := shown_of_answered agree answered
      rw [if_neg notCreate] at isStatus
      have notRefused : exchanged.1.status ≠ 412 := by
        rw [isStatus]
        decide
      refine .of_fits isFit notRefused nofun ?_
      rintro _ ⟨⟩
      exact ⟨isStatus, shown⟩

/-- A request to alter a resource is refused unless its condition fits. -/
theorem exchange_alter
    (settings : ApiSettings)
    {alter : Entry → Except Failure (Option Entry)}
    (plain : incoming.Plain)
    (addresses : template.Addresses incoming.path named id)
    (alters : incoming.Alters alter)
    (isAt : world.stores[slot]? = some store) :
    let exchanged := (mount settings template slot).exchange world incoming
    (store.find? id = none →
      exchanged.1.status = 404 ∧ exchanged.2.stores = world.stores) ∧
      ∀ entry,
        store.find? id = some entry →
          AltersIfFits exchanged world (incoming.headers.text? ifMatch) entry
            (alter entry) := by
  intro exchanged
  obtain ⟨operation, isAdapted, notCreate, answers⟩ :=
    alters.answer plain (Incoming.name_of_parse addresses.reads)
  obtain ⟨call, instanceName, asks, agree, changed⟩ :=
    exchange_resource settings plain addresses isAdapted isAt
  have answered : store.answer call = _ := answers instanceName asks
  constructor
  · intro missing
    obtain ⟨reason, notFound⟩ :
        ∃ reason,
          store.current id (incoming.revision? ifMatch) =
            .error (.notFound reason) :=
      Store.current_of_missing missing
    rw [notFound] at answered
    exact refused_of_failed isAt agree changed answered
  · intro entry found
    rw [Store.current_of_found found, Entry.check] at answered
    by_cases isFit :
      Fits (incoming.headers.text? ifMatch) (Outgoing.tagOf entry)
    · have isAtRevision :
          entry.isAt (incoming.revision? ifMatch) = true :=
        fits_iff_isAt.mp isFit
      rw [if_pos isAtRevision] at answered
      exact altersIfFits_of_fits isFit isAt alters notCreate agree changed answered
    · have notAtRevision :
          ¬ entry.isAt (incoming.revision? ifMatch) = true :=
        fun isAtRevision => isFit (fits_iff_isAt.mpr isAtRevision)
      rw [if_neg notAtRevision] at answered
      obtain ⟨isStatus, unchanged⟩ :=
        refused_of_failed isAt agree changed answered
      exact
        {
          refusesIff := ⟨fun _ => isFit, fun _ => isStatus⟩
          keeps := fun _ => unchanged
          fails := fun nowFits => absurd nowFits isFit
          succeeds := fun nowFits => absurd nowFits isFit
        }

/-- A resource is served as the answer tells that shows its entry. -/
theorem servesAs_of_rel
    (settings : ApiSettings)
    {path : String}
    {standing : Option Outgoing}
    (isInstance : template.instance? path = some id)
    (isAt : world.stores[slot]? = some store)
    (keyed : store.Keyed)
    (stands : Option.Rel Outgoing.Shows standing (store.find? id)) :
    (mount settings template slot).ServesAs world path id standing := by
  obtain ⟨named, addresses⟩ := Template.instance?_eq_some_iff.mp isInstance
  generalize isFound : store.find? id = found at stands
  cases stands with
  | none =>
      exact
        {
          reads := by
            rintro incoming plain rfl isGet outgoing
            have isMissing :=
              (exchange_read settings plain addresses isGet isAt).1 isFound
            refine ⟨?_, nofun⟩
            simp only [outgoing, isMissing, Nat.reduceEqDiff,
              Option.isSome_none, Bool.false_eq_true]
          creates := by
            rintro incoming content plain rfl isPut readsAs insistsNot exchanged
            have created :=
              (exchange_create settings plain addresses isPut readsAs
                insistsNot isAt).2 isFound
            exact ⟨nofun, fun _ => created⟩
          alters := nofun
          absent := by
            rintro incoming alter - plain rfl alters
            exact
              (exchange_alter settings plain addresses alters isAt).1 isFound
        }
  | @some shown entry shows_ =>
      exact
        {
          reads := by
            rintro incoming plain rfl isGet outgoing
            obtain ⟨isOk, showsEntry⟩ :=
              (exchange_read settings plain addresses isGet isAt).2 entry
                isFound
            refine ⟨by simp only [outgoing, isOk, Option.isSome_some], ?_⟩
            rintro _ ⟨⟩
            exact
              ⟨showsEntry.tag.trans shows_.tag.symm,
                showsEntry.body.trans shows_.body.symm⟩
          creates := by
            rintro incoming content plain rfl isPut readsAs insistsNot exchanged
            have refused :=
              (exchange_create settings plain addresses isPut readsAs
                insistsNot isAt).1 entry isFound
            exact ⟨fun _ => refused, nofun⟩
          alters := by
            rintro _ ⟨⟩
            refine ⟨entry, shows_, keyed.fold_id isFound, ?_⟩
            rintro incoming alter plain rfl alters
            exact
              (exchange_alter settings plain addresses alters isAt).2 entry
                isFound
          absent := nofun
        }

/--
A store behind one route is a map with revisions to its clients.

After every run of plain requests, from the empty store on, each resource is as
the last answer that created or altered it shows it: a GET request is answered
with its entity tag and its body, and with 200 only if there is such an answer.
A PUT request without a condition creates a resource at revision zero where there
is none. A request to alter one is answered with 412 if and only if its
condition names another entity tag, and changes nothing then.
-/
theorem serves_mounted_resources
    (settings : ApiSettings)
    (template : Template)
    {slot : Nat}
    {world : World}
    {storeName : String}
    (isEmpty : world.stores[slot]? = some (Store.empty storeName))
    {history : List Incoming}
    (plain : ∀ incoming ∈ history, incoming.Plain)
    {path id : String}
    (isInstance : template.instance? path = some id) :
    let server := mount settings template slot
    server.ServesAs (server.afterAll world history) path id
      (standing template (Text.fold id) (server.transcript world history)) := by
  intro server
  have noneStands :
      Tracks (fun _ => none) (Store.empty storeName) :=
    fun _ => .none
  obtain ⟨reached, isAt, keyed, tracks⟩ :=
    tracks_afterAll settings template plain isEmpty
      (Store.Keyed.empty storeName) noneStands
  exact servesAs_of_rel settings isInstance isAt keyed (tracks (Text.fold id))

/-- A resource that is created under `A` and updated under `a`. -/
def createAndUpdate : List Incoming :=
  [⟨"PUT", "/users/A", [], ⟨[("content-type", Text.bytes jsonType)]⟩,
      Text.bytes "true"⟩,
    ⟨"PUT", "/users/a", [], ⟨[(ifMatch, Text.bytes "W/\"0\"")]⟩,
      Text.bytes "false"⟩]

theorem serves_mounted_resources_of_users :
    let users : Template := ⟨⟨["users"], by decide⟩, [.literal "users"]⟩
    let server := mount ApiSettings.standard users 0
    let world : World := ⟨[Store.empty "users"], IdSupply.start⟩
    let answer :=
      standing users "a" (server.transcript world createAndUpdate)
    world.stores[0]? = some (Store.empty "users") ∧
      (∀ incoming ∈ createAndUpdate, incoming.Plain) ∧
      users.instance? "/users/a" = some "a" ∧
      (answer.map fun shown => (shown.headers.get? "etag", shown.body)) =
        some (some ["\"1\""], "false") ∧
      server.ServesAs (server.afterAll world createAndUpdate) "/users/a" "a"
        answer := by
  intro users server world answer
  have plain : ∀ incoming ∈ createAndUpdate, incoming.Plain := by
    intro incoming member
    rcases List.mem_cons.mp member with rfl | isUpdate
    · refine ⟨rfl, ?_, by decide⟩
      intro field isField
      cases List.mem_singleton.mp isField
      exact .contentType
    · cases List.mem_singleton.mp isUpdate
      refine ⟨rfl, ?_, by decide⟩
      intro field isField
      cases List.mem_singleton.mp isField
      have isText :
          Headers.valueText? (Text.bytes "W/\"0\"") = some "W/\"0\"" := by
        decide +kernel
      exact .ifMatch isText
  have isInstance : users.instance? "/users/a" = some "a" := by
    decide +kernel
  refine ⟨rfl, plain, isInstance, by decide +kernel, ?_⟩
  exact serves_mounted_resources ApiSettings.standard users rfl plain isInstance

end Server

end ResourceServer
