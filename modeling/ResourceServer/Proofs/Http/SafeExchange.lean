import ResourceServer.Proofs.Http.StoreHandling

namespace ResourceServer

/-!
# Exchanges that leave the data alone

A request changes a store only where the store answers it, and a store that
refuses a call is as it was. The answer is laid out after that and cannot turn
what was carried out into a failure. So nothing has changed whenever a client
is told of a failure, nor after reading; and what is carried out changes one
resource in one store.
-/

namespace Store

/-- Stores that differ at most in what they keep under one key. -/
structure DiffersOnlyAt
    (later : Store)
    (key : String)
    (earlier : Store) : Prop where
  name : later.name = earlier.name
  elsewhere :
    ∀ other,
      other ≠ key → later.entries.get? other = earlier.entries.get? other

theorem DiffersOnlyAt.refl
    (store : Store)
    (key : String) :
    store.DiffersOnlyAt key store :=
  ⟨rfl, fun _ _ => rfl⟩

theorem differsOnlyAt_insert
    (store : Store)
    (entry : Entry) :
    (store.insert entry).DiffersOnlyAt (Text.fold entry.id) store where
  name := rfl
  elsewhere := by
    intro other isElsewhere
    exact Record.get?_insert_of_ne _ _ isElsewhere.symm

theorem differsOnlyAt_erase
    (store : Store)
    (id : String) :
    (store.erase id).DiffersOnlyAt (Text.fold id) store where
  name := rfl
  elsewhere := by
    intro other isElsewhere
    exact Record.get?_erase_of_ne _ isElsewhere.symm

/-- A call concerns one resource at most. -/
theorem exists_differsOnlyAt
    (store : Store)
    (call : Call) :
    ∃ key, (store.after call).DiffersOnlyAt key store := by
  have outcome := store.handle_outcome call
  unfold Store.after
  generalize store.handle call.freshId call.request = result at outcome ⊢
  cases outcome with
  | created =>
      exact ⟨_, store.differsOnlyAt_insert _⟩
  | revised =>
      exact ⟨_, store.differsOnlyAt_insert _⟩
  | deleted =>
      exact ⟨_, store.differsOnlyAt_erase _⟩
  | observed =>
      exact ⟨"", .refl store ""⟩
  | refused =>
      exact ⟨"", .refl store ""⟩

end Store

namespace World

/-- Worlds that differ at most in one entry of one store. -/
structure DiffersOnlyAt
    (later : World)
    (slot : Nat)
    (key : String)
    (earlier : World) : Prop where
  sameCount : later.stores.length = earlier.stores.length
  otherStores :
    ∀ other, other ≠ slot → later.stores[other]? = earlier.stores[other]?
  otherEntries :
    ∀ {store changed : Store},
      earlier.stores[slot]? = some store →
        later.stores[slot]? = some changed → changed.DiffersOnlyAt key store

namespace DiffersOnlyAt

variable {later earlier : World}

theorem of_unchanged
    (unchanged : later.stores = earlier.stores) :
    later.DiffersOnlyAt 0 "" earlier where
  sameCount := by rw [unchanged]
  otherStores := by
    intro other _
    rw [unchanged]
  otherEntries := by
    intro store changed isAt isAtLater
    rw [unchanged, isAt] at isAtLater
    cases isAtLater
    exact .refl store ""

theorem of_set
    {slot : Nat}
    {key : String}
    {store changed : Store}
    (isAt : earlier.stores[slot]? = some store)
    (isSet : later.stores = earlier.stores.set slot changed)
    (differs : changed.DiffersOnlyAt key store) :
    later.DiffersOnlyAt slot key earlier where
  sameCount := by rw [isSet, List.length_set]
  otherStores := by
    intro other isElsewhere
    rw [isSet, List.getElem?_set_ne isElsewhere.symm]
  otherEntries := by
    intro found foundLater isFound isFoundLater
    have isBelow : slot < earlier.stores.length :=
      (List.getElem?_eq_some_iff.mp isAt).1
    rw [isSet, List.getElem?_set_self isBelow] at isFoundLater
    cases isFoundLater
    cases isAt.symm.trans isFound
    exact differs

end DiffersOnlyAt

/-- A request ends before it gets to a store, or that store answers it. -/
theorem handle_stores
    {handler : Handler Endpoint}
    (world : World)
    (toStores : handler.LeadsToStores)
    (context : Context)
    (request : Request) :
    let handled := world.handle handler context request
    ((∃ failure, handled.result = .error failure) ∧
        handled.world.stores = world.stores) ∨
      ∃ slot store freshId rest,
        let call : Store.Call := ⟨freshId, request.withName rest⟩
        world.stores[slot]? = some store ∧
          handled.result = store.answer call ∧
          handled.world.stores = world.stores.set slot (store.after call) := by
  intro handled
  cases delivered : handler.deliver world.ids context request with
  | error failure =>
      refine .inl ?_
      simp only [handled, handle_of_deliver_error delivered]
      exact ⟨⟨failure, rfl⟩, trivial⟩
  | ok delivery =>
      obtain ⟨hops, target, rest, leads, -⟩ :=
        Handler.deliver_eq_ok_iff.mp delivered
      obtain ⟨slot, rfl⟩ := toStores leads
      cases isAt : world.stores[slot]? with
      | none =>
          refine .inl ?_
          simp only [handled, handle_of_absent leads isAt]
          exact ⟨⟨_, rfl⟩, trivial⟩
      | some store =>
          have isHandled : handled = _ := handle_of_leads leads isAt
          rw [isHandled]
          exact .inr ⟨slot, store, _, rest, isAt, rfl, rfl⟩

end World

namespace Outgoing

/-- What has been carried out is never shown as a failure. -/
theorem status_plain_of_ok
    (response : Response)
    (layout : Layout) :
    (plain (.ok response) layout).status < 400 := by
  have okBelow : 200 < 400 := by decide
  have noContentBelow : 204 < 400 := by decide
  cases response with
  | resource resource =>
      obtain ⟨content, isShown⟩ := project_resource resource layout.fields
      rw [plain, ofResponse, isShown]
      dsimp only
      rw [status_ofResource]
      split <;> decide
  | action content =>
      cases content with
      | null =>
          exact noContentBelow
      | bool | number | string | array | object =>
          exact okBelow
  | query page =>
      obtain ⟨shown, isShown⟩ := project_query page layout.fields
      rw [plain, ofResponse, isShown]
      exact okBelow

end Outgoing

/-- A request by GET asks to read or to query. -/
theorem Incoming.Asks.observes_of_get
    {incoming : Incoming}
    {named asked : Name}
    {operation : Operation}
    (asks : incoming.Asks named asked operation)
    (isGet : incoming.method = "GET") :
    operation.verb.observes = true := by
  cases asks with
  | read | query =>
      rfl
  | update isOther | createUnder isOther | create isOther | action isOther
  | delete isOther | patch isOther =>
      rw [isGet] at isOther
      exact absurd isOther (by decide)

namespace Server

/-- The status of an answer is settled by the result of the request. -/
theorem dispatch_status
    {server : Server}
    {incoming : Incoming}
    {ids after : IdSupply}
    {context : Context}
    (toStores : server.handler.LeadsToStores)
    (isContext :
      incoming.context server.settings ids = .ok (context, after))
    (world : World)
    (adapted : Adapted) :
    (server.dispatch world context adapted).1.status =
      (Outgoing.plain
        (world.handle server.handler context adapted.request).result
        (layout adapted)).status := by
  have agree : Outgoing.AgreeOn "etag" _ _ :=
    dispatch_agreeOn toStores isContext world adapted (by decide)
  exact agree.status

/-- An exchange leaves the stores alone, or a store answers it and may change. -/
theorem exchange_stores
    (server : Server)
    (toStores : server.handler.LeadsToStores)
    (world : World)
    (incoming : Incoming) :
    let exchanged := server.exchange world incoming
    exchanged.2.stores = world.stores ∨
      ∃ (slot : Nat) (store : Store) (call : Store.Call) (layout : Layout),
        world.stores[slot]? = some store ∧
          exchanged.1.status =
            (Outgoing.plain (store.answer call) layout).status ∧
          exchanged.2.stores = world.stores.set slot (store.after call) ∧
          (incoming.method = "GET" → call.request.verb.observes = true) := by
  intro exchanged
  rcases server.exchange_cases world incoming with
    ⟨-, unchanged⟩ | ⟨-, adapted, context, ids, understood, isExchanged⟩
  · exact .inl (congrArg World.stores unchanged)
  · obtain ⟨isContext, isAdapted⟩ := understand_eq_ok understood
    obtain ⟨named, -, asks⟩ := Incoming.adapt_eq_ok isAdapted
    have isStatus := dispatch_status toStores isContext ⟨world.stores, ids⟩ adapted
    have isWorld :
        exchanged.2 =
          (World.handle ⟨world.stores, ids⟩ server.handler context
            adapted.request).world := by
      simp only [exchanged, isExchanged]
      rfl
    rcases World.handle_stores ⟨world.stores, ids⟩ toStores context
        adapted.request with
      ⟨-, unchanged⟩ | ⟨slot, store, freshId, rest, isAt, answered, isSet⟩
    · exact .inl ((congrArg World.stores isWorld).trans unchanged)
    · refine
        .inr
          ⟨slot, store, ⟨freshId, adapted.request.withName rest⟩,
            layout adapted, isAt, ?_, ?_, asks.observes_of_get⟩
      · simp only [exchanged, isExchanged, status_finish]
        rw [isStatus, answered]
      · exact (congrArg World.stores isWorld).trans isSet

/--
Whatever an exchange asks, every store is as it was if it is a GET request or
is answered with a failure; any other exchange changes at most one entry of at
most one store.
-/
theorem failed_and_safe_leave_data
    (server : Server)
    (toStores : server.handler.LeadsToStores)
    (world : World)
    (incoming : Incoming) :
    let exchanged := server.exchange world incoming
    (incoming.method = "GET" ∨ 400 ≤ exchanged.1.status →
      exchanged.2.stores = world.stores) ∧
      ∃ slot key, exchanged.2.DiffersOnlyAt slot key world := by
  intro exchanged
  rcases server.exchange_stores toStores world incoming with
    unchanged | ⟨slot, store, call, layout, isAt, isStatus, isSet, observes⟩
  · exact ⟨fun _ => unchanged, 0, "", .of_unchanged unchanged⟩
  · obtain ⟨key, differs⟩ := store.exists_differsOnlyAt call
    refine ⟨?_, slot, key, .of_set isAt isSet differs⟩
    intro safeOrFailed
    have isKept : store.after call = store := by
      rcases safeOrFailed with isGet | failed
      · exact Store.after_of_observes (observes isGet)
      · cases answered : store.answer call with
        | error failure =>
            exact (Store.after_of_answer_error answered).1
        | ok response =>
            rw [isStatus, answered] at failed
            exact
              absurd (Outgoing.status_plain_of_ok response layout)
                (Nat.not_lt_of_le failed)
    rw [isSet, isKept]
    exact Store.set_self isAt

/-- A server that keeps the users of all tenants apart from everything else. -/
def tenants : Server where
  settings := ApiSettings.standard
  handler :=
    .router <|
      Table.empty.insert
        ⟨.startsWith,
          ⟨⟨["tenants", "\x7bname\x7d"], by decide⟩,
            [.literal "tenants", .placeholder "name"]⟩⟩
        (.router <|
          (Table.empty.insert
            ⟨.startsWith, ⟨⟨["users"], by decide⟩, [.literal "users"]⟩⟩
            (.endpoint (.store 0))).setFallback
            (.endpoint (.store 1)))

theorem tenants_leadsToStores :
    tenants.handler.LeadsToStores := by
  apply Handler.leadsToStores_only
  apply Handler.leadsToStores_router
  · intro inner isInner
    cases List.mem_singleton.mp isInner
    exact Handler.leadsToStores_store 0
  · intro inner isInner
    cases isInner
    exact Handler.leadsToStores_store 1

/-- The first operation of the patch could be carried out, the second cannot. -/
theorem failed_and_safe_leave_data_of_patch :
    let world : World :=
      ⟨[⟨"users", [("ann", ⟨"Ann", 3, .object [("v", .bool true)]⟩)]⟩,
          Store.empty "rest"],
        IdSupply.start⟩
    let incoming : Incoming :=
      ⟨"PATCH", "/tenants/acme/users/ANN", [], ⟨[]⟩,
        Text.bytes
          ("[\x7b\"operation\":\"remove\",\"field\":\"v\"\x7d," ++
            "\x7b\"operation\":\"remove\",\"field\":\"w/x\"\x7d]")⟩
    let exchanged := tenants.exchange world incoming
    tenants.handler.LeadsToStores ∧
      exchanged.1.status = 400 ∧
      exchanged.2.stores = world.stores := by
  intro world incoming exchanged
  have isRefused : exchanged.1.status = 400 := by
    decide +kernel
  have isFailure : 400 ≤ exchanged.1.status := Nat.le_of_eq isRefused.symm
  exact
    ⟨tenants_leadsToStores, isRefused,
      (failed_and_safe_leave_data tenants tenants_leadsToStores world
        incoming).1 (.inr isFailure)⟩

end Server

end ResourceServer
