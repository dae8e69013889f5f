import ResourceServer.Proofs.Http.PlainRequest
import ResourceServer.Proofs.Http.StoreHandling
import ResourceServer.Proofs.Route.OnlyRoute

namespace ResourceServer

/-!
# One store behind one route

A server whose only route leads to a store hands on to it every request whose
name begins as the template of the route says, without that beginning. All
other requests are refused and change nothing.
-/

namespace Server

/-- The server with one route, which leads the names under a template to a store. -/
def mount
    (settings : ApiSettings)
    (template : Template)
    (slot : Nat) : Server where
  settings := settings
  handler :=
    .router
      (Table.empty.insert ⟨.startsWith, template⟩
        (.endpoint (Endpoint.store slot)))

variable
  {settings : ApiSettings}
  {template : Template}
  {slot : Nat}

theorem mount_leads
    (settings : ApiSettings)
    (slot : Nat)
    {name : Name}
    (covers : template.Covers name) :
    ∃ hops,
      (mount settings template slot).handler.Leads name hops (.store slot)
        (template.forwarded name) := by
  obtain ⟨fit, fits, divided⟩ := Template.exists_fit_of_covers covers
  exact
    ⟨_,
      .forward (Table.select_only_of_fits _ fits) divided
        (.arrive (Endpoint.store slot) _)⟩

theorem mount_leadsToStores
    (settings : ApiSettings)
    (template : Template)
    (slot : Nat) :
    (mount settings template slot).handler.LeadsToStores :=
  Handler.leadsToStores_only _ (Handler.leadsToStores_store slot)

/-- What arrives at the store. -/
def callOn
    (template : Template)
    (freshId : String)
    (request : Request) : Store.Call :=
  ⟨freshId, request.withName (template.forwarded request.name)⟩

variable
  {incoming : Incoming}
  {world : World}
  {store : Store}
  {context : Context}
  {ids after : IdSupply}
  {adapted : Adapted}

/-- A request for a name under the template is answered by the store. -/
theorem dispatch_mount
    (isContext : incoming.context settings ids = .ok (context, after))
    (isAt : world.stores[slot]? = some store)
    (covers : template.Covers adapted.request.name) :
    ∃ freshId,
      let call := callOn template freshId adapted.request
      let dispatched :=
        (mount settings template slot).dispatch world context adapted
      Outgoing.AgreeOn "etag" dispatched.1
          (Outgoing.plain (store.answer call) (layout adapted)) ∧
        dispatched.2.stores = world.stores.set slot (store.after call) := by
  obtain ⟨hops, leads⟩ := mount_leads settings slot covers
  have handled :
      world.handle (mount settings template slot).handler context
          adapted.request =
        _ :=
    World.handle_of_leads leads isAt
  have agree :
      Outgoing.AgreeOn "etag"
        ((mount settings template slot).dispatch world context adapted).1 _ :=
    dispatch_agreeOn (mount_leadsToStores settings template slot) isContext
      world adapted (by decide)
  rw [handled] at agree
  refine ⟨_, agree, ?_⟩
  rw [dispatch, handled]
  rfl

theorem dispatch_mount_elsewhere
    (isContext : incoming.context settings ids = .ok (context, after))
    (world : World)
    (coversNot : ¬ template.Covers adapted.request.name) :
    let dispatched :=
      (mount settings template slot).dispatch world context adapted
    400 ≤ dispatched.1.status ∧ dispatched.2 = world := by
  have failed :
      (mount settings template slot).handler.deliver world.ids context
          adapted.request =
        .error (.routeNotFound adapted.request.name.display) :=
    Handler.deliver_of_select_error
      (Table.select_only_of_not_fits _
        (Template.fit?_of_not_covers coversNot))
  have handled :
      world.handle (mount settings template slot).handler context
          adapted.request =
        _ :=
    World.handle_of_deliver_error failed
  have agree :
      Outgoing.AgreeOn "etag"
        ((mount settings template slot).dispatch world context adapted).1 _ :=
    dispatch_agreeOn (mount_leadsToStores settings template slot) isContext
      world adapted (by decide)
  rw [handled] at agree
  refine ⟨?_, ?_⟩
  · rw [agree.status]
    exact
      Failure.le_status (.routeNotFound adapted.request.name.display)
  · rw [dispatch, handled]

theorem method_ne_head_of_adapt
    (isAdapted : incoming.adapt = .ok adapted) :
    incoming.method ≠ "HEAD" := by
  obtain ⟨named, -, asks⟩ := Incoming.adapt_eq_ok isAdapted
  generalize adapted.request.operation = operation at asks
  generalize adapted.request.name = asked at asks
  intro isHead
  cases asks with
  | read isMethod | query isMethod | update isMethod | createUnder isMethod
  | create isMethod | action isMethod | delete isMethod | patch isMethod =>
      rw [isHead] at isMethod
      exact absurd isMethod (by decide)

/-- Either the store answers a request, or the request is refused. -/
theorem exchange_mount_cases
    (settings : ApiSettings)
    (incoming : Incoming)
    (template : Template)
    (isAt : world.stores[slot]? = some store) :
    let exchanged := (mount settings template slot).exchange world incoming
    (400 ≤ exchanged.1.status ∧ exchanged.2.stores = world.stores) ∨
      ∃ adapted freshId,
        let call := callOn template freshId adapted.request
        incoming.hasPath = true ∧
          incoming.adapt = .ok adapted ∧
          template.Covers adapted.request.name ∧
          Outgoing.AgreeOn "etag" exchanged.1
            (Outgoing.plain (store.answer call) (layout adapted)) ∧
          exchanged.2.stores = world.stores.set slot (store.after call) := by
  intro exchanged
  rcases (mount settings template slot).exchange_cases world incoming with
    ⟨refused, unchanged⟩ |
      ⟨hasPath, adapted, context, ids, understood, isExchanged⟩
  · exact .inl ⟨refused, congrArg World.stores unchanged⟩
  · obtain ⟨isContext, isAdapted⟩ := understand_eq_ok understood
    have isContext : incoming.context settings world.ids = .ok (context, ids) :=
      isContext
    have notHead := method_ne_head_of_adapt isAdapted
    by_cases covers : template.Covers adapted.request.name
    · have isAtStill : (World.mk world.stores ids).stores[slot]? = some store :=
        isAt
      obtain ⟨freshId, agree, changed⟩ :=
        dispatch_mount isContext isAtStill covers
      refine .inr ⟨adapted, freshId, hasPath, isAdapted, covers, ?_, ?_⟩
      · simp only [exchanged, isExchanged]
        exact (Outgoing.AgreeOn.finish _ notHead (by decide)).trans agree
      · simp only [exchanged, isExchanged]
        exact changed
    · obtain ⟨refused, unchanged⟩ :=
        dispatch_mount_elsewhere isContext ⟨world.stores, ids⟩ covers
      refine .inl ⟨?_, ?_⟩
      · simp only [exchanged, isExchanged, status_finish]
        exact refused
      · simp only [exchanged, isExchanged, unchanged]

/-- A plain request that asks for something is answered by the store. -/
theorem exchange_mount
    (plain : incoming.Plain)
    (hasPath : incoming.hasPath = true)
    (isAdapted : incoming.adapt = .ok adapted)
    (isAt : world.stores[slot]? = some store)
    (covers : template.Covers adapted.request.name) :
    ∃ freshId,
      let call := callOn template freshId adapted.request
      let exchanged := (mount settings template slot).exchange world incoming
      Outgoing.AgreeOn "etag" exchanged.1
          (Outgoing.plain (store.answer call) (layout adapted)) ∧
        exchanged.2.stores = world.stores.set slot (store.after call) := by
  obtain ⟨context, ids, isContext⟩ :=
    plain.exists_context settings world.ids
  have understood :
      (mount settings template slot).understand world.ids incoming =
        .ok (adapted, context, ids) := by
    rw [understand, plain.receiveBody_eq_ok, isAdapted]
    show (incoming.context settings world.ids >>= _) = _
    rw [isContext]
    rfl
  have isAtStill : (World.mk world.stores ids).stores[slot]? = some store :=
    isAt
  obtain ⟨freshId, agree, changed⟩ :=
    dispatch_mount isContext isAtStill covers
  have isExchanged :=
    exchange_of_understood plain.declaresTooMuch_eq_false hasPath understood
  have notHead := method_ne_head_of_adapt isAdapted
  refine ⟨freshId, ?_, ?_⟩
  · simp only [isExchanged]
    exact (Outgoing.AgreeOn.finish _ notHead (by decide)).trans agree
  · simp only [isExchanged]
    exact changed

end Server

end ResourceServer
