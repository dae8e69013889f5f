import ResourceServer.Proofs.Http.Rendering
import ResourceServer.Proofs.Http.Understanding
import ResourceServer.Proofs.Route.Delivery
import ResourceServer.Proofs.Store.RevisionedMap

namespace ResourceServer

/-!
# Stores behind a server

A store that a server leads a request to answers it as it does by itself. It
leaves the context alone, so the answer shows the result of the request and the
advice that every request starts with, and nothing more.
-/

namespace Context

/-- Without the frames of the hops a context is what it was. -/
theorem outermost_pushHops
    (context : Context)
    (ids : IdSupply)
    (hops : List Hop) :
    (context.pushHops ids hops).outermost context.depth = context := by
  obtain ⟨added, isAdded, -⟩ := context.nodes_pushHops ids hops
  have depthAbove :
      (context.pushHops ids hops).depth - context.depth = added.length := by
    rw [depth, depth, isAdded, List.length_append, Nat.add_sub_cancel]
  rw [outermost, depthAbove, isAdded, List.drop_left]
  rfl

end Context

namespace Handler

/-- Wherever the handler leads a request to, there is a store. -/
def LeadsToStores
    (handler : Handler Endpoint) : Prop :=
  ∀ {name rest : Name} {hops : List Hop} {target : Endpoint},
    handler.Leads name hops target rest → ∃ slot, target = .store slot

theorem leadsToStores_store
    (slot : Nat) :
    (endpoint (Endpoint.store slot)).LeadsToStores := by
  intro name rest hops target leads
  cases leads
  exact ⟨slot, rfl⟩

/-- A router leads to stores if all its routes and its default route do. -/
theorem leadsToStores_router
    {table : Table (Handler Endpoint)}
    (routes : ∀ binding ∈ table.bindings, binding.target.LeadsToStores)
    (default : ∀ binding ∈ table.fallback, binding.target.LeadsToStores) :
    (router table).LeadsToStores := by
  intro name rest hops target leads
  cases leads with
  | @forward _ _ _ _ _ selection _ _ selected divided onward =>
      rcases Table.select_mem selected with isRoute | isDefault
      · exact routes selection.binding isRoute onward
      · exact default selection.binding isDefault onward

/-- A router with one route leads where the route leads. -/
theorem leadsToStores_only
    (matcher : Matcher)
    {target : Handler Endpoint}
    (toStores : target.LeadsToStores) :
    (router (Table.empty.insert matcher target)).LeadsToStores := by
  apply leadsToStores_router
  · intro binding isRoute
    cases List.mem_singleton.mp isRoute
    exact toStores
  · intro binding isDefault
    cases isDefault

end Handler

namespace World

variable
  {world : World}
  {handler : Handler Endpoint}
  {context : Context}
  {request : Request}
  {hops : List Hop}
  {slot : Nat}
  {rest : Name}

/-- The call that arrives at a store after some hops. -/
def callAfter
    (world : World)
    (request : Request)
    (hops : List Hop)
    (rest : Name) :
    Store.Call :=
  ⟨IdSupply.next ⟨world.ids.used + hops.length⟩, request.withName rest⟩

/-- A store answers what it is led to, and the context is as it was. -/
theorem handle_of_leads
    {store : Store}
    (leads : handler.Leads request.name hops (.store slot) rest)
    (isAt : world.stores[slot]? = some store) :
    let call := world.callAfter request hops rest
    world.handle handler context request =
      ⟨store.answer call, context,
        ⟨world.stores.set slot (store.after call),
          ⟨world.ids.used + hops.length + 1⟩⟩⟩ := by
  have delivered :
      handler.deliver world.ids context request =
        .ok (.after world.ids context request hops (.store slot) rest) :=
    Handler.deliver_eq_ok_iff.mpr ⟨hops, _, rest, leads, rfl⟩
  have isAtStill :
      (World.mk world.stores ⟨world.ids.used + hops.length⟩).stores[slot]? =
        some store :=
    isAt
  intro call
  rw [handle, delivered]
  simp only [Delivery.after, Store.answer_endpoint isAtStill,
    Context.outermost_pushHops]
  rfl

theorem handle_of_deliver_error
    {failure : Failure}
    (failed : handler.deliver world.ids context request = .error failure) :
    world.handle handler context request =
      ⟨.error failure, context, world⟩ := by
  rw [handle, failed]

theorem handle_of_absent
    (leads : handler.Leads request.name hops (.store slot) rest)
    (isAbsent : world.stores[slot]? = none) :
    world.handle handler context request =
      ⟨.error rest.leadsNowhere, context,
        ⟨world.stores, ⟨world.ids.used + hops.length⟩⟩⟩ := by
  have delivered :
      handler.deliver world.ids context request =
        .ok (.after world.ids context request hops (.store slot) rest) :=
    Handler.deliver_eq_ok_iff.mpr ⟨hops, _, rest, leads, rfl⟩
  rw [handle, delivered]
  simp only [Delivery.after, Endpoint.answer, isAbsent,
    Context.outermost_pushHops]
  rfl

/-- What stores answer comes from a store, and the context is as it was. -/
theorem handle_cases
    (world : World)
    (toStores : handler.LeadsToStores)
    (context : Context)
    (request : Request) :
    (world.handle handler context request).context = context ∧
      ∀ response,
        (world.handle handler context request).result = .ok response →
          ∃ hops slot rest store,
            handler.Leads request.name hops (.store slot) rest ∧
              world.stores[slot]? = some store ∧
              store.answer (world.callAfter request hops rest) =
                .ok response := by
  cases delivered : handler.deliver world.ids context request with
  | error failure =>
      rw [handle_of_deliver_error delivered]
      refine ⟨rfl, ?_⟩
      intro response answered
      cases answered
  | ok delivery =>
      obtain ⟨hops, target, rest, leads, -⟩ :=
        Handler.deliver_eq_ok_iff.mp delivered
      obtain ⟨slot, rfl⟩ := toStores leads
      cases isAt : world.stores[slot]? with
      | none =>
          rw [handle_of_absent leads isAt]
          refine ⟨rfl, ?_⟩
          intro response answered
          cases answered
      | some store =>
          rw [handle_of_leads leads isAt]
          refine ⟨rfl, ?_⟩
          intro response answered
          exact ⟨hops, slot, rest, store, leads, isAt, answered⟩

end World

namespace Server

/-- How the answer to a request is laid out, but for the advice. -/
def layout
    (adapted : Adapted) :
    Layout where
  verb := some adapted.request.verb
  fields := adapted.request.fields
  prettyPrint := adapted.prettyPrint
  locationBase := locationBase adapted.request

/-- Besides the result an answer shows no more than the first advice. -/
theorem dispatch_agreeOn
    {server : Server}
    {incoming : Incoming}
    {ids after : IdSupply}
    {context : Context}
    {name : String}
    (toStores : server.handler.LeadsToStores)
    (isContext :
      incoming.context server.settings ids = .ok (context, after))
    (world : World)
    (adapted : Adapted)
    (notAdvised : Text.fold ApiVersion.header ≠ name) :
    Outgoing.AgreeOn name (server.dispatch world context adapted).1
      (Outgoing.plain
        (world.handle server.handler context adapted.request).result
        (layout adapted)) := by
  obtain ⟨version, isAdvice⟩ := Incoming.advice_of_context isContext
  have sameContext :=
    (world.handle_cases toStores context adapted.request).1
  simp only [dispatch, Outgoing.render, sameContext, isAdvice]
  refine Outgoing.AgreeOn.advise _ ?_
  intro one member
  rw [Incoming.name_of_mem_firstAdvice member]
  exact notAdvised

theorem understand_eq_ok
    {server : Server}
    {incoming : Incoming}
    {ids after : IdSupply}
    {context : Context}
    {adapted : Adapted}
    (understood :
      server.understand ids incoming = .ok (adapted, context, after)) :
    incoming.context server.settings ids = .ok (context, after) ∧
      incoming.adapt = .ok adapted := by
  obtain ⟨_, _, understood⟩ := Name.bind_eq_ok_iff.mp understood
  obtain ⟨⟨built, supply⟩, isContext, understood⟩ :=
    Name.bind_eq_ok_iff.mp understood
  obtain ⟨asked, isAdapted, understood⟩ :=
    Name.bind_eq_ok_iff.mp understood
  cases understood
  exact ⟨isContext, isAdapted⟩

theorem exchange_of_understood
    {server : Server}
    {world : World}
    {incoming : Incoming}
    {ids : IdSupply}
    {context : Context}
    {adapted : Adapted}
    (declaresEnough : incoming.declaresTooMuch = false)
    (hasPath : incoming.hasPath = true)
    (understood :
      server.understand world.ids incoming = .ok (adapted, context, ids)) :
    let answered := server.dispatch ⟨world.stores, ids⟩ context adapted
    server.exchange world incoming =
      (finish incoming.method answered.1, answered.2) := by
  simp only [exchange, declaresEnough, hasPath, answer, understood,
    Bool.false_eq_true, Bool.not_true, if_false]

/-- Either a request is answered once it is understood, or it is refused. -/
theorem exchange_cases
    (server : Server)
    (world : World)
    (incoming : Incoming) :
    (400 ≤ (server.exchange world incoming).1.status ∧
        (server.exchange world incoming).2 = world) ∨
      incoming.hasPath = true ∧
        ∃ adapted context ids,
          server.understand world.ids incoming = .ok (adapted, context, ids) ∧
            let answered :=
              server.dispatch ⟨world.stores, ids⟩ context adapted
            server.exchange world incoming =
              (finish incoming.method answered.1, answered.2) := by
  cases declares : incoming.declaresTooMuch with
  | true =>
      refine .inl ?_
      simp only [exchange, declares, if_true, status_finish]
      exact ⟨by decide, trivial⟩
  | false =>
      cases hasPath : incoming.hasPath with
      | false =>
          refine .inl ?_
          simp only [exchange, declares, hasPath, Bool.false_eq_true,
            Bool.not_false, if_false, if_true, status_finish]
          exact ⟨by decide, trivial⟩
      | true =>
          cases understood : server.understand world.ids incoming with
          | error failure =>
              refine .inl ?_
              simp only [exchange, declares, hasPath, answer, understood,
                Bool.false_eq_true, Bool.not_true, if_false, status_finish]
              exact ⟨failure.le_status, trivial⟩
          | ok found =>
              obtain ⟨adapted, context, ids⟩ := found
              exact
                .inr ⟨rfl, adapted, context, ids, rfl,
                  exchange_of_understood declares hasPath understood⟩

end Server

end ResourceServer
