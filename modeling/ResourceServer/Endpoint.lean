import ResourceServer.Collection
import ResourceServer.Route.Dispatch

namespace ResourceServer

/-!
# Endpoints and the world they work on

An endpoint answers the requests that reach it. It may be a store, a
collection or singleton of an application, or any function. Stores and the
supply of fresh ids make up the world that requests change; advice that an
endpoint leaves shows in the context that it hands back.
-/

/-- What an endpoint answers, and the context after it. -/
abbrev Answer := Context → Request → Except Failure Response × Context

/-- What can stand at the end of a route. -/
inductive Endpoint where
  /-- The store of a number. -/
  | store (slot : Nat)
  /-- A collection that offers some of its calls. -/
  | collection (offers : CollectionCall → Option Answer)
  /-- A singleton that offers some of its calls. -/
  | singleton (offers : SingletonCall → Option Answer)
  | function (answer : Answer)

/-- All that requests may change. -/
structure World where
  stores : List Store
  ids : IdSupply
deriving Repr, DecidableEq

namespace World

/-- The world without stores. -/
def empty : World := ⟨[], IdSupply.start⟩

/-- The world after an id is given out. -/
def advance (world : World) : World :=
  { world with ids := world.ids.advance }

/-- The world with one more store, whose number is the last. -/
def addStore (world : World) (store : Store) : World :=
  { world with stores := world.stores ++ [store] }

end World

/-- The result of a request, with the context and the world after it. -/
structure Handled where
  result : Except Failure Response
  context : Context
  world : World

namespace Endpoint

/-- Answer with one of the calls that an application offers. -/
def offered
    {call : Type}
    (offers : call → Option Answer)
    (wanted : Except Failure call)
    (context : Context)
    (request : Request) :
    Except Failure Response × Context :=
  match wanted with
  | .error failure => (.error failure, context)
  | .ok wanted =>
      match offers wanted with
      | some answer => answer context request
      | none => (.error request.verb.unsupported, context)

/-- Answer a request that has arrived. -/
def answer
    (endpoint : Endpoint)
    (world : World)
    (context : Context)
    (request : Request) :
    Handled :=
  match endpoint with
  | .store slot =>
      match world.stores[slot]? with
      | none => ⟨.error request.name.leadsNowhere, context, world⟩
      | some found =>
          match found.handle world.ids.next request with
          | .error failure => ⟨.error failure, context, world.advance⟩
          | .ok (response, changed) =>
              ⟨.ok response, context,
                {
                  stores := world.stores.set slot changed
                  ids := world.ids.advance
                }⟩
  | .collection offers =>
      let (result, after) :=
        offered offers (CollectionCall.ofRequest request) context request
      ⟨result, after, world⟩
  | .singleton offers =>
      let (result, after) :=
        offered offers (SingletonCall.ofRequest request) context request
      ⟨result, after, world⟩
  | .function given =>
      let (result, after) := given context request
      ⟨result, after, world⟩

end Endpoint

namespace World

/--
Carry out a request.

The context in the result has the frames of the context given, with the advice
that was left in them.
-/
def handle
    (world : World)
    (handler : Handler Endpoint)
    (context : Context)
    (request : Request) :
    Handled :=
  match handler.deliver world.ids context request with
  | .error failure => ⟨.error failure, context, world⟩
  | .ok delivery =>
      let handled :=
        delivery.target.answer
          { world with ids := delivery.ids } delivery.context delivery.request
      { handled with context := handled.context.outermost context.depth }

end World

end ResourceServer
