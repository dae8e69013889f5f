import ResourceServer.Store.Basic

namespace ResourceServer

/-!
# Collections and singletons

A collection is addressed by what is left of the name when a request reaches
it: nothing stands for the collection, one element for the instance of that
id. Which operations make sense depends on that. A singleton is a resource
without instances.
-/

/-- What a collection can be asked to do. -/
inductive CollectionCall where
  | create
  | query
  | action
  | readInstance (id : String)
  | updateInstance (id : String)
  | deleteInstance (id : String)
  | patchInstance (id : String)
  | actionInstance (id : String)
deriving Repr, DecidableEq

/-- What a singleton can be asked to do. -/
inductive SingletonCall where
  | read
  | update
  | patch
  | action
deriving Repr, DecidableEq

/-- The failure of a verb that a resource does not offer. -/
def Verb.unsupported (verb : Verb) : Failure :=
  .notSupported s!"{verb.text} is not supported by this resource"

/-- The failure of a name that leads nowhere. -/
def Name.leadsNowhere (name : Name) : Failure :=
  .notFound s!"resource '{name.display}' not found"

namespace CollectionCall

/-- What a verb asks of a collection as a whole. -/
def ofWhole : Verb → Except Failure CollectionCall
  | .create => .ok .create
  | .query => .ok .query
  | .action => .ok .action
  | other =>
      .error
        (.badRequest
          s!"the resource collection cannot be the target of a {other.text} request")

/-- What a verb asks of one instance. -/
def ofInstance (id : String) : Verb → Except Failure CollectionCall
  | .read => .ok (.readInstance id)
  | .update => .ok (.updateInstance id)
  | .delete => .ok (.deleteInstance id)
  | .patch => .ok (.patchInstance id)
  | .action => .ok (.actionInstance id)
  | other =>
      .error
        (.badRequest
          s!"the resource instance '{id}' cannot be the target of a {other.text} request")

/-- What a request asks of a collection. -/
def ofRequest (request : Request) : Except Failure CollectionCall :=
  match request.name.elements with
  | [] => ofWhole request.verb
  | [id] => ofInstance id request.verb
  | _ => .error request.name.leadsNowhere

end CollectionCall

namespace SingletonCall

/-- What a request asks of a singleton. -/
def ofRequest (request : Request) : Except Failure SingletonCall :=
  if request.name.isEmpty then
    match request.verb with
    | .read => .ok .read
    | .update => .ok .update
    | .patch => .ok .patch
    | .action => .ok .action
    | other =>
        .error
          (.badRequest
            s!"a singleton resource cannot be the target of a {other.text} request")
  else
    .error request.name.leadsNowhere

end SingletonCall

namespace Store

/-- The name of the action that counts the resources of a store. -/
def countAction : String := "count"

/-- The answer that shows an entry, beside the store it comes from. -/
def shown (changed : Entry × Store) : Response × Store :=
  (.resource changed.1.resource, changed.2)

/-- The failure of an operation that does not go with a call. -/
def expected (what : String) : Failure :=
  .internal s!"expected {what} request"

/--
Carry out a call with the operation of a request.

`freshId` is the id of a new resource for which no id is given. The store in
the result is the one after the call.
-/
def run
    (store : Store)
    (freshId : String)
    (call : CollectionCall)
    (operation : Operation) :
    Except Failure (Response × Store) :=
  match call, operation with
  | .create, .create content newId =>
      (store.create (newId.getD freshId) content).map shown
  | .create, _ => .error (expected "a create")
  | .query, .query query =>
      (store.query query).map fun page => (.query page, store)
  | .query, _ => .error (expected "a query")
  | .action, .action name _ =>
      if name = countAction then
        .ok (.action (Json.ofMembers [("count", Json.ofNat store.size)]), store)
      else
        .error
          (.notSupported s!"action '{name}' is not supported by '{store.name}'")
  | .action, _ => .error (expected "an action")
  | .readInstance id, _ =>
      (store.find id).map fun entry => (.resource entry.resource, store)
  | .updateInstance id, .update content revision =>
      (store.update id revision content).map shown
  | .updateInstance _, _ => .error (expected "an update")
  | .deleteInstance id, operation =>
      (store.delete id operation.revision?).map shown
  | .patchInstance id, .patch operations revision =>
      (store.patch id revision operations).map shown
  | .patchInstance _, _ => .error (expected "a patch")
  | .actionInstance _, operation => .error operation.verb.unsupported

/-- Carry out a request. -/
def handle
    (store : Store)
    (freshId : String)
    (request : Request) :
    Except Failure (Response × Store) := do
  store.run freshId (← CollectionCall.ofRequest request) request.operation

end Store

end ResourceServer
