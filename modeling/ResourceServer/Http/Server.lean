import ResourceServer.Endpoint
import ResourceServer.Http.Arrival
import ResourceServer.Http.Outgoing
import ResourceServer.Http.Protocol
import ResourceServer.Http.Reception

namespace ResourceServer

/-!
# HTTP exchanges

A server turns each HTTP request into a context and a request for a resource,
has its handler carry that out and shows the result. The stores and the supply
of ids pass from one exchange to the next.
-/

/-- A server: its settings and what it leads requests to. -/
structure Server where
  settings : ApiSettings
  handler : Handler Endpoint

namespace Server

/-- How the server names itself in its answers. -/
def label : String := "resource-router/0.1.0"

/-- The answer with the name of the server, unless it has one already. -/
def sign (outgoing : Outgoing) : Outgoing :=
  if outgoing.headers.has "server" then
    outgoing
  else
    outgoing.setHeader "server" label

/-- The answer as it is sent: what a HEAD request is answered has no body. -/
def finish (method : String) (outgoing : Outgoing) : Outgoing :=
  let signed := sign outgoing
  if method = "HEAD" then { signed with body := "" } else signed

/-- The path of the collection in which a request creates a resource. -/
def locationBase (request : Request) : Option String :=
  if request.verb = .create then some ("/" ++ request.name.display) else none

/-- Answer a request that is understood. -/
def dispatch
    (server : Server)
    (world : World)
    (context : Context)
    (adapted : Adapted) :
    Outgoing × World :=
  let handled := world.handle server.handler context adapted.request
  let advice :=
    match handled.context.advice with
    | .ok advice => advice.values
    | .error _ => []
  (Outgoing.render handled.result {
    verb := some adapted.request.verb
    fields := adapted.request.fields
    prettyPrint := adapted.prettyPrint
    locationBase := locationBase adapted.request
    advice := advice
  }, handled.world)

/-- What a request asks for, the context it is asked in and the supply after. -/
def understand
    (server : Server)
    (ids : IdSupply)
    (incoming : Incoming) :
    Except Failure (Adapted × Context × IdSupply) := do
  incoming.receiveBody
  let (context, ids) ← incoming.context server.settings ids
  let adapted ← incoming.adapt
  return (adapted, context, ids)

/-- Answer a request, which may not be understood. -/
def answer
    (server : Server)
    (world : World)
    (incoming : Incoming) :
    Outgoing × World :=
  match server.understand world.ids incoming with
  | .error failure =>
      (Outgoing.ofFailure failure incoming.wantsPrettyPrint, world)
  | .ok (adapted, context, ids) =>
      server.dispatch { world with ids := ids } context adapted

/-- The answer to a request that declares too long a body. -/
def turnAway : Outgoing :=
  {
    status := 413
    headers := [("content-type", ["text/plain; charset=utf-8"])]
    body := Incoming.tooLong
  }

/-- The answer to a request whose target has no path. -/
def nowhere : Outgoing := ⟨404, [], ""⟩

/-- One exchange: the answer as it is sent, and the world after it. -/
def exchange
    (server : Server)
    (world : World)
    (incoming : Incoming) :
    Outgoing × World :=
  if incoming.declaresTooMuch then
    (finish incoming.method turnAway, world)
  else if !incoming.hasPath then
    (finish incoming.method nowhere, world)
  else
    let (outgoing, after) := server.answer world incoming
    (finish incoming.method outgoing, after)

end Server

end ResourceServer
