import ResourceServer.Context.Basic
import ResourceServer.Http.Incoming
import ResourceServer.Http.Settings
import ResourceServer.IdSupply

namespace ResourceServer

/-!
# The context of an HTTP request

Every request starts with a context of its own: the message it arrived in, the
languages its sender prefers, the versions agreed on, and an empty list of
advice that starts with the agreed versions.
-/

namespace ApiVersion

/-- The header field that tells clients which versions were agreed on. -/
def header : String := "Content-API-Version"

/-- The agreed versions, in the way that clients ask for versions. -/
def display (version : ApiVersion) : String :=
  match version.resource with
  | some resource =>
      s!"protocol={version.protocol.display},resource={resource.display}"
  | none => s!"protocol={version.protocol.display}"

end ApiVersion

namespace Incoming

/-- The values of a query by the names of their parameters. -/
def parameterRecord (query : List (String × String)) : Record (List String) :=
  query.foldl
    (fun record parameter =>
      record.insert parameter.1
        ((record.get? parameter.1).getD [] ++ [parameter.2]))
    []

/-- The message that a request arrives in. -/
def arrival (incoming : Incoming) : Arrival :=
  {
    method := incoming.method
    path := incoming.path
    headers := incoming.headers.texts
    parameters := parameterRecord incoming.query
  }

/-- The versions that the sender accepts. -/
def acceptedVersions (incoming : Incoming) : Except Failure AcceptedVersions :=
  match incoming.headers.text? "accept-api-version" with
  | some header => AcceptedVersions.parse header
  | none => .ok AcceptedVersions.any

/-- The languages that the sender prefers. -/
def locales? (incoming : Incoming) : Option Locales :=
  (incoming.headers.text? "accept-language").map Locales.ofHeader

/-- The advice that every request starts with. -/
def firstAdvice (settings : ApiSettings) (version : ApiVersion) : Advice :=
  let advice := Advice.empty settings.restricted
  match advice.put ApiVersion.header version.display with
  | .ok advised => advised
  | .error _ => advice

/-- The frames of a request's context beyond the root, the outermost first. -/
def frames
    (incoming : Incoming)
    (settings : ApiSettings) :
    Except Failure (List Frame) := do
  let accepted ← incoming.acceptedVersions
  let version ←
    ApiVersion.negotiate settings.protocolName settings.protocol accepted
  return .http incoming.arrival ::
    incoming.locales?.toList.map Frame.locale ++
      [.apiVersion version, .advice (firstAdvice settings version)]

/-- The context of a request, and the supply after its frames have their ids. -/
def context
    (incoming : Incoming)
    (settings : ApiSettings)
    (ids : IdSupply) :
    Except Failure (Context × IdSupply) :=
  (incoming.frames settings).map fun frames =>
    frames.foldl
      (fun (context, ids) frame =>
        (context.push ids.next frame, ids.advance))
      (Context.root ids.next, ids.advance)

end Incoming

end ResourceServer
