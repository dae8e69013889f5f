import ResourceServer.Context.Basic
import ResourceServer.Text.Quoted

namespace ResourceServer

/-!
# Saving and restoring contexts

A saved context is nested JSON: each frame is an object of its kind, its
payload and the saved rest of the chain, and the id of a frame travels inside
its payload. Restoring needs to know how payloads of each kind are read; a
registry tells which kinds are known.
-/

namespace Frame

/-- The payload of an application's frame; what is no object is wrapped in one. -/
def customPayload : Json → Record Json
  | .object members => members
  | other => [("value", other)]

/-- What a frame holds, as members of an object. -/
def payload : Frame → Record Json
  | .root => []
  | .internal => []
  | .security principal =>
      [("authenticationId", .string principal.id),
        ("authorization", .object principal.authorization)]
  | .http arrival =>
      [("headers", .object (arrival.headers.mapValues Json.ofTexts)),
        ("method", .string arrival.method),
        ("parameters", .object (arrival.parameters.mapValues Json.ofTexts)),
        ("path", .string arrival.path)]
  | .apiVersion version =>
      [("protocolName", .string version.protocolName),
        ("protocolVersion", .string version.protocol.display)] ++
        version.resource.toList.map fun resource =>
          ("resourceVersion", .string resource.display)
  | .advice given =>
      [("advices", .object (given.values.mapValues Json.ofTexts)),
        ("restrictedAdviceNames", Json.ofTexts given.restricted)]
  | .locale locales => [("preferredLocales", Json.ofTexts locales.preferred)]
  | .router hop =>
      [("matchedUri", .string hop.matched),
        ("remainingUri", .string hop.remaining),
        ("uriTemplateVariables", Json.ofTextRecord hop.variableValues)]
  | .custom _ payload => customPayload payload

end Frame

/-- What the frames of a kind hold, the nearest first, by the kind's name. -/
def Context.payloads (context : Context) (kind : String) : List (Record Json) :=
  (context.nodes.filter fun node => node.frame.kind == kind).map
    (·.frame.payload)

namespace Archive

/-- The member that holds the id of a frame. -/
def idKey : String := "id"

/-- Save a frame and the saved rest of its chain. -/
def saveNode (node : Node) (rest : Option Json) : Json :=
  .object <|
    ("kind", .string node.frame.kind) ::
      (rest.toList.map fun parent => ("parent", parent)) ++
      [("payload",
        .object (node.frame.payload.insert idKey (.string node.id)))]

/-- Save a chain. -/
def saveFrom (own : Node) : List Node → Json
  | [] => saveNode own none
  | next :: outer => saveNode own (some (saveFrom next outer))

/-- How payloads of a kind are read. -/
inductive Reader where
  | root
  | internal
  | typed (kind : FrameKind)
  /-- Payloads of applications are kept as they are. -/
  | custom
deriving Repr, DecidableEq

/-- A required member. -/
def required {α : Type}
    (payload : Record Json)
    (key : String)
    (read? : Json → Option α) :
    Option α :=
  (payload.get? key).bind read?

/-- A member that may be missing. -/
def optional {α : Type}
    (payload : Record Json)
    (key : String)
    (read? : Json → Option α)
    (missing : α) :
    Option α :=
  match payload.get? key with
  | none => some missing
  | some value => read? value

/-- A version written as a text. -/
def readVersion? (value : Json) : Option Version :=
  match value.asText?.map Version.parse with
  | some (.ok version) => some version
  | _ => none

/-- A value that null stands for the absence of. -/
def readNullable {α : Type}
    (read? : Json → Option α)
    (value : Json) :
    Option (Option α) :=
  if value.isNull then some none else (read? value).map some

/-- Read what security frames hold. -/
def readPrincipal? (payload : Record Json) : Option Principal := do
  return {
    id := ← required payload "authenticationId" Json.asText?
    authorization := ← optional payload "authorization" Json.asMembers? []
  }

/-- Read what HTTP frames hold. -/
def readArrival? (payload : Record Json) : Option Arrival := do
  return {
    method := ← required payload "method" Json.asText?
    path := ← required payload "path" Json.asText?
    headers := ← optional payload "headers" (Json.asRecord? Json.asTexts?) []
    parameters :=
      ← optional payload "parameters" (Json.asRecord? Json.asTexts?) []
  }

/-- Read what version frames hold. -/
def readApiVersion? (payload : Record Json) : Option ApiVersion := do
  return {
    protocolName := ← required payload "protocolName" Json.asText?
    protocol := ← required payload "protocolVersion" readVersion?
    resource :=
      ← optional payload "resourceVersion" (readNullable readVersion?) none
  }

/-- Read what locale frames hold. -/
def readLocales? (payload : Record Json) : Option Locales :=
  (required payload "preferredLocales" Json.asTexts?).map (⟨·⟩)

/-- Read what router frames hold. -/
def readHop? (payload : Record Json) : Option Hop := do
  return {
    matched := ← required payload "matchedUri" Json.asText?
    remaining := ← required payload "remainingUri" Json.asText?
    variableValues :=
      ← optional payload "uriTemplateVariables" (Json.asRecord? Json.asText?) []
  }

/-- Read one member of what advice frames hold; it may be null or missing. -/
def readAdviceMember {α : Type}
    (payload : Record Json)
    (key : String)
    (read? : Json → Option α)
    (missing : α) :
    Except Failure α :=
  match optional payload key (readNullable read?) none with
  | some value => .ok (value.getD missing)
  | none => .error (.contextRestore s!"advice payload has invalid {key}")

/-- Read what advice frames hold. -/
def readAdvice (payload : Record Json) : Except Failure Advice := do
  let restricted ←
    readAdviceMember payload "restrictedAdviceNames" Json.asTexts? []
  let values ←
    readAdviceMember payload "advices" (Json.asRecord? Json.asTexts?) []
  return ⟨restricted, values⟩

/-- The frame that was read, or the failure of a payload that cannot be. -/
def typedFrame {α : Type}
    (kind : FrameKind)
    (frame : α → Frame) :
    Option α → Except Failure Frame
  | some content => .ok (frame content)
  | none =>
      .error
        (.contextRestore s!"payload of kind '{kind.text}' is invalid: ")

/-- Read the payload of a frame. -/
def Reader.read
    (reader : Reader)
    (kind : String)
    (payload : Record Json) :
    Except Failure Frame :=
  match reader with
  | .root => .ok .root
  | .internal => .ok .internal
  | .custom => .ok (.custom kind (.object payload))
  | .typed .security =>
      typedFrame .security Frame.security (readPrincipal? payload)
  | .typed .http => typedFrame .http Frame.http (readArrival? payload)
  | .typed .apiVersion =>
      typedFrame .apiVersion Frame.apiVersion (readApiVersion? payload)
  | .typed .advice => (readAdvice payload).map Frame.advice
  | .typed .locale => typedFrame .locale Frame.locale (readLocales? payload)
  | .typed .router => typedFrame .router Frame.router (readHop? payload)

end Archive

/-- The kinds of frames that can be restored. -/
structure KindRegistry where
  readers : Record Archive.Reader
deriving Repr, DecidableEq

namespace KindRegistry

/-- The registry that knows no kind. -/
def empty : KindRegistry := ⟨[]⟩

/-- The registry of the kinds of this library. -/
def builtin : KindRegistry :=
  ⟨Record.ofList <|
    (Frame.rootKind, .root) :: (Frame.internalKind, .internal) ::
      [FrameKind.security, .http, .apiVersion, .advice, .locale, .router].map
        fun kind => (kind.text, .typed kind)⟩

/-- The registry with one more kind of an application, or with it in place. -/
def register (registry : KindRegistry) (kind : String) : KindRegistry :=
  ⟨registry.readers.insert kind .custom⟩

/-- Whether a kind is known. -/
def knows (registry : KindRegistry) (kind : String) : Bool :=
  registry.readers.has kind

/-- Read the payload of a frame of some kind. -/
def read
    (registry : KindRegistry)
    (kind : String)
    (payload : Record Json) :
    Except Failure Frame :=
  match registry.readers.get? kind with
  | some reader => reader.read kind payload
  | none => .error (.contextRestore s!"unknown context kind '{kind}'")

/-- The registry as it is described for inspection. -/
def describe (registry : KindRegistry) : String :=
  "KindRegistry \x7b kinds: " ++ Text.quotedList registry.readers.keys ++
    " \x7d"

end KindRegistry

namespace Archive

/-- A saved frame whose payload has not been read. -/
structure Layer where
  kind : String
  payload : Record Json
deriving Repr, DecidableEq

/-- Members are smaller than the record they are in. -/
theorem sizeOf_get?
    {record : Record Json}
    {key : String}
    {value : Json}
    (found : record.get? key = some value) :
    sizeOf value < sizeOf record := by
  induction record with
  | nil =>
      simp [Record.get?] at found
  | cons pair rest inductionHypothesis =>
      obtain ⟨name, content⟩ := pair
      simp only [Record.get?] at found
      split at found
      · simp only [Option.some.injEq] at found
        subst found
        simp
        omega
      · have smaller := inductionHypothesis found
        simp
        omega

/-- The saved frames of a chain, the nearest first. -/
def layers (saved : Json) : Except Failure (List Layer) :=
  match saved with
  | .object members =>
      match (Record.get? members "kind").bind Json.asText? with
      | none => .error (.contextRestore "saved context frame has no kind")
      | some kind =>
          match (Record.get? members "payload").bind Json.asMembers? with
          | none =>
              .error
                (.contextRestore s!"saved '{kind}' frame has no payload object")
          | some payload =>
              let misplaced : Failure :=
                .contextRestore
                  s!"frame '{kind}' is misplaced: only the root frame may lack a parent"
              match found : Record.get? members "parent" with
              | none =>
                  if kind = Frame.rootKind then
                    .ok [⟨kind, payload⟩]
                  else
                    .error misplaced
              | some parent =>
                  if kind = Frame.rootKind ∧ parent.isNull then
                    .ok [⟨kind, payload⟩]
                  else if kind = Frame.rootKind ∨ parent.isNull then
                    .error misplaced
                  else
                    have _smaller := sizeOf_get? found
                    (layers parent).map (⟨kind, payload⟩ :: ·)
  | _ => .error (.contextRestore "saved context frame is not an object")
termination_by sizeOf saved
decreasing_by
  simp only [Json.object.sizeOf_spec]
  omega

/-- Restore one frame. -/
def readLayer
    (registry : KindRegistry)
    (layer : Layer) :
    Except Failure Node :=
  match (layer.payload.get? idKey).bind Json.asText? with
  | none => .error (.contextRestore s!"saved '{layer.kind}' frame has no id")
  | some id =>
      (registry.read layer.kind (layer.payload.erase idKey)).map fun frame =>
        ⟨id, frame⟩

end Archive

namespace Context

/-- The context as nested JSON. -/
def save (context : Context) : Json :=
  Archive.saveFrom context.own context.outer

/-- The context that was saved, from the root on. -/
def restore
    (registry : KindRegistry)
    (saved : Json) :
    Except Failure Context := do
  let layers ← Archive.layers saved
  let nodes ← layers.reverse.mapM (Archive.readLayer registry)
  match nodes.reverse with
  | own :: outer => return ⟨own, outer⟩
  | [] => throw (.contextRestore "empty saved context")

end Context

end ResourceServer
