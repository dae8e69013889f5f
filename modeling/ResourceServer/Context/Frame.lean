import ResourceServer.Context.Advice
import ResourceServer.Context.Locale
import ResourceServer.Context.Version
import ResourceServer.Json.Basic

namespace ResourceServer

/-!
# Frames

A frame is one piece of what is known about a request: who sent it, how it
arrived, which versions were agreed on, where routers sent it. Every frame has
a kind, by which it is looked up and saved. Applications may add kinds of their
own with any JSON value as payload.
-/

/-- The authenticated sender of a request. -/
structure Principal where
  id : String
  authorization : Record Json
deriving Repr, DecidableEq

/-- The message of HTTP that a request arrived in. -/
structure Arrival where
  method : String
  path : String
  headers : Record (List String)
  parameters : Record (List String)
deriving Repr, DecidableEq

namespace Arrival

/-- The first value of a header, whatever the case of its letters. -/
def header? (arrival : Arrival) (name : String) : Option String :=
  match arrival.headers.find? fun header => Text.sameFold header.1 name with
  | some (_, value :: _) => some value
  | _ => none

/-- The first value of a parameter. -/
def parameter? (arrival : Arrival) (name : String) : Option String :=
  match arrival.parameters.get? name with
  | some (value :: _) => some value
  | _ => none

end Arrival

/-- One step of a request through a router. -/
structure Hop where
  /-- The path that the route covers. -/
  matched : String
  /-- The path that is forwarded. -/
  remaining : String
  variableValues : Record String
deriving Repr, DecidableEq

/-- One piece of what is known about a request. -/
inductive Frame where
  /-- The start of every context. -/
  | root
  | security (principal : Principal)
  | http (arrival : Arrival)
  | apiVersion (version : ApiVersion)
  | advice (advice : Advice)
  | locale (locales : Locales)
  /-- A request that the server sends to itself. -/
  | internal
  | router (hop : Hop)
  /-- A frame of an application. -/
  | custom (kind : String) (payload : Json)
deriving Repr, DecidableEq

/-- The kinds of frames that can be looked up by what they hold. -/
inductive FrameKind where
  | security
  | http
  | apiVersion
  | advice
  | locale
  | router
deriving Repr, DecidableEq

namespace FrameKind

/-- The name of a kind. -/
def text : FrameKind → String
  | .security => "security"
  | .http => "http"
  | .apiVersion => "apiVersion"
  | .advice => "advice"
  | .locale => "locale"
  | .router => "router"

/-- The kind of a name. -/
def ofText? : String → Option FrameKind
  | "security" => some .security
  | "http" => some .http
  | "apiVersion" => some .apiVersion
  | "advice" => some .advice
  | "locale" => some .locale
  | "router" => some .router
  | _ => none

end FrameKind

namespace Frame

/-- The name of the kind of root frames. -/
def rootKind : String := "root"

/-- The name of the kind of internal frames. -/
def internalKind : String := "internal"

/-- The name of a frame's kind. -/
def kind : Frame → String
  | .root => rootKind
  | .security _ => FrameKind.text .security
  | .http _ => FrameKind.text .http
  | .apiVersion _ => FrameKind.text .apiVersion
  | .advice _ => FrameKind.text .advice
  | .locale _ => FrameKind.text .locale
  | .internal => internalKind
  | .router _ => FrameKind.text .router
  | .custom name _ => name

/-- Whether a frame holds what frames of a kind hold. -/
def holds : FrameKind → Frame → Bool
  | .security, .security _ => true
  | .http, .http _ => true
  | .apiVersion, .apiVersion _ => true
  | .advice, .advice _ => true
  | .locale, .locale _ => true
  | .router, .router _ => true
  | _, _ => false

/-- The principal of a security frame. -/
def asPrincipal? : Frame → Option Principal
  | .security principal => some principal
  | _ => none

/-- The arrival of an HTTP frame. -/
def asArrival? : Frame → Option Arrival
  | .http arrival => some arrival
  | _ => none

/-- The versions of a version frame. -/
def asApiVersion? : Frame → Option ApiVersion
  | .apiVersion version => some version
  | _ => none

/-- The advice of an advice frame. -/
def asAdvice? : Frame → Option Advice
  | .advice given => some given
  | _ => none

/-- The locales of a locale frame. -/
def asLocales? : Frame → Option Locales
  | .locale locales => some locales
  | _ => none

/-- The hop of a router frame. -/
def asHop? : Frame → Option Hop
  | .router hop => some hop
  | _ => none

end Frame

end ResourceServer
