import ResourceServer.Failure
import ResourceServer.Text.Blank
import ResourceServer.Text.Digits
import ResourceServer.Text.Fold

namespace ResourceServer

/-!
# Protocol and resource versions

A server speaks one version of its protocol. A client may ask for a version of
the protocol and for one of the resource; the server agrees to any protocol
version of its own major number that is not newer than its own.
-/

/-- A version number of two parts. -/
structure Version where
  major : Nat
  minor : Nat
deriving Repr, DecidableEq

namespace Version

/-- Whether a server of this version can serve a client of another. -/
def serves (version requested : Version) : Bool :=
  version.major == requested.major && requested.minor ≤ version.minor

/-- The version as it is written. -/
def display (version : Version) : String :=
  s!"{version.major}.{version.minor}"

/-- The failure of a text that writes no version. -/
def invalid (text : String) : Failure :=
  .badRequest s!"'{text}' is not a valid version"

/-- The version that a text writes; the minor part may be left out. -/
def parse (text : String) : Except Failure Version :=
  let trimmed := Text.trim text
  let (major, minor) :=
    match Text.splitFirst? '.' trimmed with
    | some parts => parts
    | none => (trimmed, "0")
  match Text.unsigned? Text.limit32 major, Text.unsigned? Text.limit32 minor with
  | some major, some minor => .ok ⟨major, minor⟩
  | _, _ => .error (invalid text)

end Version

/-- The versions that a client asks for. -/
structure AcceptedVersions where
  protocol : Option Version
  resource : Option Version
deriving Repr, DecidableEq

namespace AcceptedVersions

/-- A client that asks for no version. -/
def any : AcceptedVersions := ⟨none, none⟩

/-- Read one part of a header and put it beside the parts before it. -/
def addPart
    (accepted : AcceptedVersions)
    (part : String) :
    Except Failure AcceptedVersions :=
  match Text.splitFirst? '=' part with
  | none => .error (.badRequest s!"malformed API version part '{part}'")
  | some (key, value) =>
      match Text.fold (Text.trim key) with
      | "protocol" =>
          (Version.parse value).map fun version =>
            { accepted with protocol := some version }
      | "resource" =>
          (Version.parse value).map fun version =>
            { accepted with resource := some version }
      | other => .error (.badRequest s!"unknown API version key '{other}'")

/-- The parts of a header, between commas; blank ones do not count. -/
def parts (header : String) : List String :=
  ((Text.pieces ',' header).map Text.trim).filter (· != "")

/-- Read a header such as `protocol=2.0,resource=1.0`. -/
def parse (header : String) : Except Failure AcceptedVersions :=
  (parts header).foldlM addPart any

end AcceptedVersions

/-- The versions that client and server agree on. -/
structure ApiVersion where
  protocolName : String
  protocol : Version
  resource : Option Version
deriving Repr, DecidableEq

namespace ApiVersion

/-- Agree on the versions that a client asks for, if the server serves them. -/
def negotiate
    (protocolName : String)
    (server : Version)
    (accepted : AcceptedVersions) :
    Except Failure ApiVersion :=
  let agreed :=
    ⟨protocolName, accepted.protocol.getD server, accepted.resource⟩
  match accepted.protocol with
  | some requested =>
      if server.serves requested then
        .ok agreed
      else
        .error
          (.badRequest
            s!"unsupported protocol version {requested.display} (server speaks {server.display})")
  | none => .ok agreed

end ApiVersion

end ResourceServer
