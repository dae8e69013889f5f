import ResourceServer.Context.Version

namespace ResourceServer

/-!
# Settings of the protocol

What a server tells clients about its protocol, and the header fields that
advice may not touch.
-/

/-- The settings that apply to every request. -/
structure ApiSettings where
  protocolName : String
  protocol : Version
  /-- Names that advice may not have. -/
  restricted : List String
deriving Repr, DecidableEq

namespace ApiSettings

/-- The name of the protocol unless another is set. -/
def standardName : String := "crest"

/-- The text of the protocol version unless another is set. -/
def standardVersion : String := "2.0"

/-- Header fields that the server writes itself. -/
def standardRestricted : List String :=
  ["Content-Type", "Content-Length", "Content-Encoding",
    "Content-Disposition", "Connection", "Transfer-Encoding", "Cache-Control",
    "Pragma", "Expires", "ETag", "Location", "Set-Cookie", "Date", "Server"]

/-- The settings unless others are made. -/
def standard : ApiSettings :=
  ⟨standardName, ⟨2, 0⟩, standardRestricted⟩

/-- The settings with a version written as a text. -/
def parse
    (protocolName version : String)
    (restricted : List String) :
    Except Failure ApiSettings :=
  (Version.parse version).map fun protocol =>
    ⟨protocolName, protocol, restricted⟩

end ApiSettings

end ResourceServer
