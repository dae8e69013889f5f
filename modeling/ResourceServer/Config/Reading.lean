import ResourceServer.Config.Basic
import ResourceServer.Toml.Reader

namespace ResourceServer

/-!
# Reading configurations

A configuration is read from a JSON value or from a TOML text. A section is an
object, in which unknown keys do not count and missing ones have defaults, or
an array of its members in their order. The two notations differ in what they
admit beside that.
-/

/-- What a notation admits. -/
structure Dialect where
  /-- Whether items beyond the members of a section do not count. -/
  ignoresExtraItems : Bool
  /-- What stands beside a word written as the key of an object. -/
  isNothing : Json → Bool

namespace Dialect

/-- What configurations in JSON admit. -/
def json : Dialect := ⟨false, Json.isNull⟩

/-- What configurations in TOML admit. -/
def toml : Dialect := ⟨true, fun value => value == .array [] || value == .object []⟩

/-- The members of a section with these keys. -/
def members? (dialect : Dialect) (keys : List String) : Json → Option (Record Json)
  | .object members => some members
  | .array items =>
      if items.length ≤ keys.length ∨ dialect.ignoresExtraItems then
        some (Record.ofList (keys.zip items))
      else
        none
  | _ => none

/-- A word, written as a text or as the only key of an object. -/
def word? (dialect : Dialect) : Json → Option String
  | .string text => some text
  | .object [(text, beside)] => if dialect.isNothing beside then some text else none
  | _ => none

end Dialect

/-- The member of a section, or its default where it is missing. -/
def Record.readOr
    {α : Type}
    (members : Record Json)
    (key : String)
    (default : α)
    (read? : Json → Option α) :
    Option α :=
  match members.get? key with
  | none => some default
  | some value => read? value

/-- A natural number of sixty-four bits. -/
def Json.asCount? (value : Json) : Option Nat :=
  match value with
  | .number (.integer count) =>
      if 0 ≤ count ∧ count < Text.limit64 then some count.toNat else none
  | _ => none

namespace ListenerSection

/-- Read the section. -/
def read? (dialect : Dialect) (value : Json) : Option ListenerSection := do
  let members ← dialect.members? ["bind_address", "max_connections"] value
  let standard : ListenerSection := {}
  return {
    address := ← members.readOr "bind_address" standard.address Json.asText?
    maxConnections :=
      ← members.readOr "max_connections" standard.maxConnections Json.asCount?
  }

end ListenerSection

namespace TimeoutSection

/-- Read the section. -/
def read? (dialect : Dialect) (value : Json) : Option TimeoutSection := do
  let members ← dialect.members? ["request_secs"] value
  let standard : TimeoutSection := {}
  return {
    requestSeconds :=
      ← members.readOr "request_secs" standard.requestSeconds Json.asCount?
  }

end TimeoutSection

namespace ApiSection

/-- Read the section. -/
def read? (dialect : Dialect) (value : Json) : Option ApiSection := do
  let members ←
    dialect.members?
      ["protocol_name", "protocol_version", "restricted_advice_names"] value
  let standard : ApiSection := {}
  return {
    protocolName :=
      ← members.readOr "protocol_name" standard.protocolName Json.asText?
    protocolVersion :=
      ← members.readOr "protocol_version" standard.protocolVersion Json.asText?
    restricted :=
      ← members.readOr "restricted_advice_names" standard.restricted Json.asTexts?
  }

end ApiSection

namespace ObservabilitySection

/-- Read the section. -/
def read? (dialect : Dialect) (value : Json) : Option ObservabilitySection := do
  let members ←
    dialect.members?
      ["log_level", "log_format", "metrics_enabled", "metrics_address"] value
  let standard : ObservabilitySection := {}
  return {
    logLevel := ← members.readOr "log_level" standard.logLevel Json.asText?
    logFormat :=
      ← members.readOr "log_format" standard.logFormat fun value =>
        (dialect.word? value).bind LogFormat.ofText?
    metricsEnabled :=
      ← members.readOr "metrics_enabled" standard.metricsEnabled Json.asBool?
    metricsAddress :=
      ← members.readOr "metrics_address" standard.metricsAddress Json.asText?
  }

end ObservabilitySection

namespace Mount

/-- Read a mount, of which only the mode may be missing. -/
def read? (dialect : Dialect) (value : Json) : Option Mount := do
  let members ← dialect.members? ["pattern", "mode", "collection"] value
  return {
    pattern := ← (members.get? "pattern").bind Json.asText?
    mode :=
      ← members.readOr "mode" .startsWith fun value =>
        (dialect.word? value).bind Mode.ofText?
    collection := ← (members.get? "collection").bind Json.asText?
  }

end Mount

namespace ServerConfig

/-- Read a configuration. -/
def read? (dialect : Dialect) (value : Json) : Option ServerConfig := do
  let members ←
    dialect.members?
      ["listener", "timeouts", "api", "observability", "mounts"] value
  return {
    listener := ← members.readOr "listener" {} (ListenerSection.read? dialect)
    timeouts := ← members.readOr "timeouts" {} (TimeoutSection.read? dialect)
    api := ← members.readOr "api" {} (ApiSection.read? dialect)
    observability :=
      ← members.readOr "observability" {} (ObservabilitySection.read? dialect)
    mounts :=
      ← members.readOr "mounts" [] fun value =>
        value.asItems?.bind fun items => items.mapM (Mount.read? dialect)
  }

/-- The configuration that a JSON value describes. -/
def ofJson? (value : Json) : Option ServerConfig :=
  read? .json value

/-- The configuration that a TOML text describes. -/
def ofToml? (text : String) : Option ServerConfig :=
  (Toml.read? text).bind (read? .toml)

end ServerConfig

end ResourceServer
