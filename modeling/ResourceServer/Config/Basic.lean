import ResourceServer.Http.Settings
import ResourceServer.Json.Basic
import ResourceServer.Route.Matcher

namespace ResourceServer

/-!
# Configurations

A configuration has a section for each concern of a server and a list of the
collections that it starts with. Whatever it leaves out has a default.
-/

/-- Where a server listens, and how much it takes on at a time. -/
structure ListenerSection where
  address : String := "0.0.0.0:8080"
  maxConnections : Nat := 10000
deriving Repr, DecidableEq

/-- How long requests may take. -/
structure TimeoutSection where
  requestSeconds : Nat := 30
deriving Repr, DecidableEq

/-- What a server tells clients about its protocol. -/
structure ApiSection where
  protocolName : String := ApiSettings.standardName
  protocolVersion : String := ApiSettings.standardVersion
  restricted : List String := ApiSettings.standardRestricted
deriving Repr, DecidableEq

/-- How log lines are laid out. -/
inductive LogFormat where
  | pretty
  | json
deriving Repr, DecidableEq

/-- What a server tells those who run it. -/
structure ObservabilitySection where
  logLevel : String := "info"
  logFormat : LogFormat := .pretty
  metricsEnabled : Bool := true
  metricsAddress : String := "0.0.0.0:9090"
deriving Repr, DecidableEq

/-- A collection that a server starts with, and the route to it. -/
structure Mount where
  pattern : String
  mode : Mode := .startsWith
  collection : String
deriving Repr, DecidableEq

/-- The configuration of a server. -/
structure ServerConfig where
  listener : ListenerSection := {}
  timeouts : TimeoutSection := {}
  api : ApiSection := {}
  observability : ObservabilitySection := {}
  mounts : List Mount := []
deriving Repr, DecidableEq

namespace LogFormat

/-- The format as it is written in configurations. -/
def text : LogFormat → String
  | .pretty => "pretty"
  | .json => "json"

/-- The format that a text writes. -/
def ofText? : String → Option LogFormat
  | "pretty" => some .pretty
  | "json" => some .json
  | _ => none

end LogFormat

namespace ListenerSection

/-- The section as a JSON value. -/
def toJson (listener : ListenerSection) : Json :=
  Json.ofMembers
    [("bind_address", .string listener.address),
      ("max_connections", Json.ofNat listener.maxConnections)]

end ListenerSection

namespace TimeoutSection

/-- The section as a JSON value. -/
def toJson (timeouts : TimeoutSection) : Json :=
  Json.ofMembers [("request_secs", Json.ofNat timeouts.requestSeconds)]

end TimeoutSection

namespace ApiSection

/-- The section as a JSON value. -/
def toJson (api : ApiSection) : Json :=
  Json.ofMembers
    [("protocol_name", .string api.protocolName),
      ("protocol_version", .string api.protocolVersion),
      ("restricted_advice_names", Json.ofTexts api.restricted)]

/-- The settings of a server with this section. -/
def settings (api : ApiSection) : Except Failure ApiSettings :=
  ApiSettings.parse api.protocolName api.protocolVersion api.restricted

end ApiSection

namespace ObservabilitySection

/-- The section as a JSON value. -/
def toJson (observability : ObservabilitySection) : Json :=
  Json.ofMembers
    [("log_level", .string observability.logLevel),
      ("log_format", .string observability.logFormat.text),
      ("metrics_enabled", .bool observability.metricsEnabled),
      ("metrics_address", .string observability.metricsAddress)]

end ObservabilitySection

namespace Mount

/-- The mount as a JSON value. -/
def toJson (mount : Mount) : Json :=
  Json.ofMembers
    [("pattern", .string mount.pattern),
      ("mode", .string mount.mode.text),
      ("collection", .string mount.collection)]

end Mount

namespace ServerConfig

/-- The configuration as a JSON value, with everything that it leaves out. -/
def toJson (config : ServerConfig) : Json :=
  Json.ofMembers
    [("listener", config.listener.toJson),
      ("timeouts", config.timeouts.toJson),
      ("api", config.api.toJson),
      ("observability", config.observability.toJson),
      ("mounts", .array (config.mounts.map Mount.toJson))]

end ServerConfig

end ResourceServer
