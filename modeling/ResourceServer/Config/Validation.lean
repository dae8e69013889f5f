import ResourceServer.Config.Basic
import ResourceServer.Config.SocketAddress
import ResourceServer.Context.Advice
import ResourceServer.Text.Quoted

namespace ResourceServer

/-!
# Checking configurations

A configuration that can be read may still make no sense. All its faults are
reported together, in the order of the sections. Two mounts conflict where
their modes are the same and their patterns are equal as names.
-/

/-- What is wrong with a part of a configuration. -/
inductive ConfigFault where
  | noAddress (text : String)
  | zero
  | empty
  | noVersion (text : String)
  | unprintable (text : String)
  | mountedTwice (mode : Mode) (pattern : String)
  | noPattern (fault : Template.Fault)
  | unnamedCollection
deriving Repr, DecidableEq

namespace ConfigFault

/-- The fault in words. -/
def message : ConfigFault → String
  | .noAddress text => s!"'{text}' is not a socket address"
  | .zero => "must be greater than zero"
  | .empty => "must not be empty"
  | .noVersion text => s!"'{text}' is not a major.minor version"
  | .unprintable text => s!"'{Text.escaped text}' is not printable ASCII"
  | .mountedTwice mode pattern =>
      s!"duplicate {mode.text} mount for '{pattern}'"
  | .noPattern fault => fault.failure.message
  | .unnamedCollection => "collection name must not be empty"

end ConfigFault

/-- A part of a configuration and what is wrong with it. -/
structure ConfigProblem where
  place : String
  fault : ConfigFault
deriving Repr, DecidableEq

namespace ConfigProblem

/-- The problem in words. -/
def message (problem : ConfigProblem) : String :=
  s!"{problem.place}: {problem.fault.message}"

/-- The problem at a place where a condition is not met. -/
def require
    (condition : Bool)
    (place : String)
    (fault : ConfigFault) :
    List ConfigProblem :=
  if condition then [] else [⟨place, fault⟩]

/-- Several problems in words. -/
def summary (problems : List ConfigProblem) : String :=
  "Validation failed: " ++
    String.intercalate ", " (problems.map ConfigProblem.message)

end ConfigProblem

open ConfigProblem (require)

namespace ListenerSection

/-- What is wrong with the section. -/
def problems (listener : ListenerSection) : List ConfigProblem :=
  require (SocketAddress.parse? listener.address).isSome
      "listener.bind_address" (.noAddress listener.address) ++
    require (listener.maxConnections != 0) "listener.max_connections" .zero

end ListenerSection

namespace TimeoutSection

/-- What is wrong with the section. -/
def problems (timeouts : TimeoutSection) : List ConfigProblem :=
  require (timeouts.requestSeconds != 0) "timeouts.request_secs" .zero

end TimeoutSection

namespace ApiSection

/-- What is wrong with the section. -/
def problems (api : ApiSection) : List ConfigProblem :=
  require (!api.protocolName.isEmpty) "api.protocol_name" .empty ++
    require api.settings.isOk
      "api.protocol_version" (.noVersion api.protocolVersion) ++
    api.restricted.flatMap fun name =>
      require (!name.isEmpty && Advice.isLegal name)
        "api.restricted_advice_names" (.unprintable name)

end ApiSection

namespace ObservabilitySection

/-- What is wrong with the section; an address that is not used does not count. -/
def problems (observability : ObservabilitySection) : List ConfigProblem :=
  require
    (!observability.metricsEnabled ||
      (SocketAddress.parse? observability.metricsAddress).isSome)
    "observability.metrics_address" (.noAddress observability.metricsAddress)

end ObservabilitySection

namespace Mount

/-- The place of a mount in a configuration. -/
def place (index : Nat) : String :=
  s!"mounts[{index}]"

/--
What is wrong with some mounts.

`taken` holds the matchers of the mounts before them, and `index` tells how
many those are.
-/
def problemsFrom
    (index : Nat)
    (taken : List Matcher) :
    List Mount → List ConfigProblem
  | [] => []
  | mount :: rest =>
      let own :=
        require (!mount.collection.isEmpty) (place index) .unnamedCollection
      match Matcher.parse mount.mode mount.pattern with
      | .error fault =>
          ⟨place index, .noPattern fault⟩ :: own ++
            problemsFrom (index + 1) taken rest
      | .ok matcher =>
          require (!taken.any matcher.same)
              (place index) (.mountedTwice mount.mode mount.pattern) ++
            own ++ problemsFrom (index + 1) (matcher :: taken) rest

end Mount

namespace ServerConfig

/-- All that is wrong with a configuration. -/
def problems (config : ServerConfig) : List ConfigProblem :=
  config.listener.problems ++ config.timeouts.problems ++
    config.api.problems ++ config.observability.problems ++
    Mount.problemsFrom 0 [] config.mounts

end ServerConfig

end ResourceServer
