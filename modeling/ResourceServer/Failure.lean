import ResourceServer.Text.Quoted

namespace ResourceServer

/-!
# Failures

Everything that can go wrong while a request is addressed, routed or carried
out is one of these kinds. Each kind has a status of HTTP and a fixed
beginning of its message.
-/

/-- A failed request, by kind. -/
inductive Failure where
  /-- The text of a resource name breaks the rules of names. -/
  | malformedName (reason : String)
  /-- No route matches the name. -/
  | routeNotFound (name : String)
  /-- Several routes match the name equally well. -/
  | routeAmbiguous (name : String) (patterns : List String)
  /-- A context has no frame of this kind. -/
  | contextNotFound (kind : String)
  /-- A saved context cannot be rebuilt. -/
  | contextRestore (reason : String)
  /-- An argument was refused where it was given. -/
  | invalidArgument (reason : String)
  /-- The request makes no sense for its resource. -/
  | badRequest (reason : String)
  /-- The resource does not exist. -/
  | notFound (reason : String)
  /-- The resource does not offer the operation. -/
  | notSupported (reason : String)
  /-- The resource is no longer at the revision that the request names. -/
  | preconditionFailed (reason : String)
  /-- The operation clashes with the present state of the resource. -/
  | conflict (reason : String)
  /-- The server is at fault. -/
  | internal (reason : String)
deriving Repr, DecidableEq

namespace Failure

/-- The status of HTTP that reports the failure. -/
def status : Failure → Nat
  | .malformedName _ => 400
  | .invalidArgument _ => 400
  | .badRequest _ => 400
  | .routeNotFound _ => 404
  | .notFound _ => 404
  | .conflict _ => 409
  | .preconditionFailed _ => 412
  | .notSupported _ => 501
  | .routeAmbiguous _ _ => 500
  | .contextNotFound _ => 500
  | .contextRestore _ => 500
  | .internal _ => 500

/-- The phrase that goes with the status. -/
def reason (failure : Failure) : String :=
  match failure.status with
  | 400 => "Bad Request"
  | 404 => "Not Found"
  | 409 => "Conflict"
  | 412 => "Precondition Failed"
  | 501 => "Not Implemented"
  | _ => "Internal Server Error"

/-- The failure in words. -/
def message : Failure → String
  | .malformedName reason => "malformed resource name: " ++ reason
  | .routeNotFound name => s!"no route matched resource '{name}'"
  | .routeAmbiguous name patterns =>
      s!"ambiguous routes for resource '{name}': " ++ Text.quotedList patterns
  | .contextNotFound kind => s!"no context of kind '{kind}' in chain"
  | .contextRestore reason => "cannot restore context: " ++ reason
  | .invalidArgument reason => "invalid argument: " ++ reason
  | .badRequest reason => "bad request: " ++ reason
  | .notFound reason => "not found: " ++ reason
  | .notSupported reason => "not supported: " ++ reason
  | .preconditionFailed reason => "precondition failed: " ++ reason
  | .conflict reason => "conflict: " ++ reason
  | .internal reason => "internal error: " ++ reason

/-- Whether the caller, and not the server, is at fault. -/
def isCallerFault (failure : Failure) : Bool :=
  400 ≤ failure.status && failure.status < 500

end Failure

end ResourceServer
