import ResourceServer.Http.Form
import ResourceServer.Http.Headers

namespace ResourceServer

/-!
# Requests as they arrive

What an HTTP request consists of, once its query string is read.
-/

/-- An HTTP request. -/
structure Incoming where
  method : String
  path : String
  /-- The parameters of the query, in order. -/
  query : List (String × String)
  headers : Headers
  body : List UInt8
deriving Repr, DecidableEq

namespace Incoming

/-- Whether a character may belong to the scheme of an address. -/
def isSchemeChar (char : Char) : Bool :=
  char.isAlphanum || char == '+' || char == '-' || char == '.'

/-- Whether a character belongs to the host of an address. -/
def isHostChar (char : Char) : Bool :=
  char != '/' && char != '?' && char != '#'

/-- What follows the host, where a target is an address with a scheme. -/
def afterHost? (target : List Char) : Option (List Char) :=
  match target.dropWhile isSchemeChar with
  | ':' :: '/' :: '/' :: address => some (address.dropWhile isHostChar)
  | _ => none

/--
The part of a target from its path on.

An address without a path has the path of the root. The asterisk, which stands
for the server as a whole, is left as it is, and a bare host has no path.
-/
def localPart (target : List Char) : List Char :=
  match target with
  | '/' :: _ => target
  | ['*'] => target
  | _ =>
      match afterHost? target with
      | some ('/' :: path) => '/' :: path
      | some query => '/' :: query
      | none => []

/-- The path and the parameters of a target; what follows a hash is left out. -/
def splitTarget (target : String) : String × List (String × String) :=
  let chars := (localPart target.toList).takeWhile (· != '#')
  let path := chars.takeWhile (· != '?')
  let query := (chars.dropWhile (· != '?')).drop 1
  (String.ofList path, Form.parameters (String.ofList query))

/-- Whether the target has a path, so that it can name a resource. -/
def hasPath (incoming : Incoming) : Bool :=
  incoming.path.toList.head? == some '/'

end Incoming

end ResourceServer
