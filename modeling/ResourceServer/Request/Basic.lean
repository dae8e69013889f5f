import ResourceServer.Name
import ResourceServer.Request.Patch

namespace ResourceServer

/-!
# Requests

A request asks a resource for one of seven operations. Besides the operation
it carries the name of the resource, the fields to answer with and parameters
that mean something to the resource alone.
-/

/-- The seven things a resource can be asked for. -/
inductive Verb where
  | create
  | read
  | update
  | delete
  | patch
  | action
  | query
deriving Repr, DecidableEq

namespace Verb

/-- The word for a verb. -/
def text : Verb → String
  | .create => "create"
  | .read => "read"
  | .update => "update"
  | .delete => "delete"
  | .patch => "patch"
  | .action => "action"
  | .query => "query"

/-- The verb of a word. -/
def ofText? : String → Option Verb
  | "create" => some .create
  | "read" => some .read
  | "update" => some .update
  | "delete" => some .delete
  | "patch" => some .patch
  | "action" => some .action
  | "query" => some .query
  | _ => none

end Verb

/-- Whether a page of results tells how many results there are in all. -/
inductive CountPolicy where
  | none
  | estimate
  | exact
deriving Repr, DecidableEq

namespace CountPolicy

/-- The word for a policy. -/
def text : CountPolicy → String
  | .none => "NONE"
  | .estimate => "ESTIMATE"
  | .exact => "EXACT"

/-- The policy of a word, whatever the case of its letters. -/
def parse (word : String) : Except Failure CountPolicy :=
  match Text.capitals word with
  | "NONE" => .ok .none
  | "ESTIMATE" => .ok .estimate
  | "EXACT" => .ok .exact
  | _ => .error (.badRequest s!"'{word}' is not a valid count policy")

end CountPolicy

/-- A field to sort results by, and the direction. -/
structure SortKey where
  field : String
  ascending : Bool
deriving Repr, DecidableEq

namespace SortKey

/-- The direction and the field that a text writes, a plus being optional. -/
def split (text : String) : Bool × String :=
  match text.toList with
  | '+' :: rest => (true, String.ofList rest)
  | '-' :: rest => (false, String.ofList rest)
  | _ => (true, text)

/-- The sort key that a text writes. -/
def parse (text : String) : Except Failure SortKey :=
  let (ascending, field) := split text
  if field = "" then
    .error (.badRequest s!"'{text}' is not a valid sort key")
  else
    .ok ⟨field, ascending⟩

/-- The sort key with its sign. -/
def display (key : SortKey) : String :=
  (if key.ascending then "+" else "-") ++ key.field

end SortKey

/-- What a query asks for. -/
structure Query where
  filter : Option String := none
  id : Option String := none
  expression : Option String := none
  sortKeys : List SortKey := []
  pageSize : Nat := 0
  offset : Nat := 0
  cookie : Option String := none
  countPolicy : CountPolicy := .none
deriving Repr, DecidableEq

namespace Query

/-- How many of the three ways to select results a query uses. -/
def selectors (query : Query) : Nat :=
  ([query.filter, query.id, query.expression].filter Option.isSome).length

end Query

/-- The part of a request that depends on its verb. -/
inductive Operation where
  | create (content : Json) (newId : Option String)
  | read
  | update (content : Json) (revision : Option String)
  | delete (revision : Option String)
  | patch (operations : List PatchOperation) (revision : Option String)
  | action (name : String) (content : Json)
  | query (query : Query)
deriving Repr, DecidableEq

namespace Operation

/-- The verb of an operation. -/
def verb : Operation → Verb
  | .create _ _ => .create
  | .read => .read
  | .update _ _ => .update
  | .delete _ => .delete
  | .patch _ _ => .patch
  | .action _ _ => .action
  | .query _ => .query

/-- The revision that the resource must be at. -/
def revision? : Operation → Option String
  | .update _ revision => revision
  | .delete revision => revision
  | .patch _ revision => revision
  | _ => none

/-- The members that describe an operation. -/
def toMembers : Operation → List (String × Json)
  | .create content newId =>
      ("content", content) ::
        (newId.toList.map fun id => ("newResourceId", .string id))
  | .read => []
  | .update content revision =>
      ("content", content) ::
        (revision.toList.map fun revision => ("revision", .string revision))
  | .delete revision =>
      revision.toList.map fun revision => ("revision", .string revision)
  | .patch operations revision =>
      ("patchOperations", .array (operations.map PatchOperation.toJson)) ::
        (revision.toList.map fun revision => ("revision", .string revision))
  | .action name content => [("action", .string name), ("content", content)]
  | .query asked =>
      (asked.filter.toList.map fun text => ("queryFilter", .string text)) ++
        (asked.id.toList.map fun text => ("queryId", .string text)) ++
        (asked.expression.toList.map fun text =>
          ("queryExpression", .string text)) ++
        (asked.cookie.toList.map fun text =>
          ("pagedResultsCookie", .string text)) ++
        (if asked.sortKeys.isEmpty then []
          else
            [("sortKeys", Json.ofTexts (asked.sortKeys.map SortKey.display))]) ++
        [("pageSize", Json.ofNat asked.pageSize),
          ("pagedResultsOffset", Json.ofNat asked.offset),
          ("totalPagedResultsPolicy", .string asked.countPolicy.text)]

end Operation

/-- A request. -/
structure Request where
  name : Name
  /-- Pointers to the fields to answer with; none means all. -/
  fields : List String
  /-- Parameters that mean something to the resource alone. -/
  parameters : Record String
  operation : Operation
deriving DecidableEq

namespace Request

/-- The verb of a request. -/
def verb (request : Request) : Verb :=
  request.operation.verb

/-- The same request to another resource. -/
def withName (request : Request) (name : Name) : Request :=
  { request with name := name }

/-- The request as a JSON object. -/
def toJson (request : Request) : Json :=
  Json.ofMembers <|
    [("method", .string request.verb.text),
      ("resourcePath", .string request.name.display)] ++
      (if request.fields.isEmpty then []
        else [("fields", Json.ofTexts request.fields)]) ++
      (if request.parameters.isEmpty then []
        else [("additionalParameters", Json.ofTextRecord request.parameters)]) ++
      request.operation.toMembers

end Request

end ResourceServer
