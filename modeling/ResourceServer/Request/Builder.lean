import ResourceServer.Request.Basic

namespace ResourceServer

/-!
# Building requests

A request is built from a draft by a sequence of settings. A setting that does
not apply leaves its fault in the draft, unless there is one already, and the
first fault is what building reports in the end.
-/

/-- One step of building a request. -/
inductive Setting where
  /-- One more field to answer with. -/
  | field (pointer : String)
  | parameter (name value : String)
  | revision (revision : String)
  | newId (id : String)
  | content (content : Json)
  | filter (filter : String)
  | queryId (id : String)
  | expression (expression : String)
  /-- One more field to sort by. -/
  | sortKey (key : SortKey)
  | pageSize (size : Nat)
  | offset (offset : Nat)
  | cookie (cookie : String)
  | countPolicy (policy : CountPolicy)
deriving Repr, DecidableEq

/-- A request that is being built, and the first fault found. -/
structure Draft where
  request : Request
  fault : Option Failure
deriving DecidableEq

namespace Operation

/-- The parameter that an action may not use for itself. -/
def mimeTypeParameter : String := "_mimeType"

/-- Whether a parameter name belongs to the protocol. -/
def reserves (operation : Operation) (parameter : String) : Bool :=
  match operation with
  | .action _ _ => parameter == mimeTypeParameter
  | _ => parameter.toList.head? == some '_'

/-- The failure of a setting that an operation has no use for. -/
def inapplicable (operation : Operation) (setting : String) : Failure :=
  .invalidArgument
    s!"{setting} does not apply to {operation.verb.text} requests"

/-- The operation with its required revision set. -/
def withRevision
    (operation : Operation)
    (revision : String) :
    Except Failure Operation :=
  match operation with
  | .update content _ => .ok (.update content (some revision))
  | .delete _ => .ok (.delete (some revision))
  | .patch operations _ => .ok (.patch operations (some revision))
  | other => .error (other.inapplicable "revision")

/-- The operation with the id of the new resource set. -/
def withNewId (operation : Operation) (id : String) : Except Failure Operation :=
  match operation with
  | .create content _ => .ok (.create content (some id))
  | other => .error (other.inapplicable "new resource id")

/-- The operation with its content set. -/
def withContent
    (operation : Operation)
    (content : Json) :
    Except Failure Operation :=
  match operation with
  | .create _ newId => .ok (.create content newId)
  | .update _ revision => .ok (.update content revision)
  | .action name _ => .ok (.action name content)
  | other => .error (other.inapplicable "content")

/-- The operation with its query changed; `setting` names the change. -/
def withQuery
    (operation : Operation)
    (setting : String)
    (change : Query → Query) :
    Except Failure Operation :=
  match operation with
  | .query asked => .ok (.query (change asked))
  | other => .error (other.inapplicable setting)

end Operation

namespace Request

/-- The request with one more parameter of its own. -/
def withParameter
    (request : Request)
    (name value : String) :
    Except Failure Request :=
  if request.operation.reserves name then
    .error (.badRequest s!"unrecognized request parameter '{name}'")
  else
    .ok { request with parameters := request.parameters.insert name value }

/-- The request with its operation changed. -/
def withOperation
    (request : Request)
    (operation : Except Failure Operation) :
    Except Failure Request :=
  operation.map fun operation => { request with operation := operation }

/-- The request after a setting. -/
def apply (request : Request) (setting : Setting) : Except Failure Request :=
  let operation := request.operation
  match setting with
  | .field pointer =>
      .ok {
        request with
        fields := request.fields ++ [Json.Pointer.normalize pointer]
      }
  | .parameter name value => request.withParameter name value
  | .revision revision =>
      request.withOperation (operation.withRevision revision)
  | .newId id => request.withOperation (operation.withNewId id)
  | .content content => request.withOperation (operation.withContent content)
  | .filter filter =>
      request.withOperation <|
        operation.withQuery "query filter" fun query =>
          { query with filter := some filter }
  | .queryId id =>
      request.withOperation <|
        operation.withQuery "query id" fun query =>
          { query with id := some id }
  | .expression expression =>
      request.withOperation <|
        operation.withQuery "query expression" fun query =>
          { query with expression := some expression }
  | .sortKey key =>
      request.withOperation <|
        operation.withQuery "sort key" fun query =>
          { query with sortKeys := query.sortKeys ++ [key] }
  | .pageSize size =>
      request.withOperation <|
        operation.withQuery "page size" fun query =>
          { query with pageSize := size }
  | .offset offset =>
      request.withOperation <|
        operation.withQuery "paged results offset" fun query =>
          { query with offset := offset }
  | .cookie cookie =>
      request.withOperation <|
        operation.withQuery "paged results cookie" fun query =>
          { query with cookie := some cookie }
  | .countPolicy policy =>
      request.withOperation <|
        operation.withQuery "total paged results policy" fun query =>
          { query with countPolicy := policy }

end Request

namespace Draft

/-- The draft of an operation on a resource. -/
def start (name : Name) (operation : Operation) : Draft :=
  ⟨⟨name, [], [], operation⟩, none⟩

/-- The draft after a setting. -/
def set (draft : Draft) (setting : Setting) : Draft :=
  match draft.request.apply setting with
  | .ok request => { draft with request := request }
  | .error fault => { draft with fault := draft.fault.or (some fault) }

/-- The draft after settings in order. -/
def setAll (draft : Draft) (settings : List Setting) : Draft :=
  settings.foldl set draft

/-- The fault of an operation that is not complete. -/
def incomplete? : Operation → Option Failure
  | .query query =>
      if query.selectors = 0 then
        some <| .badRequest
          "a query needs a query filter, query id or query expression"
      else if 1 < query.selectors then
        some <| .badRequest
          "a query takes only one of query filter, query id or query expression"
      else
        none
  | .action name _ =>
      if name = "" then
        some (.badRequest "an action request needs an action name")
      else
        none
  | _ => none

/-- The finished request, or the first fault found. -/
def build (draft : Draft) : Except Failure Request :=
  match draft.fault with
  | some fault => .error fault
  | none =>
      match incomplete? draft.request.operation with
      | some fault => .error fault
      | none => .ok draft.request

end Draft

end ResourceServer
