import ResourceServer.Http.Incoming
import ResourceServer.Json.Reader
import ResourceServer.Request.Builder
import ResourceServer.Text.Blank

namespace ResourceServer

/-!
# From HTTP requests to requests for resources

The method of an HTTP request, some of its headers and the parameters with a
leading underscore tell what is asked of a resource; all other parameters are
handed on to it. Headers that ask for something the server does not do are
refused, and so is a parameter that the protocol reserves but that the method
has no use for.
-/

namespace Protocol

/-- The parameters that mean something to the protocol. -/
inductive Parameter where
  | action
  | fields
  | mimeType
  | pageSize
  | cookie
  | offset
  | prettyPrint
  | expression
  | filter
  | queryId
  | sortKeys
  | countPolicy
deriving Repr, DecidableEq

namespace Parameter

/-- The name of a parameter. -/
def name : Parameter → String
  | .action => "_action"
  | .fields => "_fields"
  | .mimeType => "_mimeType"
  | .pageSize => "_pageSize"
  | .cookie => "_pagedResultsCookie"
  | .offset => "_pagedResultsOffset"
  | .prettyPrint => "_prettyPrint"
  | .expression => "_queryExpression"
  | .filter => "_queryFilter"
  | .queryId => "_queryId"
  | .sortKeys => "_sortKeys"
  | .countPolicy => "_totalPagedResultsPolicy"

/-- Whether a text names the parameter, whatever the case of its letters. -/
def isNamed (parameter : Parameter) (text : String) : Bool :=
  Text.sameFold parameter.name text

end Parameter

/-- The values given under one spelling of a parameter name, in order. -/
structure Group where
  name : String
  values : List String
deriving Repr, DecidableEq

/-- Put a value into the group of its name. -/
def addToGroups (groups : List Group) (parameter : String × String) : List Group :=
  match groups with
  | [] => [⟨parameter.1, [parameter.2]⟩]
  | group :: rest =>
      if group.name = parameter.1 then
        { group with values := group.values ++ [parameter.2] } :: rest
      else
        group :: addToGroups rest parameter

/-- The parameters of a query by name, in order of appearance. -/
def groups (query : List (String × String)) : List Group :=
  query.foldl addToGroups []

/-- Whether a parameter is given. -/
def has (groups : List Group) (parameter : Parameter) : Bool :=
  groups.any fun group => parameter.isNamed group.name

/-- The one value of a group. -/
def onlyValue (name : String) : List String → Except Failure String
  | [value] => .ok value
  | _ =>
      .error
        (.badRequest s!"only one value may be given for parameter '{name}'")

/-- The value of a parameter that takes one value at most. -/
def single
    (groups : List Group)
    (parameter : Parameter) :
    Except Failure (Option String) :=
  match groups.find? fun group => parameter.isNamed group.name with
  | none => .ok none
  | some group => (onlyValue parameter.name group.values).map some

/-- The setting of a parameter, where it is given. -/
def setting
    (groups : List Group)
    (parameter : Parameter)
    (read : String → Except Failure Setting) :
    Except Failure (List Setting) := do
  match ← single groups parameter with
  | none => return []
  | some value => return [← read value]

/-- Read a number below the limit of page sizes. -/
def number (parameter : Parameter) (value : String) : Except Failure Nat :=
  match Text.unsigned? Text.limit32 value with
  | some number => .ok number
  | none =>
      .error
        (.badRequest
          s!"the value '{value}' for parameter '{parameter.name}' is not a non-negative integer")

/-- Read a truth value; giving the bare name means true. -/
def truth (name value : String) : Except Failure Bool :=
  match Text.fold value with
  | "true" => .ok true
  | "" => .ok true
  | "false" => .ok false
  | _ =>
      .error
        (.badRequest
          s!"the value '{value}' for parameter '{name}' is not a boolean")

/-- The parts of a list between commas, without blanks and without empty ones. -/
def listed (value : String) : List String :=
  ((Text.pieces ',' value).map Text.trim).filter (· != "")

/-- Quotes removed from both ends of an entity tag. -/
def unquote (tag : String) : String :=
  String.ofList (Text.trimChars (· == '"') tag.toList)

/-- The revision that an entity tag stands for; a mark of weakness is ignored. -/
def revisionOfTag (tag : String) : String :=
  let trimmed := Text.trim tag
  match trimmed.toList with
  | 'W' :: '/' :: rest => unquote (String.ofList rest)
  | _ => unquote trimmed

/-- The entity tag that any revision matches. -/
def anyTag : String := "*"

/-- The header that names the revision to change. -/
def ifMatch : String := "if-match"

/-- The header that names a revision not to have. -/
def ifNoneMatch : String := "if-none-match"

/-- The headers with conditions that the server does not check. -/
def refusedHeaders : List String :=
  ["if-modified-since", "if-unmodified-since"]

/-- The type of JSON contents. -/
def jsonType : String := "application/json"

end Protocol

namespace Incoming

open Protocol

/-- The revision in a header, where the header is a text. -/
def revision? (incoming : Incoming) (header : String) : Option String :=
  (incoming.headers.text? header).map revisionOfTag

/-- Whether the body holds nothing but blanks. -/
def isBlank (incoming : Incoming) : Bool :=
  incoming.body.all fun byte =>
    byte == 0x20 || byte == 0x09 || byte == 0x0A || byte == 0x0C || byte == 0x0D

/-- The JSON content of the body. -/
def content (incoming : Incoming) : Except Failure Json :=
  if incoming.isBlank then
    .error (.badRequest "the request has no JSON content")
  else
    match Json.readBytes? incoming.body with
    | some content => .ok content
    | none => .error (.badRequest "the request content is not valid JSON: ")

/-- The JSON content of the body, null where there is none. -/
def contentOrNull (incoming : Incoming) : Except Failure Json :=
  if incoming.isBlank then .ok .null else incoming.content

/-- The type that a header announces, without its parameters. -/
def essence (contentType : String) : String :=
  Text.trim (String.ofList (contentType.toList.takeWhile (· != ';')))

/-- Check the type of the content, which a GET request does not have. -/
def checkContentType (incoming : Incoming) : Except Failure Unit :=
  match incoming.headers.text? "content-type" with
  | none => .ok ()
  | some contentType =>
      if incoming.method = "GET" ∨
          Text.sameFold (essence contentType) jsonType then
        .ok ()
      else
        .error
          (.badRequest
            s!"content type '{contentType}' is not supported; use '{jsonType}'")

/-- Check that there is no condition that the server does not check. -/
def checkConditions (incoming : Incoming) : Except Failure Unit :=
  match refusedHeaders.find? incoming.headers.has with
  | some header => .error (.conflict s!"header {header} is not supported")
  | none => .ok ()

/-- Refuse a condition that only reading and creating can have. -/
def refuseIfNoneMatch (incoming : Incoming) : Except Failure Unit :=
  if incoming.headers.has ifNoneMatch then
    .error
      (.preconditionFailed
        s!"If-None-Match is not supported for {incoming.method} requests")
  else
    .ok ()

end Incoming

/-- A request for a resource, and how its answer is to be laid out. -/
structure Adapted where
  request : Request
  prettyPrint : Bool
deriving DecidableEq

namespace Protocol

/-- What the parameters that every method has set so far. -/
structure Common where
  draft : Draft
  prettyPrint : Bool
deriving DecidableEq

/-- Apply the parameters of one name, unless the method has done so. -/
def applyGroup
    (consumed : List Parameter)
    (common : Common)
    (group : Group) :
    Except Failure Common :=
  if consumed.any fun parameter => parameter.isNamed group.name then
    .ok common
  else if Parameter.fields.isNamed group.name then
    .ok {
      common with
      draft :=
        common.draft.setAll ((group.values.flatMap listed).map .field)
    }
  else if Parameter.prettyPrint.isNamed group.name then do
    let value ← onlyValue group.name group.values
    return { common with prettyPrint := ← truth group.name value }
  else do
    let value ← onlyValue group.name group.values
    return {
      common with
      draft := common.draft.set (.parameter group.name value)
    }

/-- Finish a request with the parameters that the method has not consumed. -/
def finish
    (draft : Draft)
    (groups : List Group)
    (consumed : List Parameter) :
    Except Failure Adapted := do
  let common ← groups.foldlM (applyGroup consumed) ⟨draft, false⟩
  return ⟨← common.draft.build, common.prettyPrint⟩

/-- The parameters that make a request a query. -/
def selectors : List Parameter := [.filter, .queryId, .expression]

/-- The parameters that a query consumes. -/
def queryParameters : List Parameter :=
  selectors ++ [.sortKeys, .pageSize, .offset, .cookie, .countPolicy]

/-- The settings of the parameters that a query consumes. -/
def querySettings (groups : List Group) : Except Failure (List Setting) := do
  let filter ← setting groups .filter (.ok ∘ .filter)
  let queryId ← setting groups .queryId (.ok ∘ .queryId)
  let expression ← setting groups .expression (.ok ∘ .expression)
  let sortKeys ←
    match ← single groups .sortKeys with
    | none => pure []
    | some keys =>
        (listed keys).mapM fun key => (SortKey.parse key).map .sortKey
  let pageSize ←
    setting groups .pageSize fun value =>
      (number .pageSize value).map .pageSize
  let offset ←
    setting groups .offset fun value => (number .offset value).map .offset
  let cookie ← setting groups .cookie (.ok ∘ .cookie)
  let countPolicy ←
    setting groups .countPolicy fun value =>
      (CountPolicy.parse value).map .countPolicy
  return filter ++ queryId ++ expression ++ sortKeys ++ pageSize ++ offset ++
    cookie ++ countPolicy

/-- Check the type that a client wants to read. -/
def checkMimeType (groups : List Group) : Except Failure Unit :=
  match single groups .mimeType with
  | .error failure => .error failure
  | .ok none => .ok ()
  | .ok (some mimeType) =>
      if mimeType.toList.contains ',' then
        .error (.badRequest "only one mime type value is allowed")
      else
        .ok ()

/-- The draft with the revision that the client insists on, if any. -/
def insisting (draft : Draft) (revision : Option String) : Draft :=
  draft.setAll (revision.toList.map .revision)

end Protocol

namespace Incoming

open Protocol

/-- Check that a GET request does not refuse every revision. -/
def checkReadable (incoming : Incoming) : Except Failure Unit :=
  if incoming.revision? ifNoneMatch = some anyTag then
    .error
      (.preconditionFailed
        "If-None-Match: * is not appropriate for GET requests")
  else
    .ok ()

/-- What a GET request asks for: to read, or to query. -/
def get
    (incoming : Incoming)
    (name : Name)
    (groups : List Group) :
    Except Failure Adapted :=
  if selectors.any (has groups) then do
    let settings ← querySettings groups
    finish
      ((Draft.start name (.query {})).setAll settings) groups queryParameters
  else do
    incoming.checkReadable
    checkMimeType groups
    finish (Draft.start name .read) groups [.mimeType]

/-- Check that a PUT request does not both name and refuse a revision. -/
def checkOneCondition (incoming : Incoming) : Except Failure Unit :=
  if (incoming.revision? ifMatch).isSome ∧
      (incoming.revision? ifNoneMatch).isSome then
    .error
      (.preconditionFailed
        "If-Match and If-None-Match cannot be combined on PUT requests")
  else
    .ok ()

/-- What a PUT request asks for: to update, or to create under a given id. -/
def put
    (incoming : Incoming)
    (name : Name)
    (groups : List Group) :
    Except Failure Adapted := do
  incoming.checkOneCondition
  let content ← incoming.content
  match incoming.revision? ifMatch, name.parent?, name.leaf? with
  | some revision, _, _ =>
      finish
        ((Draft.start name (.update content none)).set (.revision revision))
        groups []
  | none, some parent, some id =>
      finish
        ((Draft.start parent (.create content none)).set (.newId id))
        groups []
  | _, _, _ => .error (.badRequest "no new resource id in PUT request")

/-- What a POST request asks for: an action, or to create. -/
def post
    (incoming : Incoming)
    (name : Name)
    (groups : List Group) :
    Except Failure Adapted := do
  match ← single groups .action with
  | none =>
      .error
        (.badRequest
          s!"POST requests need an '{Parameter.action.name}' parameter")
  | some action =>
      if Text.sameFold action "create" then
        finish
          (Draft.start name (.create (← incoming.content) none))
          groups [.action]
      else
        finish
          (Draft.start name (.action action (← incoming.contentOrNull)))
          groups [.action]

/-- What a DELETE request asks for. -/
def delete
    (incoming : Incoming)
    (name : Name)
    (groups : List Group) :
    Except Failure Adapted := do
  incoming.refuseIfNoneMatch
  finish
    (insisting (Draft.start name (.delete none)) (incoming.revision? ifMatch))
    groups []

/-- What a PATCH request asks for. -/
def patch
    (incoming : Incoming)
    (name : Name)
    (groups : List Group) :
    Except Failure Adapted := do
  incoming.refuseIfNoneMatch
  let operations ← PatchOperation.listOfJson (← incoming.content)
  finish
    (insisting
      (Draft.start name (.patch operations none))
      (incoming.revision? ifMatch))
    groups []

/-- The name of the resource that is addressed. -/
def name (incoming : Incoming) : Except Failure Name :=
  match Name.parse incoming.path with
  | .ok name => .ok name
  | .error fault => .error fault.failure

/-- The request for a resource that an HTTP request stands for. -/
def adapt (incoming : Incoming) : Except Failure Adapted := do
  incoming.checkContentType
  incoming.checkConditions
  let name ← incoming.name
  let groups := groups incoming.query
  match incoming.method with
  | "GET" => incoming.get name groups
  | "PUT" => incoming.put name groups
  | "POST" => incoming.post name groups
  | "DELETE" => incoming.delete name groups
  | "PATCH" => incoming.patch name groups
  | method => .error (.notSupported s!"method {method} is not supported")

/--
Whether a client wants its answer indented, as far as the query alone tells.

It counts for failures that occur before the request is understood.
-/
def wantsPrettyPrint (incoming : Incoming) : Bool :=
  incoming.query.any fun parameter =>
    Parameter.prettyPrint.isNamed parameter.1 &&
      Text.sameFold parameter.2 "true"

end Incoming

end ResourceServer
