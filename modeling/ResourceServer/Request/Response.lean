import ResourceServer.Request.Basic
import ResourceServer.Request.Projection

namespace ResourceServer

/-!
# Responses

A request that succeeds is answered with a resource, with the result of an
action or with a page of the resources that a query found.
-/

/-- A resource as clients see it. -/
structure Resource where
  id : Option String
  revision : Option String
  content : Json
deriving Repr, DecidableEq

namespace Resource

/-- The member that holds the id of a resource. -/
def idKey : String := "_id"

/-- The member that holds the revision of a resource. -/
def revisionKey : String := "_rev"

/-- The record with a text as a member, where there is one. -/
def insertText
    (members : Record Json)
    (key : String) :
    Option String → Record Json
  | some text => members.insert key (.string text)
  | none => members

/-- The content, with id and revision as members if it is an object. -/
def toJson (resource : Resource) : Json :=
  match resource.content with
  | .object members =>
      .object
        (insertText
          (insertText members idKey resource.id)
          revisionKey resource.revision)
  | content => content

/-- The resource with only the fields that are named. -/
def project (resource : Resource) (fields : List String) : Resource :=
  { resource with content := resource.content.project fields }

end Resource

/-- A page of the resources that a query found. -/
structure Page where
  resources : List Resource
  /-- What to send to get the next page. -/
  cookie : Option String
  countPolicy : CountPolicy
  /-- How many resources there are in all, minus one if that is not known. -/
  total : Int
deriving Repr, DecidableEq

namespace Page

/-- The page as a JSON object. -/
def toJson (page : Page) : Json :=
  Json.ofMembers
    [("resultCount", Json.ofNat page.resources.length),
      ("result", .array (page.resources.map Resource.toJson)),
      ("pagedResultsCookie", Json.ofText? page.cookie),
      ("totalPagedResultsPolicy", .string page.countPolicy.text),
      ("totalPagedResults", Json.ofInt page.total)]

end Page

/-- The answer to a request that succeeded. -/
inductive Response where
  | resource (resource : Resource)
  | action (content : Json)
  | query (page : Page)
deriving Repr, DecidableEq

namespace Response

/-- The response as a JSON value. -/
def toJson : Response → Json
  | .resource shown => shown.toJson
  | .action content => content
  | .query page => page.toJson

/-- The response with only the fields that are named; actions keep all. -/
def project (response : Response) (fields : List String) : Response :=
  match response with
  | .resource shown =>
      if fields.isEmpty then response else .resource (shown.project fields)
  | .action _ => response
  | .query page =>
      if fields.isEmpty then
        response
      else
        .query {
          page with
          resources := page.resources.map (·.project fields)
        }

end Response

end ResourceServer
