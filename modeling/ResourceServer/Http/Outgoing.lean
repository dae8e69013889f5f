import ResourceServer.Http.Headers
import ResourceServer.Json.Printer
import ResourceServer.Request.Response

namespace ResourceServer

/-!
# HTTP answers

The result of a request becomes a status, header fields and a JSON body.
Resources carry their revision as entity tag, and one that was created has a
location. Advice that was left on the way is added to the header fields; what
cannot be sent there is left out.
-/

/-- An HTTP answer. -/
structure Outgoing where
  status : Nat
  /-- The values of each header field, by its name in small letters. -/
  headers : Record (List String)
  body : String
deriving Repr, DecidableEq

/-- What has a part in an answer besides the result. -/
structure Layout where
  /-- What was asked for. -/
  verb : Option Verb := none
  /-- The fields to answer with. -/
  fields : List String := []
  prettyPrint : Bool := false
  /-- The path of the collection in which a resource was created. -/
  locationBase : Option String := none
  advice : Record (List String) := []
deriving Repr, DecidableEq

namespace Outgoing

/-- The type of every body. -/
def bodyType : String := "application/json; charset=UTF-8"

/-- The answer with a JSON body. -/
def ofJson (status : Nat) (content : Json) (prettyPrint : Bool) : Outgoing :=
  {
    status := status
    headers := [("content-type", [bodyType])]
    body := if prettyPrint then content.pretty else content.compact
  }

/-- The answer without a body. -/
def noContent : Outgoing := ⟨204, [], ""⟩

/-- The answer with a header field set, if its value can be sent. -/
def setHeader (outgoing : Outgoing) (name value : String) : Outgoing :=
  if Headers.isSendable value then
    { outgoing with headers := outgoing.headers.insert name [value] }
  else
    outgoing

/-- The answer with one more value of a header field, if it can be sent. -/
def appendHeader (outgoing : Outgoing) (name value : String) : Outgoing :=
  if Headers.isSendable value then
    {
      outgoing with
      headers :=
        outgoing.headers.insert name
          ((outgoing.headers.get? name).getD [] ++ [value])
    }
  else
    outgoing

/-- Add the advice of one name, if that can be the name of a header field. -/
def adviseOne (outgoing : Outgoing) (advice : String × List String) : Outgoing :=
  if Headers.isToken advice.1 then
    advice.2.foldl
      (fun outgoing value => outgoing.appendHeader (Text.fold advice.1) value)
      outgoing
  else
    outgoing

/-- Add advice to the header fields. -/
def advise (outgoing : Outgoing) (advice : Record (List String)) : Outgoing :=
  advice.foldl adviseOne outgoing

/-- The failure as a JSON value. -/
def failureBody (failure : Failure) : Json :=
  Json.ofMembers
    [("code", Json.ofNat failure.status),
      ("reason", .string failure.reason),
      ("message", .string failure.message)]

/-- The answer that reports a failure. -/
def ofFailure (failure : Failure) (prettyPrint : Bool) : Outgoing :=
  ofJson failure.status (failureBody failure) prettyPrint

/-- The entity tag of a revision. -/
def entityTag (revision : String) : String :=
  "\"" ++ revision ++ "\""

/-- The path of a resource in a collection, or of the collection itself. -/
def location (base : String) : Option String → String
  | some id =>
      String.ofList (base.toList.reverse.dropWhile (· == '/')).reverse ++
        "/" ++ id
  | none => base

/-- The answer that shows a resource. -/
def ofResource (resource : Resource) (layout : Layout) : Outgoing :=
  let created := layout.verb == some .create
  let plain :=
    ofJson (if created then 201 else 200) resource.toJson layout.prettyPrint
  let tagged :=
    match resource.revision with
    | some revision => plain.setHeader "etag" (entityTag revision)
    | none => plain
  match created, layout.locationBase with
  | true, some base =>
      tagged.setHeader "location" (location base resource.id)
  | _, _ => tagged

/-- The answer that shows a response. -/
def ofResponse (response : Response) (layout : Layout) : Outgoing :=
  match response.project layout.fields with
  | .action .null => noContent
  | .resource resource => ofResource resource layout
  | shown => ofJson 200 shown.toJson layout.prettyPrint

/-- The answer that shows a result, without advice. -/
def plain (result : Except Failure Response) (layout : Layout) : Outgoing :=
  match result with
  | .ok response => ofResponse response layout
  | .error failure => ofFailure failure layout.prettyPrint

/-- The answer that shows a result. -/
def render (result : Except Failure Response) (layout : Layout) : Outgoing :=
  (plain result layout).advise layout.advice

end Outgoing

end ResourceServer
