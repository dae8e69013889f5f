import ResourceServer.Json.Pointer

namespace ResourceServer

/-!
# Projection onto fields

A client may name the fields of a resource that it wants to see. Each field is
a pointer; what it names appears in the result under the last key of the
pointer.
-/

namespace Projection

/-- Whether a field names the whole content. -/
def isWhole (field : String) : Bool :=
  field == "" || field == "/"

/-- The key under which a field appears in the result. -/
def keyOf (field : String) : String :=
  match Json.Pointer.splitLast? field with
  | some (_, last) => Json.Pointer.key last
  | none => Json.Pointer.key field

/-- Add what a field names to a result, if it names anything. -/
def addField
    (content : Json)
    (selected : Record Json)
    (field : String) :
    Record Json :=
  let pointer := Json.Pointer.absolute field
  match content.pointer? pointer with
  | some value => selected.insert (keyOf pointer) value
  | none => selected

end Projection

/--
The content with only the fields that are named.

Where no field is named, or one names the whole content, all of it is kept,
and so is content that is null.
-/
def Json.project (content : Json) (fields : List String) : Json :=
  if content.isNull || fields.isEmpty || fields.any Projection.isWhole then
    content
  else
    .object (fields.foldl (Projection.addField content) [])

end ResourceServer
