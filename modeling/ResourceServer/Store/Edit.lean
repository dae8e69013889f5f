import ResourceServer.Request.Patch

namespace ResourceServer

/-!
# Carrying out a patch

An operation of a patch changes one member of an object or one item of an
array; the value that holds it must already be there. Adding to a member that
is an array appends to it, and removing what is not there changes nothing.
Sums are those of floating-point numbers, also where they are written as
integers.
-/

namespace Json.Number

/-- The sum of two numbers, taken as floating-point numbers. -/
def sum (left right : Binary .double) : Json :=
  let total := left.add right
  match total.isFinite, total.toInt? with
  | true, some value =>
      if value.natAbs < Text.signedLimit64 then .ofInt value else .ofDouble total
  | _, _ => .ofDouble total

/-- The floating-point number that a value is, zero if it is no number. -/
def orZero (value : Option Json) : Binary .double :=
  match value.bind Json.asNumber? with
  | some found => found.toDouble
  | none => Binary.zero

end Json.Number

namespace PatchOperation

/-- The failure of an operation that makes no sense where it is applied. -/
def unfit (operation : PatchOperation) : Failure :=
  .badRequest
    s!"cannot apply '{operation.verb.text}' to '{operation.field}'"

/-- Whether the verb is one that stores carry out. -/
def isStored : PatchVerb → Bool
  | .copy => false
  | .move => false
  | .transform => false
  | _ => true

/-- The members of an object after a value is added to one of them. -/
def addMember
    (members : Record Json)
    (key : String)
    (value : Json) :
    Record Json :=
  match value, members.get? key with
  | .array _, _ => members.insert key value
  | _, some (.array items) => members.insert key (.array (items ++ [value]))
  | _, _ => members.insert key value

/-- The items of an array after the one at an index is removed. -/
def removeItem (items : List Json) (key : String) : Except Failure (List Json) :=
  match Text.unsigned? Text.limit64 key with
  | some index => .ok (items.eraseIdx index)
  | none => .error (.badRequest s!"'{key}' is not an array index")

/-- The value that holds the field after the field has changed. -/
def change
    (operation : PatchOperation)
    (parent : Json)
    (key : String) :
    Except Failure Json :=
  let value := operation.value.getD .null
  match operation.verb, parent with
  | .add, .object members => .ok (.object (addMember members key value))
  | .add, .array items =>
      if key = "-" then
        .ok (.array (items ++ [value]))
      else
        .error operation.unfit
  | .replace, .object members =>
      .ok <| .object <|
        if value.isNull then
          Record.erase members key
        else
          Record.insert members key value
  | .remove, .object members => .ok (.object (Record.erase members key))
  | .remove, .array items => (removeItem items key).map .array
  | .increment, .object members =>
      .ok <| .object <|
        Record.insert members key <|
          Json.Number.sum
            (Json.Number.orZero (Record.get? members key))
            (Json.Number.orZero (some value))
  | _, _ =>
      if isStored operation.verb then
        .error operation.unfit
      else
        .error
          (.notSupported
            s!"patch operation '{operation.verb.text}' is not supported by in-memory collections")

/-- The content after an operation. -/
def apply (operation : PatchOperation) (content : Json) : Except Failure Json :=
  match Json.Pointer.splitLast? operation.field with
  | none =>
      .error
        (.badRequest
          s!"cannot patch the whole resource via '{operation.field}'")
  | some (parentPointer, last) =>
      match Json.Pointer.keys? parentPointer with
      | none => .error (.badRequest s!"no such field '{parentPointer}'")
      | some way =>
          match content.at? way with
          | none => .error (.badRequest s!"no such field '{parentPointer}'")
          | some parent =>
              (operation.change parent (Json.Pointer.key last)).map
                (content.setAt way)

/-- The content after operations in order, unless one of them fails. -/
def applyAll
    (operations : List PatchOperation)
    (content : Json) :
    Except Failure Json :=
  operations.foldlM (fun content operation => operation.apply content) content

end PatchOperation

end ResourceServer
