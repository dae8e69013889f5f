import ResourceServer.Failure
import ResourceServer.Json.Pointer
import ResourceServer.Text.Fold

namespace ResourceServer

/-!
# Patch operations

A patch is a list of operations, each of which changes one field of a
resource. What an operation must carry depends on what it does; that is
checked when the operation is made and not again when it is carried out.
-/

/-- What a patch operation does to its field. -/
inductive PatchVerb where
  | add
  | remove
  | replace
  | increment
  | copy
  | move
  | transform
deriving Repr, DecidableEq

namespace PatchVerb

/-- The word for the verb in JSON. -/
def text : PatchVerb → String
  | .add => "add"
  | .remove => "remove"
  | .replace => "replace"
  | .increment => "increment"
  | .copy => "copy"
  | .move => "move"
  | .transform => "transform"

/-- The verb of a word in small letters. -/
def ofWord? : String → Option PatchVerb
  | "add" => some .add
  | "remove" => some .remove
  | "replace" => some .replace
  | "increment" => some .increment
  | "copy" => some .copy
  | "move" => some .move
  | "transform" => some .transform
  | _ => none

end PatchVerb

/-- One operation of a patch. -/
structure PatchOperation where
  verb : PatchVerb
  /-- The pointer to the field that changes. -/
  field : String
  /-- The value to work with; it is never null. -/
  value : Option Json
  /-- The pointer to the field that a value is taken from. -/
  source : Option String
deriving Repr, DecidableEq

namespace PatchOperation

/-- Why a value is no patch operation. -/
inductive Fault where
  | unknownVerb (word : String)
  | noValue (verb : PatchVerb)
  | notNumeric
  | noSource (verb : PatchVerb)
  | notObject
  | noVerb
  | noField
  | sourceNotText
deriving Repr, DecidableEq

namespace Fault

/-- The fault in words. -/
def message : Fault → String
  | .unknownVerb word => s!"invalid patch operation type '{word}'"
  | .noValue verb => s!"no value provided for {verb.text} operation"
  | .notNumeric => "non-numeric value provided for increment operation"
  | .noSource verb => s!"no source field provided for {verb.text} operation"
  | .notObject => "operation is not an object"
  | .noVerb => "missing 'operation'"
  | .noField => "missing 'field'"
  | .sourceNotText => "'from' must be a string"

/-- The failure that reports a fault. -/
def failure (fault : Fault) : Failure :=
  .badRequest
    ("the provided content is not a valid JSON patch: " ++ fault.message)

end Fault

/-- The fault in what an operation carries, if there is one. -/
def fault?
    (verb : PatchVerb)
    (value : Option Json)
    (source : Option String) :
    Option Fault :=
  match verb, value with
  | .add, none => some (.noValue .add)
  | .transform, none => some (.noValue .transform)
  | .increment, none => some (.noValue .increment)
  | .increment, some value =>
      if value.asNumber?.isNone then some .notNumeric else none
  | .copy, _ => if source.isNone then some (.noSource .copy) else none
  | .move, _ => if source.isNone then some (.noSource .move) else none
  | _, _ => none

/--
Make an operation, after a check of what it carries.

A null counts as no value. Pointers get a slash at their start.
-/
def make
    (verb : PatchVerb)
    (field : String)
    (value : Option Json)
    (source : Option String) :
    Except Fault PatchOperation :=
  let value := value.filter fun value => !value.isNull
  match fault? verb value source with
  | some fault => .error fault
  | none =>
      .ok {
        verb := verb
        field := Json.Pointer.normalize field
        value := value
        source := source.map Json.Pointer.normalize
      }

/-- The operation that adds a value at a field. -/
def add (field : String) (value : Json) : Except Fault PatchOperation :=
  make .add field (some value) none

/-- The operation that removes a field. -/
def remove (field : String) : Except Fault PatchOperation :=
  make .remove field none none

/-- The operation that replaces the value of a field. -/
def replace (field : String) (value : Json) : Except Fault PatchOperation :=
  make .replace field (some value) none

/-- The operation that adds an amount to the number at a field. -/
def increment (field : String) (amount : Json.Number) : Except Fault PatchOperation :=
  make .increment field (some (.number amount)) none

/-- The verb of a word, whatever the case of its letters. -/
def readVerb (word : String) : Except Fault PatchVerb :=
  match PatchVerb.ofWord? (Text.fold word) with
  | some verb => .ok verb
  | none => .error (.unknownVerb word)

/-- The source pointer among the members of an operation. -/
def readSource (members : Record Json) : Except Fault (Option String) :=
  match members.get? "from" with
  | none => .ok none
  | some .null => .ok none
  | some (.string source) => .ok (some source)
  | some _ => .error .sourceNotText

/-- The operation that a JSON value stands for. -/
def ofJson (value : Json) : Except Fault PatchOperation := do
  let some members := value.asMembers?
    | .error .notObject
  let some word := (members.get? "operation").bind Json.asText?
    | .error .noVerb
  let verb ← readVerb word
  let some field := (members.get? "field").bind Json.asText?
    | .error .noField
  let source ← readSource members
  make verb field (members.get? "value") source

/-- The operations that a JSON array stands for. -/
def listOfJson (value : Json) : Except Failure (List PatchOperation) :=
  match value with
  | .array items =>
      match items.mapM ofJson with
      | .ok operations => .ok operations
      | .error fault => .error fault.failure
  | _ =>
      .error
        (.badRequest
          "the provided content is not a JSON array of patch operations")

/-- The operation as a JSON object. -/
def toJson (operation : PatchOperation) : Json :=
  let members : Record Json :=
    [("field", .string operation.field),
      ("operation", .string operation.verb.text)]
  let members : Record Json :=
    match operation.source with
    | some source => members.insert "from" (.string source)
    | none => members
  match operation.value with
  | some value => .object (members.insert "value" value)
  | none => .object members

end PatchOperation

end ResourceServer
