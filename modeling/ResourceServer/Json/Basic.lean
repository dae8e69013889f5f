import ResourceServer.Json.Number
import ResourceServer.Record

namespace ResourceServer

/-!
# JSON values

Contents of resources, payloads of context frames and every message body are
JSON values. The members of an object form a record: they ascend by key, and a
key occurs once.
-/

/-- A JSON value. -/
inductive Json where
  | null
  | bool (value : Bool)
  | number (value : Json.Number)
  | string (value : String)
  | array (items : List Json)
  | object (members : List (String × Json))
deriving Repr, Inhabited

namespace Json

mutual

/-- Decide whether two values are equal. -/
def decideEq (left right : Json) : Decidable (left = right) :=
  match left, right with
  | .null, .null => isTrue rfl
  | .bool left, .bool right =>
      decidable_of_iff (left = right) (by simp)
  | .number left, .number right =>
      decidable_of_iff (left = right) (by simp)
  | .string left, .string right =>
      decidable_of_iff (left = right) (by simp)
  | .array left, .array right =>
      match decideEqItems left right with
      | isTrue same => isTrue (by rw [same])
      | isFalse different => isFalse (by simpa using different)
  | .object left, .object right =>
      match decideEqMembers left right with
      | isTrue same => isTrue (by rw [same])
      | isFalse different => isFalse (by simpa using different)
  | .null, .bool _ => isFalse (by simp)
  | .null, .number _ => isFalse (by simp)
  | .null, .string _ => isFalse (by simp)
  | .null, .array _ => isFalse (by simp)
  | .null, .object _ => isFalse (by simp)
  | .bool _, .null => isFalse (by simp)
  | .bool _, .number _ => isFalse (by simp)
  | .bool _, .string _ => isFalse (by simp)
  | .bool _, .array _ => isFalse (by simp)
  | .bool _, .object _ => isFalse (by simp)
  | .number _, .null => isFalse (by simp)
  | .number _, .bool _ => isFalse (by simp)
  | .number _, .string _ => isFalse (by simp)
  | .number _, .array _ => isFalse (by simp)
  | .number _, .object _ => isFalse (by simp)
  | .string _, .null => isFalse (by simp)
  | .string _, .bool _ => isFalse (by simp)
  | .string _, .number _ => isFalse (by simp)
  | .string _, .array _ => isFalse (by simp)
  | .string _, .object _ => isFalse (by simp)
  | .array _, .null => isFalse (by simp)
  | .array _, .bool _ => isFalse (by simp)
  | .array _, .number _ => isFalse (by simp)
  | .array _, .string _ => isFalse (by simp)
  | .array _, .object _ => isFalse (by simp)
  | .object _, .null => isFalse (by simp)
  | .object _, .bool _ => isFalse (by simp)
  | .object _, .number _ => isFalse (by simp)
  | .object _, .string _ => isFalse (by simp)
  | .object _, .array _ => isFalse (by simp)

/-- Decide whether two lists of values are equal. -/
def decideEqItems (left right : List Json) : Decidable (left = right) :=
  match left, right with
  | [], [] => isTrue rfl
  | [], _ :: _ => isFalse (by simp)
  | _ :: _, [] => isFalse (by simp)
  | first :: rest, other :: others =>
      match decideEq first other, decideEqItems rest others with
      | isTrue same, isTrue sameRest => isTrue (by rw [same, sameRest])
      | isFalse different, _ =>
          isFalse (by simp [different])
      | _, isFalse different =>
          isFalse (by simp [different])

/-- Decide whether two lists of members are equal. -/
def decideEqMembers
    (left right : List (String × Json)) :
    Decidable (left = right) :=
  match left, right with
  | [], [] => isTrue rfl
  | [], _ :: _ => isFalse (by simp)
  | _ :: _, [] => isFalse (by simp)
  | (key, first) :: rest, (otherKey, other) :: others =>
      if sameKey : key = otherKey then
        match decideEq first other, decideEqMembers rest others with
        | isTrue same, isTrue sameRest =>
            isTrue (by rw [sameKey, same, sameRest])
        | isFalse different, _ =>
            isFalse (by simp [different])
        | _, isFalse different =>
            isFalse (by simp [different])
      else
        isFalse (by simp [sameKey])

end

instance : DecidableEq Json := decideEq

/-- The integer `value`. -/
def ofInt (value : Int) : Json :=
  .number (.integer value)

/-- The natural number `value`. -/
def ofNat (value : Nat) : Json :=
  .number (.integer value)

/-- A floating-point number, or null where there is no such number in JSON. -/
def ofDouble (value : Binary .double) : Json :=
  if value.isFinite then .number (.float value) else .null

/-- The text, or null where there is none. -/
def ofText? : Option String → Json
  | some text => .string text
  | none => .null

/-- The array of texts. -/
def ofTexts (texts : List String) : Json :=
  .array (texts.map .string)

/-- The object with texts as members. -/
def ofTextRecord (record : Record String) : Json :=
  .object (record.mapValues .string)

/-- The object with these members, in any order. -/
def ofMembers (members : List (String × Json)) : Json :=
  .object (Record.ofList members)

/-- Whether a value is null. -/
def isNull : Json → Bool
  | .null => true
  | _ => false

/-- The text of a string. -/
def asText? : Json → Option String
  | .string text => some text
  | _ => none

/-- The value of a truth value. -/
def asBool? : Json → Option Bool
  | .bool value => some value
  | _ => none

/-- The items of an array. -/
def asItems? : Json → Option (List Json)
  | .array items => some items
  | _ => none

/-- The members of an object. -/
def asMembers? : Json → Option (Record Json)
  | .object members => some members
  | _ => none

/-- The number that a value is. -/
def asNumber? : Json → Option Number
  | .number value => some value
  | _ => none

/-- The texts of an array that holds nothing else. -/
def asTexts? (value : Json) : Option (List String) :=
  value.asItems?.bind fun items => items.mapM asText?

/-- The members of an object, all of which can be read. -/
def asRecord? {α : Type} (read? : Json → Option α) (value : Json) : Option (Record α) :=
  value.asMembers?.bind fun members =>
    members.mapM fun member =>
      (read? member.2).map fun content => (member.1, content)

/-- The member of an object. -/
def member? (value : Json) (key : String) : Option Json :=
  value.asMembers?.bind fun members => members.get? key

end Json

end ResourceServer
