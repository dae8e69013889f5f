import ResourceServer.Json.Basic

namespace ResourceServer.Json

/-!
# JSON pointers

A pointer names a place in a value by the keys and indices on the way to it.
It is written with a slash before each of them; `~1` stands for a slash inside
a key and `~0` for a tilde. The empty pointer names the whole value.
-/

namespace Pointer

/-- The characters of a key from the way they are written in a pointer. -/
def unescape : List Char → List Char
  | [] => []
  | '~' :: '1' :: rest => '/' :: unescape rest
  | '~' :: '0' :: rest => '~' :: unescape rest
  | char :: rest => char :: unescape rest

/-- The key written by one part of a pointer. -/
def key (token : String) : String :=
  String.ofList (unescape token.toList)

/-- The keys and indices of a pointer. -/
def keys? (pointer : String) : Option (List String) :=
  match pointer.toList with
  | [] => some []
  | '/' :: rest =>
      some ((rest.splitOn '/').map fun token => String.ofList (unescape token))
  | _ => none

/-- The pointer with a slash at its start. -/
def absolute (pointer : String) : String :=
  match pointer.toList with
  | '/' :: _ => pointer
  | _ => "/" ++ pointer

/-- The pointer with a slash at its start, unless it is empty. -/
def normalize (pointer : String) : String :=
  if pointer = "" then "" else absolute pointer

/-- The part after the last slash, and all that stands before that slash. -/
def splitLast? (pointer : String) : Option (String × String) :=
  let reversed := pointer.toList.reverse
  match reversed.dropWhile (· != '/') with
  | [] => none
  | _ :: before =>
      some
        (String.ofList before.reverse,
          String.ofList (reversed.takeWhile (· != '/')).reverse)

/--
The index that a key is for an array.

Unlike in other numerals, neither a sign nor a leading zero is allowed.
-/
def index? (key : String) : Option Nat :=
  match key.toList with
  | '+' :: _ => none
  | '0' :: _ :: _ => none
  | _ => Text.unsigned? Text.limit64 key

end Pointer

/-- The member or item of a value under a key. -/
def child? (value : Json) (key : String) : Option Json :=
  match value with
  | .object members => Record.get? members key
  | .array items =>
      match Pointer.index? key with
      | some index => items[index]?
      | none => none
  | _ => none

/-- The value with a member or item replaced that it already has. -/
def setChild (value : Json) (key : String) (child : Json) : Json :=
  match value with
  | .object members => .object (Record.insert members key child)
  | .array items =>
      match Pointer.index? key with
      | some index => .array (items.set index child)
      | none => .array items
  | value => value

/-- The value at the end of a way of keys. -/
def at? (value : Json) : List String → Option Json
  | [] => some value
  | key :: rest => (value.child? key).bind (·.at? rest)

/-- The value with what lies at the end of a way replaced. -/
def setAt (value : Json) (keys : List String) (replacement : Json) : Json :=
  match keys with
  | [] => replacement
  | key :: rest =>
      match value.child? key with
      | some child => value.setChild key (child.setAt rest replacement)
      | none => value

/-- The value that a pointer names. -/
def pointer? (value : Json) (pointer : String) : Option Json :=
  (Pointer.keys? pointer).bind value.at?

end ResourceServer.Json
