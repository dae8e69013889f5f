import ResourceServer.Json.Basic

namespace ResourceServer.Json

/-!
# Writing JSON

The compact form has no white space. The indented form gives each item and
each member a line of its own and writes an empty container as its two
brackets.
-/

/-- The small hexadecimal digits of a control character. -/
def controlEscape (char : Char) : List Char :=
  let digits := Nat.toDigits 16 char.toNat
  ['\\', 'u'] ++ List.replicate (4 - digits.length) '0' ++ digits

/-- One character between the quotes of a string. -/
def escapeChar (char : Char) : List Char :=
  if char = '"' then ['\\', '"']
  else if char = '\\' then ['\\', '\\']
  else if char.toNat = 0x08 then ['\\', 'b']
  else if char.toNat = 0x0C then ['\\', 'f']
  else if char = '\n' then ['\\', 'n']
  else if char = '\r' then ['\\', 'r']
  else if char = '\t' then ['\\', 't']
  else if char.toNat < 0x20 then controlEscape char
  else [char]

/-- A string with its quotes. -/
def quote (text : String) : String :=
  String.ofList ('"' :: text.toList.flatMap escapeChar ++ ['"'])

mutual

/-- The compact text of a value. -/
def compact : Json → String
  | .null => "null"
  | .bool true => "true"
  | .bool false => "false"
  | .number value => value.text
  | .string value => quote value
  | .array items => "[" ++ compactItems items ++ "]"
  | .object members => "\x7b" ++ compactMembers members ++ "\x7d"

/-- The items of an array, with commas. -/
def compactItems : List Json → String
  | [] => ""
  | [item] => compact item
  | item :: next :: rest => compact item ++ "," ++ compactItems (next :: rest)

/-- The members of an object, with commas. -/
def compactMembers : List (String × Json) → String
  | [] => ""
  | [(key, value)] => quote key ++ ":" ++ compact value
  | (key, value) :: next :: rest =>
      quote key ++ ":" ++ compact value ++ "," ++ compactMembers (next :: rest)

end

/-- The start of a line at some depth of nesting. -/
def lineStart (depth : Nat) : String :=
  String.ofList ('\n' :: List.replicate (2 * depth) ' ')

mutual

/-- The indented text of a value at some depth of nesting. -/
def indented (depth : Nat) : Json → String
  | .null => "null"
  | .bool true => "true"
  | .bool false => "false"
  | .number value => value.text
  | .string value => quote value
  | .array [] => "[]"
  | .array (item :: rest) =>
      "[" ++ indentedItems (depth + 1) (item :: rest) ++ lineStart depth ++ "]"
  | .object [] => "\x7b\x7d"
  | .object (member :: rest) =>
      "\x7b" ++ indentedMembers (depth + 1) (member :: rest) ++
        lineStart depth ++ "\x7d"

/-- The items of an array, each on a line. -/
def indentedItems (depth : Nat) : List Json → String
  | [] => ""
  | [item] => lineStart depth ++ indented depth item
  | item :: next :: rest =>
      lineStart depth ++ indented depth item ++ "," ++
        indentedItems depth (next :: rest)

/-- The members of an object, each on a line. -/
def indentedMembers (depth : Nat) : List (String × Json) → String
  | [] => ""
  | [(key, value)] =>
      lineStart depth ++ quote key ++ ": " ++ indented depth value
  | (key, value) :: next :: rest =>
      lineStart depth ++ quote key ++ ": " ++ indented depth value ++ "," ++
        indentedMembers depth (next :: rest)

end

/-- The indented text of a value. -/
def pretty (value : Json) : String :=
  indented 0 value

end ResourceServer.Json
