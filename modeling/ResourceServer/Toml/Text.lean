import ResourceServer.Text.Percent

namespace ResourceServer.Toml

/-!
# Strings and keys of TOML texts

Strings stand between double quotes, where a backslash starts an escape, or
between single quotes, where it does not. With three quotes at both ends a
string may span lines, and one or two quotes may stand anywhere in it. A key
is a word or a string on one line; keys with dots between them lead through
tables.
-/

/-- Whether a character may stand for itself in a comment or a string. -/
def isPlain (char : Char) : Bool :=
  char == '\t' || (0x20 ≤ char.toNat && char.toNat != 0x7F)

/-- Whether a character may stand around keys and values. -/
def isSpace (char : Char) : Bool :=
  char == ' ' || char == '\t'

/-- How a string is written. -/
structure Style where
  quote : Char
  /-- Whether a backslash starts an escape. -/
  escapes : Bool
  /-- Whether there are three quotes at both ends. -/
  spansLines : Bool
deriving Repr, DecidableEq

/-- The character that a one-letter escape stands for. -/
def shortEscape? (char : Char) : Option Char :=
  match char with
  | '"' => some '"'
  | '\\' => some '\\'
  | 'b' => some (Char.ofNat 0x08)
  | 'f' => some (Char.ofNat 0x0C)
  | 'n' => some '\n'
  | 'r' => some '\r'
  | 't' => some '\t'
  | _ => none

/-- The character of a code point, unless it is half of a pair. -/
def charOfCode? (code : Nat) : Option Char :=
  if code < 0xD800 ∨ (0xDFFF < code ∧ code < 0x110000) then
    some (Char.ofNat code)
  else
    none

/-- Where the reading of a string stands. -/
inductive TextState where
  /-- Outside escapes. -/
  | plain
  /-- After quotes of a string of several lines, which may be its end. -/
  | quotes (count : Nat)
  /-- After a backslash. -/
  | escape
  /-- Before some more hexadecimal digits of a code point. -/
  | digits (missing code : Nat)
  /-- After a backslash at the end of a line, or in the blanks after the line. -/
  | joining (crossed : Bool)
  /-- After a carriage return, which a line feed must follow. -/
  | lineEnd (joining : Bool)
deriving Repr, DecidableEq

namespace TextState

/-- Whether a quote here may be the end of the string. -/
def isOutside : TextState → Bool
  | .plain | .quotes _ | .joining true => true
  | _ => false

/-- How many quotes have been read that may be the end of the string. -/
def pending : TextState → Nat
  | .quotes count => count
  | _ => 0

/-- The state after a character outside escapes, and what it adds to the text. -/
def outside? (style : Style) (char : Char) : Option (TextState × List Char) :=
  if char = '\\' ∧ style.escapes then some (.escape, [])
  else if char = '\n' ∧ style.spansLines then some (.plain, ['\n'])
  else if char = '\r' ∧ style.spansLines then some (.lineEnd false, [])
  else if isPlain char then some (.plain, [char])
  else none

/-- The state after a character between lines that a backslash joins. -/
def join?
    (style : Style)
    (crossed : Bool)
    (char : Char) :
    Option (TextState × List Char) :=
  if isSpace char then some (.joining crossed, [])
  else if char = '\n' then some (.joining true, [])
  else if char = '\r' then some (.lineEnd true, [])
  else if crossed then outside? style char
  else none

/-- The state after a character, and what it adds to the text. -/
def step?
    (style : Style)
    (state : TextState)
    (char : Char) :
    Option (TextState × List Char) :=
  match state with
  | .plain => outside? style char
  | .quotes _ => outside? style char
  | .escape =>
      if char = 'u' then some (.digits 4 0, [])
      else if char = 'U' then some (.digits 8 0, [])
      else
        match shortEscape? char with
        | some meant => some (.plain, [meant])
        | none => if style.spansLines then join? style false char else none
  | .digits missing code =>
      match Text.Percent.hexValue? char with
      | none => none
      | some digit =>
          let code := 16 * code + digit
          if missing ≤ 1 then
            (charOfCode? code).map fun meant => (.plain, [meant])
          else
            some (.digits (missing - 1) code, [])
  | .joining crossed => join? style crossed char
  | .lineEnd true => if char = '\n' then some (.joining true, []) else none
  | .lineEnd false => if char = '\n' then some (.plain, ['\n']) else none

end TextState

/-- How many quotes end a string. -/
def Style.closing (style : Style) : Nat :=
  if style.spansLines then 3 else 1

/--
Read a string after its opening quotes.

`done` holds the characters read so far, the last one first. Up to two quotes
that stand right before the closing ones belong to a string of several lines.
-/
def scanText
    (style : Style)
    (state : TextState)
    (done : List Char)
    (chars : List Char) :
    Option (String × List Char) :=
  let quotes := fun count => List.replicate count style.quote
  let closed := fun count =>
    String.ofList (quotes (count - style.closing) ++ done).reverse
  match chars with
  | [] =>
      if style.closing ≤ state.pending then
        some (closed state.pending, [])
      else
        none
  | char :: rest =>
      if char = style.quote ∧ state.isOutside then
        let count := state.pending + 1
        if count = (if style.spansLines then 5 else 1) then
          some (closed count, rest)
        else
          scanText style (.quotes count) done rest
      else if style.closing ≤ state.pending then
        some (closed state.pending, char :: rest)
      else
        match state.step? style char with
        | none => none
        | some (next, read) =>
            scanText style next (read ++ quotes state.pending ++ done) rest

/-- A text without a line end at its start. -/
def dropLineEnd : List Char → List Char
  | '\n' :: rest => rest
  | '\r' :: '\n' :: rest => rest
  | chars => chars

/-- Read a string on one line. -/
def lineText? : List Char → Option (String × List Char)
  | '"' :: rest => scanText ⟨'"', true, false⟩ .plain [] rest
  | '\'' :: rest => scanText ⟨'\'', false, false⟩ .plain [] rest
  | _ => none

/-- Read a string. -/
def text? : List Char → Option (String × List Char)
  | '"' :: '"' :: '"' :: rest =>
      scanText ⟨'"', true, true⟩ .plain [] (dropLineEnd rest)
  | '\'' :: '\'' :: '\'' :: rest =>
      scanText ⟨'\'', false, true⟩ .plain [] (dropLineEnd rest)
  | chars => lineText? chars

/-- Whether a character may belong to a key without quotes. -/
def isWordChar (char : Char) : Bool :=
  char.isAlphanum || char == '_' || char == '-'

/-- Read one key. -/
def simpleKey? (chars : List Char) : Option (String × List Char) :=
  match chars with
  | '"' :: _ => lineText? chars
  | '\'' :: _ => lineText? chars
  | _ =>
      match chars.takeWhile isWordChar with
      | [] => none
      | word => some (String.ofList word, chars.dropWhile isWordChar)

/-- How many tables or containers may lie inside one another. -/
def depthLimit : Nat := 80

/-- Read at most `bound` keys with dots between them, and blanks around them. -/
def keysUpTo : Nat → List Char → Option (List String × List Char)
  | 0, _ => none
  | bound + 1, chars =>
      match simpleKey? (chars.dropWhile isSpace) with
      | none => none
      | some (name, rest) =>
          match rest.dropWhile isSpace with
          | '.' :: after =>
              (keysUpTo bound after).map fun (names, rest) =>
                (name :: names, rest)
          | rest => some ([name], rest)

/-- Read keys with dots between them, and blanks around them. -/
def path? (chars : List Char) : Option (List String × List Char) :=
  keysUpTo (depthLimit - 1) chars

end ResourceServer.Toml
