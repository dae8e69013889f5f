import ResourceServer.Text.Extending
import ResourceServer.Text.Printable

namespace ResourceServer.Text

/-!
# Escaped texts in messages

Messages show untrusted text with escapes, so that controls cannot garble
them. There are two forms: the quoted form stands between double quotes and
escapes every extending character; the bare form escapes single quotes too,
and an extending character only where it comes first.
-/

/-- The escape of a character by its code point, in small hexadecimal digits. -/
def codeEscape (char : Char) : List Char :=
  "\\u\x7b".toList ++ Nat.toDigits 16 char.toNat ++ ['\x7d']

/--
One character of an escaped text.

`escapesSingle` tells whether a single quote is escaped, `escapesExtending`
whether a character is that extends the one before it.
-/
def escapeChar
    (escapesSingle escapesExtending : Bool)
    (char : Char) :
    List Char :=
  if char.toNat = 0 then ['\\', '0']
  else if char = '\t' then ['\\', 't']
  else if char = '\r' then ['\\', 'r']
  else if char = '\n' then ['\\', 'n']
  else if char = '\\' then ['\\', '\\']
  else if char = '"' then ['\\', '"']
  else if char = '\'' ∧ escapesSingle then ['\\', '\'']
  else if escapesExtending ∧ isExtending char then codeEscape char
  else if isPrintable char then [char]
  else codeEscape char

/-- The text between double quotes, with escapes. -/
def quoted (text : String) : String :=
  String.ofList ('"' :: text.toList.flatMap (escapeChar false true) ++ ['"'])

/-- The text with escapes and without quotes around it. -/
def escaped (text : String) : String :=
  match text.toList with
  | [] => ""
  | first :: rest =>
      String.ofList
        (escapeChar true true first ++ rest.flatMap (escapeChar true false))

/-- Quoted texts between brackets, with commas. -/
def quotedList (texts : List String) : String :=
  "[" ++ String.intercalate ", " (texts.map quoted) ++ "]"

end ResourceServer.Text
