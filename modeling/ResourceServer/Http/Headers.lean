import ResourceServer.Record
import ResourceServer.Text.Fold
import ResourceServer.Text.Utf8

namespace ResourceServer

/-!
# Header fields

The names of header fields are written in small letters here, since their case
does not count. The value of a field is a sequence of bytes; it is a text only
where it consists of printable ASCII and tabs.
-/

/-- The header fields of a request, in order. -/
structure Headers where
  fields : List (String × List UInt8)
deriving Repr, DecidableEq

namespace Headers

/-- The fields of names and texts. -/
def ofTexts (fields : List (String × String)) : Headers :=
  ⟨fields.map fun field => (Text.fold field.1, Text.bytes field.2)⟩

/-- Whether a byte may occur in a text. -/
def isTextByte (byte : UInt8) : Bool :=
  (0x20 ≤ byte && byte ≤ 0x7E) || byte == 0x09

/-- The text of a value, if it is one. -/
def valueText? (value : List UInt8) : Option String :=
  if value.all isTextByte then
    some (String.ofList (value.map fun byte => Char.ofNat byte.toNat))
  else
    none

/-- Whether there is a field of a name. -/
def has (headers : Headers) (name : String) : Bool :=
  headers.fields.any fun field => field.1 == name

/-- The first field of a name, if its value is a text. -/
def text? (headers : Headers) (name : String) : Option String :=
  match headers.fields.find? fun field => field.1 == name with
  | some (_, value) => valueText? value
  | none => none

/-- All values that are texts, by name. -/
def texts (headers : Headers) : Record (List String) :=
  headers.fields.foldl
    (fun record field =>
      match valueText? field.2 with
      | some text =>
          record.insert field.1 ((record.get? field.1).getD [] ++ [text])
      | none => record)
    []

/-- The characters of a token besides letters and digits. -/
def tokenMarks : List Char :=
  ['!', '#', '$', '%', '&', '\'', '*', '+', '-', '.', '^', '_', '\x60', '|', '~']

/-- Whether a text can be the name of a field. -/
def isToken (text : String) : Bool :=
  !text.isEmpty &&
    text.toList.all fun char => char.isAlphanum || tokenMarks.contains char

/-- Whether a text can be sent as the value of a field. -/
def isSendable (text : String) : Bool :=
  (Text.bytes text).all fun byte =>
    (0x20 ≤ byte && byte != 0x7F) || byte == 0x09

end Headers

end ResourceServer
