import ResourceServer.Toml.Scalar
import ResourceServer.Toml.Table
import ResourceServer.Toml.Text

namespace ResourceServer.Toml

/-!
# Reading TOML

A TOML text is a sequence of lines: headers of tables, keys with values, and
comments. What it says as a whole is an object.
-/

/-- The text after blanks and a comment, which may only be followed by a line end. -/
def skipComment (chars : List Char) : List Char :=
  match chars.dropWhile isSpace with
  | '#' :: rest => rest.dropWhile isPlain
  | rest => rest

/-- The text after the end of a line, with blanks and a comment before it. -/
def lineEnd? (chars : List Char) : Option (List Char) :=
  match skipComment chars with
  | [] => some []
  | '\n' :: rest => some rest
  | '\r' :: '\n' :: rest => some rest
  | _ => none

/-- The text after at most `bound` line ends with blanks and comments. -/
def skipLines : Nat → List Char → List Char
  | 0, chars => chars
  | bound + 1, chars =>
      match skipComment chars with
      | '\n' :: rest => skipLines bound rest
      | '\r' :: '\n' :: rest => skipLines bound rest
      | _ => chars.dropWhile isSpace

/-- The text after blanks, comments and line ends. -/
def skipBlank (chars : List Char) : List Char :=
  skipLines chars.length chars

/-- Read a value with `value?`, at most `bound` times up to the end of an array. -/
def itemsUpTo
    (value? : List Char → Option (Json × List Char)) :
    Nat → List Char → Option (List Json × List Char)
  | 0, _ => none
  | bound + 1, chars =>
      match skipBlank chars with
      | ']' :: rest => some ([], rest)
      | start =>
          (value? start).bind fun (item, rest) =>
            match skipBlank rest with
            | ',' :: rest =>
                (itemsUpTo value? bound rest).map fun (items, rest) =>
                  (item :: items, rest)
            | ']' :: rest => some ([item], rest)
            | _ => none

/-- Read keys, an equals sign and a value. -/
def assignment?
    (value? : List Char → Option (Json × List Char))
    (chars : List Char) :
    Option ((List String × Json) × List Char) :=
  (path? chars).bind fun (path, rest) =>
    match rest with
    | '=' :: rest =>
        (value? (rest.dropWhile isSpace)).map fun (content, rest) =>
          ((path, content), rest.dropWhile isSpace)
    | _ => none

/-- Give the last of some keys its value. -/
def define? (entries : Entries) (entry : List String × Json) : Option Entries :=
  entry.1.getLast?.bind fun name =>
    entries.define entry.1.dropLast name entry.2

/-- Read at most `bound` entries up to the end of a table on one line. -/
def entriesUpTo
    (value? : List Char → Option (Json × List Char)) :
    Nat → Entries → List Char → Option (Entries × List Char)
  | 0, _, _ => none
  | bound + 1, entries, chars =>
      (assignment? value? chars).bind fun (entry, rest) =>
        (define? entries entry).bind fun entries =>
          match rest with
          | ',' :: rest => entriesUpTo value? bound entries rest
          | '\x7d' :: rest => some (entries, rest)
          | _ => none

/-- Read a value in which at most `depth` containers lie inside one another. -/
def value? (depth : Nat) (chars : List Char) : Option (Json × List Char) :=
  match depth, chars with
  | _, '"' :: _ => (text? chars).map fun (text, rest) => (.string text, rest)
  | _, '\'' :: _ => (text? chars).map fun (text, rest) => (.string text, rest)
  | 0, _ => scalarValue chars
  | depth + 1, '[' :: rest =>
      (itemsUpTo (value? depth) (rest.length + 1) rest).map fun (items, rest) =>
        (.array items, rest)
  | depth + 1, '\x7b' :: rest =>
      match rest.dropWhile isSpace with
      | '\x7d' :: rest => some (.object [], rest)
      | rest =>
          (entriesUpTo (value? depth) (rest.length + 1) [] rest).map
            fun (entries, rest) => (entries.toJson, rest)
  | _, _ => scalarValue chars
where
  /-- Read a scalar. -/
  scalarValue (chars : List Char) : Option (Json × List Char) :=
    let (word, rest) := takeScalar chars
    (scalar? word).map fun content => (content, rest)

/-- A line of a text. -/
inductive Line where
  /-- The header of a table. -/
  | table (path : List String)
  /-- The header of one of several tables of one name. -/
  | tables (path : List String)
  | entry (path : List String) (content : Json)
  /-- Nothing but blanks and a comment. -/
  | blank
deriving Repr, DecidableEq

namespace Line

/-- Read what stands on a line before its end. -/
def read? (chars : List Char) : Option (Line × List Char) :=
  match chars.dropWhile isSpace with
  | '[' :: '[' :: rest =>
      (path? rest).bind fun (path, rest) =>
        match rest with
        | ']' :: ']' :: rest => some (.tables path, rest)
        | _ => none
  | '[' :: rest =>
      (path? rest).bind fun (path, rest) =>
        match rest with
        | ']' :: rest => some (.table path, rest)
        | _ => none
  | [] => some (.blank, [])
  | start =>
      if (lineEnd? start).isSome then
        some (.blank, start)
      else
        (assignment? (value? (depthLimit - 1)) start).map
          fun ((path, content), rest) => (.entry path content, rest)

/-- Read at most `bound` lines. -/
def readUpTo : Nat → List Char → Option (List Line)
  | _, [] => some []
  | 0, _ => none
  | bound + 1, chars =>
      (read? chars).bind fun (line, rest) =>
        (lineEnd? rest).bind fun rest =>
          (readUpTo bound rest).map fun lines => line :: lines

/-- Read the lines of a text. -/
def readAll? (chars : List Char) : Option (List Line) :=
  readUpTo chars.length chars

end Line

/-- What the lines read so far say, and the table that is open. -/
structure Document where
  entries : Entries := []
  header : List String := []

namespace Document

/-- Add what a line says. -/
def add? (document : Document) (line : Line) : Option Document :=
  match line with
  | .blank => some document
  | .table path =>
      path.getLast?.bind fun name =>
        (document.entries.addTable? path.dropLast name).map fun entries =>
          ⟨entries, path⟩
  | .tables path =>
      path.getLast?.bind fun name =>
        (document.entries.appendTable? path.dropLast name).map fun entries =>
          ⟨entries, path⟩
  | .entry path content =>
      path.getLast?.bind fun name =>
        (document.entries.defineIn document.header path.dropLast name content).map
          fun entries => ⟨entries, document.header⟩

end Document

/-- The object that a text says; a byte order mark may come first. -/
def read? (text : String) : Option Json :=
  let chars :=
    match text.toList with
    | '\uFEFF' :: rest => rest
    | chars => chars
  (Line.readAll? chars).bind fun lines =>
    (lines.foldlM Document.add? {}).map fun document =>
      document.entries.toJson

end ResourceServer.Toml
