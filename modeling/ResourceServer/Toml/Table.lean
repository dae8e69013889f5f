import ResourceServer.Json.Basic

namespace ResourceServer.Toml

/-!
# Tables under construction

The lines of a TOML text fill tables piece by piece. A table remembers where
it came from, since that decides what may still be added to it: a table with a
header of its own is not filled through keys with dots, and one filled so gets
no header. Only the last of several tables of one name can be filled.
-/

/-- Where a table comes from. -/
inductive Origin where
  /-- A header of its own. -/
  | header
  /-- The header of a table inside it. -/
  | inner
  /-- A key with dots. -/
  | dotted
deriving Repr, DecidableEq

/-- What a key stands for so far. -/
inductive Node where
  | value (content : Json)
  | table (origin : Origin) (entries : List (String × Node))
  /-- Several tables of one name, the last of which can still be filled. -/
  | tables (filled : List Json) (last : List (String × Node))
deriving Inhabited

namespace Node

mutual

/-- The value that a key stands for. -/
def toJson : Node → Json
  | .value content => content
  | .table _ entries => .object (membersOf entries)
  | .tables filled last => .array (filled ++ [.object (membersOf last)])

/-- The values of the keys of a table. -/
def membersOf : List (String × Node) → List (String × Json)
  | [] => []
  | (name, node) :: rest => (name, node.toJson) :: membersOf rest

end

end Node

/-- The keys of a table. -/
abbrev Entries := Record Node

namespace Entries

/-- The value of a table. -/
def toJson (entries : Entries) : Json :=
  .object (Node.membersOf entries)

/--
Change the table that keys lead to from a table of some origin.

Tables that are missing on the way come from `via`, which tells whether the
keys stand in a header or before a value.
-/
def changeAt
    (via : Origin)
    (change : Origin → Entries → Option Entries)
    (path : List String)
    (origin : Origin)
    (entries : Entries) :
    Option Entries :=
  match path with
  | [] => change origin entries
  | name :: rest =>
      match Record.get? entries name with
      | none =>
          (changeAt via change rest via []).map fun inside =>
            Record.insert entries name (.table via inside)
      | some (.value _) => none
      | some (.tables filled last) =>
          (changeAt via change rest .header last).map fun last =>
            Record.insert entries name (.tables filled last)
      | some (.table origin inside) =>
          if via = .dotted ∧ origin = .header then
            none
          else
            (changeAt via change rest origin inside).map fun inside =>
              Record.insert entries name (.table origin inside)

/-- Give a key its value, which it must not have yet. -/
def define
    (entries : Entries)
    (path : List String)
    (name : String)
    (content : Json) :
    Option Entries :=
  changeAt .dotted
    (fun origin inside =>
      if Record.has inside name ∨ (path ≠ [] ∧ origin ≠ .dotted) then
        none
      else
        some (Record.insert inside name (.value content)))
    path .header entries

/-- Give a table its header, which it must not have yet. -/
def addTable?
    (entries : Entries)
    (path : List String)
    (name : String) :
    Option Entries :=
  changeAt .inner
    (fun _ inside =>
      match Record.get? inside name with
      | none => some (Record.insert inside name (.table .header []))
      | some (.table .inner filled) =>
          some (Record.insert inside name (.table .header filled))
      | some _ => none)
    path .header entries

/-- Begin one more of several tables of one name. -/
def appendTable?
    (entries : Entries)
    (path : List String)
    (name : String) :
    Option Entries :=
  changeAt .inner
    (fun _ inside =>
      match Record.get? inside name with
      | none => some (Record.insert inside name (.tables [] []))
      | some (.tables filled last) =>
          some
            (Record.insert inside name
              (.tables (filled ++ [Entries.toJson last]) []))
      | some _ => none)
    path .header entries

/-- Give a key its value inside the table that a header has opened. -/
def defineIn
    (entries : Entries)
    (header path : List String)
    (name : String)
    (content : Json) :
    Option Entries :=
  changeAt .inner
    (fun _ inside => define inside path name content)
    header .header entries

end Entries

end ResourceServer.Toml
