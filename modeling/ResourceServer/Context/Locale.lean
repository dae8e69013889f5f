import ResourceServer.Number.Numeral
import ResourceServer.Text.Blank

namespace ResourceServer

/-!
# Preferred locales

A client lists the languages it prefers. A server picks one of the languages
it has: the first preference that it has exactly, or else in its bare language,
unless that bare language is itself a later preference. Tags are compared
without regard to the case of ASCII letters, and an underscore counts as a
hyphen.
-/

/-- Language tags, the most preferred first. -/
structure Locales where
  preferred : List String
deriving Repr, DecidableEq

namespace Locales

/-- Whether a character stands between the parts of a tag. -/
def isSeparator (char : Char) : Bool :=
  char == '-' || char == '_'

/-- The bare language of a tag. -/
def language (tag : String) : String :=
  String.ofList (tag.toList.takeWhile fun char => !isSeparator char)

/-- The one spelling of a tag. -/
def normalize (tag : String) : String :=
  Text.fold <| String.ofList <|
    tag.toList.map fun char => if char = '_' then '-' else char

/-- Whether two tags mean the same. -/
def sameTag (left right : String) : Bool :=
  normalize left == normalize right

/-- The first of the available tags that means the same as a tag. -/
def find? (available : List String) (tag : String) : Option String :=
  available.find? fun candidate => sameTag candidate tag

/-- The best of the available tags, for preferences in order. -/
def bestOf? (available : List String) : List String → Option String
  | [] => none
  | preferred :: later =>
      match find? available preferred with
      | some found => some found
      | none =>
          let bare := language preferred
          if sameTag bare preferred || later.any (sameTag · bare) then
            bestOf? available later
          else
            match find? available bare with
            | some found => some found
            | none => bestOf? available later

/-- The best of the available tags. -/
def best? (locales : Locales) (available : List String) : Option String :=
  bestOf? available locales.preferred

/-- A tag of a header and its weight. -/
structure Weighted where
  weight : Binary .single
  tag : String
deriving Repr, DecidableEq

/-- The weight among the attributes of a tag; one unless a numeral is given. -/
def weightOf (attributes : List String) : Binary .single :=
  let weight? := fun piece =>
    match (Text.trim piece).toList with
    | 'q' :: '=' :: rest => some (String.ofList rest)
    | _ => none
  ((attributes.findSome? weight?).bind Binary.numeral?).getD Binary.one

/-- Read one entry of a header; the wildcard says nothing. -/
def readEntry? (entry : String) : Option Weighted :=
  match Text.pieces ';' entry with
  | [] => none
  | first :: attributes =>
      let tag := Text.trim first
      if tag = "" ∨ tag = "*" then
        none
      else
        some ⟨weightOf attributes, tag⟩

/--
Read the languages that a header accepts.

Heavier tags come first; those of equal weight keep their order.
-/
def ofHeader (header : String) : Locales :=
  let entries := (Text.pieces ',' header).filterMap readEntry?
  let sorted :=
    entries.mergeSort fun left right =>
      right.weight.orderKey ≤ left.weight.orderKey
  ⟨sorted.map Weighted.tag⟩

end Locales

end ResourceServer
