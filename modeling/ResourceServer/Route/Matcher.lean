import ResourceServer.Record
import ResourceServer.Route.Template

namespace ResourceServer

/-!
# Matching names

A matcher holds a template against a name, either the whole name or its
beginning. Two matchers that fit the same name are ranked: the one that covers
more elements is better; then the one with a literal where the other first has
a variable; then the one that covers the whole name.
-/

/-- How much of a name a template must cover. -/
inductive Mode where
  /-- All of it. -/
  | equals
  /-- Its beginning; the rest is forwarded. -/
  | startsWith
deriving Repr, DecidableEq

namespace Mode

/-- The mode as it is written in messages and configurations. -/
def text : Mode → String
  | .equals => "equals"
  | .startsWith => "starts_with"

/-- The mode that a text writes. -/
def ofText? : String → Option Mode
  | "equals" => some .equals
  | "starts_with" => some .startsWith
  | _ => none

/-- The place of a mode among modes, better ones above. -/
def rank : Mode → Nat
  | .equals => 1
  | .startsWith => 0

end Mode

/-- How a matcher fits a name. -/
structure Fit where
  /-- How many elements the template covers. -/
  consumed : Nat
  /-- The elements that its variables stand for. -/
  variableValues : Record String
deriving Repr, DecidableEq

/-- A template and how much of a name it must cover. -/
structure Matcher where
  mode : Mode
  template : Template
deriving DecidableEq

namespace Matcher

/-- The matcher of a pattern. -/
def parse (mode : Mode) (pattern : String) : Except Template.Fault Matcher :=
  (Template.parse pattern).map (⟨mode, ·⟩)

/-- Whether segments stand for the elements at the same places. -/
def acceptsAll : List Segment → List String → Bool
  | segment :: segments, element :: elements =>
      segment.accepts element && acceptsAll segments elements
  | _, _ => true

/-- The variables of segments with the elements at the same places. -/
def bindings : List Segment → List String → List (String × String)
  | .placeholder name :: segments, element :: elements =>
      (name, element) :: bindings segments elements
  | .literal _ :: segments, _ :: elements => bindings segments elements
  | _, _ => []

/-- Whether a name has as many elements as the mode asks for. -/
def sizeFits (matcher : Matcher) (name : Name) : Bool :=
  match matcher.mode with
  | .equals => name.size == matcher.template.size
  | .startsWith => matcher.template.size ≤ name.size

/-- How the matcher fits a name, if it does. -/
def fit? (matcher : Matcher) (name : Name) : Option Fit :=
  if matcher.sizeFits name ∧
      acceptsAll matcher.template.segments name.elements then
    some {
      consumed := matcher.template.size
      variableValues :=
        Record.ofList (bindings matcher.template.segments name.elements)
    }
  else
    none

/--
The order of two lists of segments at the first place where one has a literal
and the other a variable; the literal is above.
-/
def compareLiterals : List Segment → List Segment → Ordering
  | left :: lefts, right :: rights =>
      if left.isLiteral = right.isLiteral then
        compareLiterals lefts rights
      else if left.isLiteral then
        .gt
      else
        .lt
  | _, _ => .eq

/-- The order of two matchers that fit the same name, the better one above. -/
def rank (left right : Matcher) : Ordering :=
  (compare left.template.size right.template.size).then <|
    (compareLiterals left.template.segments right.template.segments).then <|
      compare left.mode.rank right.mode.rank

/-- Whether two matchers have the same mode and the same pattern. -/
def same (left right : Matcher) : Bool :=
  left.mode == right.mode && left.template.same right.template

/-- The matcher as ambiguity reports show it. -/
def display (matcher : Matcher) : String :=
  matcher.mode.text ++ " " ++ matcher.template.display

end Matcher

end ResourceServer
