import ResourceServer.Name

namespace ResourceServer

/-!
# Route templates

A template is written like a name. An element in braces is a variable and
stands for any one element; every other element is a literal and stands for
itself, without regard to the case of ASCII letters. A variable fills its
element, and no variable occurs twice.
-/

/-- One element of a template. -/
inductive Segment where
  | literal (text : String)
  | placeholder (name : String)
deriving Repr, DecidableEq

namespace Segment

/-- Whether a segment is a literal. -/
def isLiteral : Segment → Bool
  | .literal _ => true
  | .placeholder _ => false

/-- Whether a segment stands for an element. -/
def accepts (segment : Segment) (element : String) : Bool :=
  match segment with
  | .literal text => Text.sameFold text element
  | .placeholder _ => true

/-- The name of a variable. -/
def name? : Segment → Option String
  | .literal _ => none
  | .placeholder name => some name

/-- The segment as it is written in a pattern. -/
def display : Segment → String
  | .literal text => Text.Percent.encode text
  | .placeholder name => "\x7b" ++ name ++ "\x7d"

end Segment

/-- A route pattern. -/
structure Template where
  /-- The pattern read as a name, which tells equal patterns apart. -/
  name : Name
  segments : List Segment
deriving DecidableEq

namespace Template

/-- Why a text is no route pattern. -/
inductive Fault where
  /-- The pattern is no name. -/
  | name (fault : Name.Fault)
  /-- Nothing, or another brace, stands between two braces. -/
  | emptyOrNested (pattern : String)
  /-- A variable occurs twice. -/
  | boundTwice (pattern twice : String)
  /-- A brace stands beside other text. -/
  | partialElement (pattern : String)
deriving Repr, DecidableEq

namespace Fault

/-- The fault in words. -/
def message : Fault → String
  | .name fault => fault.message
  | .emptyOrNested pattern =>
      s!"route pattern '{pattern}': empty or nested variable name"
  | .boundTwice pattern twice =>
      s!"route pattern '{pattern}': variable '{twice}' bound twice"
  | .partialElement pattern =>
      s!"route pattern '{pattern}': a variable must occupy a whole segment"

/-- The failure that reports a fault. -/
def failure (fault : Fault) : Failure :=
  .malformedName fault.message

end Fault

/-- Whether a character is a brace. -/
def isBrace (char : Char) : Bool :=
  char == '\x7b' || char == '\x7d'

/-- What stands between a brace at the start of an element and one at its end. -/
def betweenBraces? (element : List Char) : Option (List Char) :=
  match element with
  | '\x7b' :: rest =>
      if rest.getLast? = some '\x7d' then some rest.dropLast else none
  | _ => none

/-- The segment that an element of a pattern writes. -/
def readSegment (pattern element : String) : Except Fault Segment :=
  match betweenBraces? element.toList with
  | some inner =>
      if inner.isEmpty || inner.any isBrace then
        .error (.emptyOrNested pattern)
      else
        .ok (.placeholder (String.ofList inner))
  | none =>
      if element.toList.any isBrace then
        .error (.partialElement pattern)
      else
        .ok (.literal element)

/-- The segments of a pattern; `bound` holds the variables read before. -/
def readSegments
    (pattern : String)
    (bound : List String) :
    List String → Except Fault (List Segment)
  | [] => .ok []
  | element :: rest =>
      match readSegment pattern element with
      | .error fault => .error fault
      | .ok (.placeholder name) =>
          if bound.contains name then
            .error (.boundTwice pattern name)
          else
            (readSegments pattern (name :: bound) rest).map (.placeholder name :: ·)
      | .ok segment => (readSegments pattern bound rest).map (segment :: ·)

/-- The template that a pattern writes. -/
def parse (pattern : String) : Except Fault Template :=
  match Name.parse pattern with
  | .error fault => .error (.name fault)
  | .ok name =>
      (readSegments pattern [] name.elements).map fun segments =>
        ⟨name, segments⟩

/-- The template without segments. -/
def empty : Template := ⟨Name.empty, []⟩

/-- How many segments a template has. -/
def size (template : Template) : Nat :=
  template.segments.length

/-- The variables of a template, in order. -/
def variableNames (template : Template) : List String :=
  template.segments.filterMap Segment.name?

/-- The template as a pattern. -/
def display (template : Template) : String :=
  String.intercalate "/" (template.segments.map Segment.display)

/-- Whether two templates are the same pattern but for the case of letters. -/
def same (left right : Template) : Bool :=
  left.name.same right.name

end Template

end ResourceServer
