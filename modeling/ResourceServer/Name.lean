import ResourceServer.Failure
import ResourceServer.Text.Fold
import ResourceServer.Text.Percent

namespace ResourceServer

/-!
# Resource names

A resource name is a sequence of non-empty texts, the elements of a path. It is
written with percent-encoded elements and a slash between neighbours, so a
slash inside an element is content. Names are compared element by element
without regard to the case of ASCII letters; a name comes before those that
continue it.
-/

/-- A sequence of non-empty elements. -/
structure Name where
  elements : List String
  elements_ne_empty : ∀ element ∈ elements, element ≠ ""
deriving DecidableEq

namespace Name

/-- Why a text or a list of elements is no name. -/
inductive Fault where
  /-- Nothing stands between two slashes of this path. -/
  | emptyElement (path : String)
  /-- One of the given elements is empty. -/
  | emptyPart
  /-- An element of a path is not percent-encoded. -/
  | escape (element : String) (fault : Text.Percent.Fault)
deriving Repr, DecidableEq

/-- The fault in words. -/
def Fault.message : Fault → String
  | .emptyElement path => s!"'{path}' contains empty path elements"
  | .emptyPart => "resource name elements must not be empty"
  | .escape element fault => fault.message element

/-- The failure that reports a fault. -/
def Fault.failure (fault : Fault) : Failure :=
  .malformedName fault.message

/-- The name without elements. -/
def empty : Name := ⟨[], by simp⟩

instance : Inhabited Name := ⟨empty⟩

/-- How many elements a name has. -/
def size (name : Name) : Nat :=
  name.elements.length

/-- Whether a name has no elements. -/
def isEmpty (name : Name) : Bool :=
  name.elements.isEmpty

/-- The name with these elements. -/
def ofElements (elements : List String) : Except Fault Name :=
  if nonempty : ∀ element ∈ elements, element ≠ "" then
    .ok ⟨elements, nonempty⟩
  else
    .error .emptyPart

/-- A path without one slash at its start and one at its end. -/
def stripSlashes (path : List Char) : List Char :=
  let path :=
    match path with
    | '/' :: rest => rest
    | path => path
  if path.getLast? = some '/' then path.dropLast else path

/-- The text of one element, from its percent encoding. -/
def readElement (path : String) (raw : List Char) : Except Fault String :=
  if raw = [] then
    .error (.emptyElement path)
  else
    match Text.Percent.decode (String.ofList raw) with
    | .ok element => .ok element
    | .error fault => .error (.escape (String.ofList raw) fault)

/--
The elements of a path.

One slash at either end is ignored. Between two slashes there must be an
element.
-/
def readElements (path : String) : Except Fault (List String) :=
  match stripSlashes path.toList with
  | [] => if 1 < path.length then .error (.emptyElement path) else .ok []
  | inner => (inner.splitOn '/').mapM (readElement path)

/-- Read a path. -/
def parse (path : String) : Except Fault Name :=
  match readElements path with
  | .ok elements => ofElements elements
  | .error fault => .error fault

/-- The path that names a resource, with the case of its letters. -/
def display (name : Name) : String :=
  String.intercalate "/" (name.elements.map Text.Percent.encode)

/-- The path that names a resource, one for all spellings of its letters. -/
def canonical (name : Name) : String :=
  String.intercalate "/" (name.elements.map Text.Percent.encodeFolded)

/-- The elements without regard to the case of their letters. -/
def key (name : Name) : List String :=
  name.elements.map Text.fold

instance : Ord Name where
  compare left right := compare left.key right.key

/-- Whether two names name the same resource. -/
def same (left right : Name) : Bool :=
  left.key == right.key

/-- Whether a name begins with all elements of another. -/
def startsWith (name start : Name) : Bool :=
  start.key.isPrefixOf name.key

/-- The name of the elements from `first` on, up to and without `last`. -/
def slice (name : Name) (first last : Nat) : Name where
  elements := (name.elements.take last).drop first
  elements_ne_empty := fun element isIn =>
    name.elements_ne_empty element
      (List.mem_of_mem_take (List.mem_of_mem_drop isIn))

/-- The name of the elements in a range, which must lie in the name. -/
def subsequence (name : Name) (first last : Nat) : Except Failure Name :=
  if last < first ∨ name.size < last then
    .error
      (.invalidArgument
        s!"range {first}..{last} out of bounds for resource name of size {name.size}")
  else
    .ok (name.slice first last)

/-- The name of the first `count` elements. -/
def head (name : Name) (count : Nat) : Except Failure Name :=
  name.subsequence 0 count

/-- The name of the elements after the first `count`. -/
def tail (name : Name) (count : Nat) : Except Failure Name :=
  name.subsequence count name.size

/-- The name without its last element, unless it has none. -/
def parent? (name : Name) : Option Name :=
  if name.isEmpty then none else some (name.slice 0 (name.size - 1))

/-- The last element. -/
def leaf? (name : Name) : Option String :=
  name.elements.getLast?

/-- The element at a position. -/
def get? (name : Name) (index : Nat) : Option String :=
  name.elements[index]?

/-- The elements of one name and then those of another. -/
def append (name other : Name) : Name where
  elements := name.elements ++ other.elements
  elements_ne_empty := fun element isIn =>
    match List.mem_append.mp isIn with
    | .inl isIn => name.elements_ne_empty element isIn
    | .inr isIn => other.elements_ne_empty element isIn

instance : Append Name := ⟨append⟩

/-- The name with one more element. -/
def child (name : Name) (element : String) : Except Fault Name :=
  if nonempty : element = "" then
    .error .emptyPart
  else
    .ok (name ++ ⟨[element], by simpa using nonempty⟩)

/-- The name continued by the elements of a path. -/
def appendPath (name : Name) (path : String) : Except Fault Name :=
  (parse path).map (name ++ ·)

/-- The names in ascending order; those that compare equal keep their order. -/
def sort (names : List Name) : List Name :=
  names.mergeSort fun left right => (compare left right).isLE

/-- The first of the names of each resource, in the order given. -/
def distinct (names : List Name) : List Name :=
  names.foldl
    (fun found name =>
      if found.any name.same then found else found ++ [name])
    []

end Name

end ResourceServer
