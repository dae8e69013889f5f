import ResourceServer.Proofs.Name.RoundTrip

namespace ResourceServer.Name

/-!
# Ways to come by a name

A name is read from a path, put together from elements, or made from other
names by continuing, joining and cutting them. A construction records such
steps. Followed on plain lists of elements, with the checks of the operations
and no others, it gives the elements of the name that the operations give. So
no element is ever empty, and every constructed name survives its paths.
-/

/-- The steps by which a name is built. -/
inductive Construction where
  /-- Read a path, or a saved name, which is its path. -/
  | read (path : String)
  | collect (elements : List String)
  | child (name : Construction) (element : String)
  | append (name other : Construction)
  | appendPath (name : Construction) (path : String)
  | head (name : Construction) (count : Nat)
  | tail (name : Construction) (count : Nat)
  | subsequence (name : Construction) (first last : Nat)
  | parent (name : Construction)
deriving Repr, DecidableEq

namespace Construction

/-- The name that the operations give, unless one of them refuses. -/
def name? : Construction → Option Name
  | .read path => (parse path).toOption
  | .collect elements => (ofElements elements).toOption
  | .child name element =>
      name.name?.bind fun built => (built.child element).toOption
  | .append name other =>
      name.name?.bind fun built => other.name?.map (built ++ ·)
  | .appendPath name path =>
      name.name?.bind fun built => (built.appendPath path).toOption
  | .head name count => name.name?.bind fun built => (built.head count).toOption
  | .tail name count => name.name?.bind fun built => (built.tail count).toOption
  | .subsequence name first last =>
      name.name?.bind fun built => (built.subsequence first last).toOption
  | .parent name => name.name?.bind Name.parent?

/-- The elements that the steps give on plain lists. -/
def elements? : Construction → Option (List String)
  | .read path => (readElements path).toOption
  | .collect elements => if "" ∈ elements then none else some elements
  | .child name element =>
      name.elements?.bind fun built =>
        if element = "" then none else some (built ++ [element])
  | .append name other =>
      name.elements?.bind fun built => other.elements?.map (built ++ ·)
  | .appendPath name path =>
      name.elements?.bind fun built =>
        (readElements path).toOption.map (built ++ ·)
  | .head name count =>
      name.elements?.bind fun built =>
        if built.length < count then none else some (built.take count)
  | .tail name count =>
      name.elements?.bind fun built =>
        if built.length < count then none else some (built.drop count)
  | .subsequence name first last =>
      name.elements?.bind fun built =>
        if last < first ∨ built.length < last then
          none
        else
          some ((built.take last).drop first)
  | .parent name =>
      name.elements?.bind fun built =>
        if built = [] then none else some built.dropLast

end Construction

/-!
## What each operation does to the elements

An operation on names is an operation on plain lists, which knows nothing of
whether elements are empty except where it checks a new one.
-/

theorem map_elements_parse
    (path : String) :
    (parse path).toOption.map elements = (readElements path).toOption := by
  cases pathRead : readElements path with
  | error fault =>
      simp [parse, pathRead, Except.toOption]
  | ok built =>
      have readsAs :
          parse path = .ok ⟨built, readElements_ne_empty pathRead⟩ :=
        parse_eq_ok_iff.mpr pathRead
      simp [readsAs, Except.toOption]

theorem map_elements_ofElements
    (parts : List String) :
    (ofElements parts).toOption.map elements =
      if "" ∈ parts then none else some parts := by
  unfold ofElements
  by_cases hasEmpty : "" ∈ parts
  · have refused : ¬ ∀ element ∈ parts, element ≠ "" :=
      fun nonempty => nonempty "" hasEmpty rfl
    simp [refused, hasEmpty, Except.toOption]
  · have nonempty : ∀ element ∈ parts, element ≠ "" :=
      fun element member isEmpty => hasEmpty (isEmpty ▸ member)
    rw [dif_pos nonempty, if_neg hasEmpty]
    rfl

theorem map_elements_child
    (name : Name)
    (element : String) :
    (name.child element).toOption.map elements =
      if element = "" then none else some (name.elements ++ [element]) := by
  unfold child
  split <;> rfl

theorem map_elements_appendPath
    (name : Name)
    (path : String) :
    (name.appendPath path).toOption.map elements =
      (readElements path).toOption.map (name.elements ++ ·) := by
  rw [← map_elements_parse]
  unfold appendPath
  cases parse path <;> rfl

theorem map_elements_subsequence
    (name : Name)
    (first last : Nat) :
    (name.subsequence first last).toOption.map elements =
      if last < first ∨ name.elements.length < last then
        none
      else
        some ((name.elements.take last).drop first) := by
  unfold subsequence size
  split <;> rfl

theorem map_elements_head
    (name : Name)
    (count : Nat) :
    (name.head count).toOption.map elements =
      if name.elements.length < count then
        none
      else
        some (name.elements.take count) := by
  simp [head, map_elements_subsequence]

theorem map_elements_tail
    (name : Name)
    (count : Nat) :
    (name.tail count).toOption.map elements =
      if name.elements.length < count then
        none
      else
        some (name.elements.drop count) := by
  simp [tail, map_elements_subsequence, size]

theorem map_elements_parent?
    (name : Name) :
    name.parent?.map elements =
      if name.elements = [] then none else some name.elements.dropLast := by
  unfold parent? isEmpty slice size
  by_cases isNil : name.elements = []
  · simp [isNil]
  · simp [isNil, List.dropLast_eq_take]

/-! ## Constructions -/

namespace Construction

/-- A step on a name, followed by its elements, is the step on its elements. -/
theorem map_elements_bind
    {name : Option Name}
    {built : Option (List String)}
    {operation : Name → Option Name}
    {plain : List String → Option (List String)}
    (sameElements : name.map elements = built)
    (sameStep :
      ∀ name, (operation name).map elements = plain name.elements) :
    (name.bind operation).map elements = built.bind plain := by
  subst sameElements
  cases name with
  | none =>
      rfl
  | some name =>
      exact sameStep name

/-- The operations give the name of the elements that the steps give. -/
theorem map_elements_name?
    (construction : Construction) :
    construction.name?.map elements = construction.elements? := by
  induction construction with
  | read path =>
      exact map_elements_parse path
  | collect parts =>
      exact map_elements_ofElements parts
  | child name element inductionHypothesis =>
      exact
        map_elements_bind inductionHypothesis fun built =>
          map_elements_child built element
  | append name other nameHypothesis otherHypothesis =>
      -- The second name is built as well, so its own hypothesis is needed.
      refine map_elements_bind nameHypothesis fun built => ?_
      rw [← otherHypothesis]
      cases other.name? <;> rfl
  | appendPath name path inductionHypothesis =>
      exact
        map_elements_bind inductionHypothesis fun built =>
          map_elements_appendPath built path
  | head name count inductionHypothesis =>
      exact
        map_elements_bind inductionHypothesis fun built =>
          map_elements_head built count
  | tail name count inductionHypothesis =>
      exact
        map_elements_bind inductionHypothesis fun built =>
          map_elements_tail built count
  | subsequence name first last inductionHypothesis =>
      exact
        map_elements_bind inductionHypothesis fun built =>
          map_elements_subsequence built first last
  | parent name inductionHypothesis =>
      exact map_elements_bind inductionHypothesis map_elements_parent?

/--
However a name is built, its elements are not empty, its path reads as the very
same elements, and its canonical path reads as the same name with the same
canonical path.
-/
theorem reads_back
    {construction : Construction}
    {built : List String}
    (constructed : construction.elements? = some built) :
    (∀ element ∈ built, element ≠ "") ∧
      ∃ name : Name,
        construction.name? = some name ∧
          name.elements = built ∧
          parse name.display = .ok name ∧
          ∃ reread,
            parse name.canonical = .ok reread ∧
              reread.same name = true ∧
              reread.canonical = name.canonical := by
  rw [← map_elements_name?, Option.map_eq_some_iff] at constructed
  obtain ⟨name, named, rfl⟩ := constructed
  exact
    ⟨name.elements_ne_empty, name, named, rfl, parse_display name,
      name.folded, parse_canonical name, same_folded name,
      canonical_folded name⟩

/-- A name with a slash, a percent sign and a letter of two bytes reads back. -/
theorem reads_back_slash_percent :
    (Construction.child (.read "/A%2fb/") "ü%").elements? =
        some ["A/b", "ü%"] ∧
      ∃ name : Name,
        name.elements = ["A/b", "ü%"] ∧ parse name.display = .ok name := by
  have constructed :
      (Construction.child (.read "/A%2fb/") "ü%").elements? =
        some ["A/b", "ü%"] := by
    decide +kernel
  obtain ⟨-, name, -, sameElements, readsBack, -⟩ := reads_back constructed
  exact ⟨constructed, name, sameElements, readsBack⟩

end Construction

end ResourceServer.Name
