import Mathlib.Data.List.Forall2
import ResourceServer.Name
import ResourceServer.Proofs.Text.Percent

namespace ResourceServer.Name

/-!
# Names survive their paths

The path that displays a name reads as that name, and the canonical path reads
as the name with the case of its letters folded. Reading never comes upon an
empty element, so every way to build a name gives non-empty elements without a
check beyond those that the operations make.
-/

/-- Reading all of a list succeeds when reading each member does. -/
theorem mapM_eq_ok_iff
    {Source Target Failed : Type}
    {read : Source → Except Failed Target}
    {sources : List Source}
    {targets : List Target} :
    sources.mapM read = .ok targets ↔
      List.Forall₂ (fun source target => read source = .ok target)
        sources targets := by
  induction sources generalizing targets with
  | nil =>
      cases targets <;> simp [pure, Except.pure]
  | cons source rest inductionHypothesis =>
      rw [List.mapM_cons, List.forall₂_cons_left_iff]
      cases headRead : read source with
      | error fault =>
          simp [bind, Except.bind]
      | ok target =>
          cases restRead : rest.mapM read with
          | error fault =>
              simp only [restRead, reduceCtorEq, false_iff] at inductionHypothesis
              simp [bind, Except.bind, inductionHypothesis]
          | ok others =>
              simp only [restRead, Except.ok.injEq] at inductionHypothesis
              simp only [bind, Except.bind, pure, Except.pure,
                Except.ok.injEq, ← inductionHypothesis]
              constructor
              · rintro rfl
                exact ⟨target, others, rfl, rfl, rfl⟩
              · rintro ⟨_, _, rfl, rfl, rfl⟩
                rfl

/-- Reading a list fails exactly if reading one of its members does. -/
theorem exists_mapM_eq_error_iff
    {Source Target Failed : Type}
    {read : Source → Except Failed Target}
    {sources : List Source} :
    (∃ fault, sources.mapM read = .error fault) ↔
      ∃ source ∈ sources, ∃ fault, read source = .error fault := by
  induction sources with
  | nil =>
      simp [pure, Except.pure]
  | cons source rest inductionHypothesis =>
      rw [List.mapM_cons, List.exists_mem_cons_iff, ← inductionHypothesis]
      cases read source with
      | error fault =>
          simp [bind, Except.bind]
      | ok target =>
          cases rest.mapM read <;> simp [bind, Except.bind, pure, Except.pure]

theorem map_eq_ok_iff
    {Source Target Failed : Type}
    {outcome : Except Failed Source}
    {transform : Source → Target}
    {target : Target} :
    outcome.map transform = .ok target ↔
      ∃ source, outcome = .ok source ∧ transform source = target := by
  cases outcome with
  | error fault =>
      simp only [Except.map, reduceCtorEq, false_and, exists_false]
  | ok source =>
      simp only [Except.map, Except.ok.injEq, exists_eq_left']

theorem bind_eq_ok_iff
    {Source Target Failed : Type}
    {outcome : Except Failed Source}
    {next : Source → Except Failed Target}
    {target : Target} :
    (outcome >>= next) = .ok target ↔
      ∃ source, outcome = .ok source ∧ next source = .ok target := by
  cases outcome with
  | error fault =>
      simp only [bind, Except.bind, reduceCtorEq, false_and, exists_false]
  | ok source =>
      simp only [bind, Except.bind, Except.ok.injEq, exists_eq_left']

/-! ## Elements of a path are not empty -/

theorem readElement_ne_empty
    {path : String}
    {raw : List Char}
    {element : String}
    (readsAs : readElement path raw = .ok element) :
    element ≠ "" := by
  unfold readElement at readsAs
  split at readsAs
  · cases readsAs
  · rename_i notNil
    split at readsAs
    · rename_i decoded decodes
      cases readsAs
      refine Text.Percent.decode_ne_empty ?_ decodes
      intro isEmpty
      exact notNil (String.ofList_eq_empty_iff.mp isEmpty)
    · cases readsAs

/-- Elements that are read one after the other are not empty. -/
theorem mapM_readElement_ne_empty
    {path : String}
    {pieces : List (List Char)}
    {elements : List String}
    (readsAs : pieces.mapM (readElement path) = .ok elements) :
    ∀ element ∈ elements, element ≠ "" := by
  have eachRead := mapM_eq_ok_iff.mp readsAs
  clear readsAs
  induction eachRead with
  | nil =>
      simp
  | cons pieceRead _ inductionHypothesis =>
      intro element member
      rcases List.mem_cons.mp member with isFirst | inRest
      · subst isFirst
        exact readElement_ne_empty pieceRead
      · exact inductionHypothesis element inRest

/-- The elements of a path are not empty. -/
theorem readElements_ne_empty
    {path : String}
    {elements : List String}
    (readsAs : readElements path = .ok elements) :
    ∀ element ∈ elements, element ≠ "" := by
  unfold readElements at readsAs
  split at readsAs
  · split at readsAs
    · cases readsAs
    · cases readsAs
      simp
  · exact mapM_readElement_ne_empty readsAs

/-- Reading a path needs no check that its elements are not empty. -/
theorem parse_eq_ok_iff
    {path : String}
    {name : Name} :
    parse path = .ok name ↔ readElements path = .ok name.elements := by
  unfold parse
  cases pathRead : readElements path with
  | error fault =>
      simp
  | ok elements =>
      have nonempty := readElements_ne_empty pathRead
      simp only [ofElements, dif_pos nonempty, Except.ok.injEq]
      constructor
      · rintro rfl
        rfl
      · rintro rfl
        rfl

/-! ## Paths of joined elements -/

section Joined

variable {pieces : List (List Char)}

/-- Joining non-empty pieces, at least one, gives something. -/
theorem intercalate_ne_nil
    {separator : List Char}
    (notNil : pieces ≠ [])
    (nonempty : ∀ piece ∈ pieces, piece ≠ []) :
    separator.intercalate pieces ≠ [] := by
  cases pieces with
  | nil =>
      exact absurd rfl notNil
  | cons first rest =>
      have firstNonempty := nonempty first List.mem_cons_self
      cases rest with
      | nil =>
          simpa using firstNonempty
      | cons second others =>
          simp [firstNonempty]

/-- Joined pieces without slashes do not start with a slash. -/
theorem head?_intercalate_ne
    (nonempty : ∀ piece ∈ pieces, piece ≠ [])
    (noSlash : ∀ piece ∈ pieces, '/' ∉ piece) :
    (['/'].intercalate pieces).head? ≠ some '/' := by
  cases pieces with
  | nil =>
      simp
  | cons first rest =>
      have firstNonempty := nonempty first List.mem_cons_self
      have firstNoSlash := noSlash first List.mem_cons_self
      cases first with
      | nil =>
          exact absurd rfl firstNonempty
      | cons char chars =>
          rw [List.intercalate_cons_cons_left, List.head?_cons]
          rintro startsWithSlash
          cases startsWithSlash
          exact firstNoSlash List.mem_cons_self

theorem getLast?_intercalate_ne
    (nonempty : ∀ piece ∈ pieces, piece ≠ [])
    (noSlash : ∀ piece ∈ pieces, '/' ∉ piece) :
    (['/'].intercalate pieces).getLast? ≠ some '/' := by
  induction pieces with
  | nil =>
      simp
  | cons first rest inductionHypothesis =>
      cases rest with
      | nil =>
          rw [List.intercalate_singleton]
          intro endsWithSlash
          exact
            noSlash first List.mem_cons_self
              (List.mem_of_getLast? endsWithSlash)
      | cons second others =>
          -- What is joined after the slash is not empty, so the end is there.
          have restNonempty := fun piece isIn =>
            nonempty piece (List.mem_cons_of_mem first isIn)
          have restNoSlash := fun piece isIn =>
            noSlash piece (List.mem_cons_of_mem first isIn)
          have joinedNonempty :
              ['/'].intercalate (second :: others) ≠ [] :=
            intercalate_ne_nil (by simp) restNonempty
          rw [List.intercalate_cons_cons,
            List.getLast?_append_of_ne_nil _ joinedNonempty]
          exact inductionHypothesis restNonempty restNoSlash

/-- A path is left alone when it neither starts nor ends with a slash. -/
theorem stripSlashes_eq_self
    {path : List Char}
    (noStart : path.head? ≠ some '/')
    (noEnd : path.getLast? ≠ some '/') :
    stripSlashes path = path := by
  unfold stripSlashes
  dsimp only
  split
  · exact absurd rfl noStart
  · exact if_neg noEnd

/-- What is joined by slashes is read piece by piece, if no piece has a slash. -/
theorem readElements_of_stripped
    {path : String}
    (stripped : stripSlashes path.toList = ['/'].intercalate pieces)
    (notNil : pieces ≠ [])
    (nonempty : ∀ piece ∈ pieces, piece ≠ [])
    (noSlash : ∀ piece ∈ pieces, '/' ∉ piece) :
    readElements path = pieces.mapM (readElement path) := by
  have joinedNotNil : ['/'].intercalate pieces ≠ [] :=
    intercalate_ne_nil notNil nonempty
  unfold readElements
  rw [stripped]
  split
  · contradiction
  · rw [List.splitOn_intercalate '/' noSlash notNil]

/-- A path of joined pieces without slashes is read piece by piece. -/
theorem readElements_of_joined
    {path : String}
    (joined : path.toList = ['/'].intercalate pieces)
    (notNil : pieces ≠ [])
    (nonempty : ∀ piece ∈ pieces, piece ≠ [])
    (noSlash : ∀ piece ∈ pieces, '/' ∉ piece) :
    readElements path = pieces.mapM (readElement path) := by
  refine readElements_of_stripped ?_ notNil nonempty noSlash
  rw [joined]
  exact
    stripSlashes_eq_self
      (head?_intercalate_ne nonempty noSlash)
      (getLast?_intercalate_ne nonempty noSlash)

end Joined

/-- An encoded element reads as the element. -/
theorem readElement_encode
    (path : String)
    {element : String}
    (notEmpty : element ≠ "") :
    readElement path (Text.Percent.encode element).toList = .ok element := by
  have encodedNotNil : (Text.Percent.encode element).toList ≠ [] := by
    simpa using Text.Percent.encode_ne_empty notEmpty
  simp [readElement, encodedNotNil]

/-- A path of encoded elements reads as those elements. -/
theorem readElements_intercalate
    {elements : List String}
    (nonempty : ∀ element ∈ elements, element ≠ "") :
    readElements
        (String.intercalate "/" (elements.map Text.Percent.encode)) =
      .ok elements := by
  by_cases isNil : elements = []
  · subst isNil
    rfl
  · let pieces :=
      elements.map fun element => (Text.Percent.encode element).toList
    have joined :
        (String.intercalate "/"
            (elements.map Text.Percent.encode)).toList =
          ['/'].intercalate pieces := by
      rw [String.toList_intercalate, List.map_map]
      rfl
    have piecesNonempty : ∀ piece ∈ pieces, piece ≠ [] := by
      intro piece isPiece
      obtain ⟨element, member, rfl⟩ := List.mem_map.mp isPiece
      simpa using Text.Percent.encode_ne_empty (nonempty element member)
    have piecesNoSlash : ∀ piece ∈ pieces, '/' ∉ piece := by
      intro piece isPiece
      obtain ⟨element, member, rfl⟩ := List.mem_map.mp isPiece
      exact Text.Percent.slash_not_mem_encode element
    rw [readElements_of_joined joined (by simpa [pieces] using isNil)
      piecesNonempty piecesNoSlash, mapM_eq_ok_iff,
      List.forall₂_map_left_iff, List.forall₂_same]
    intro element member
    exact readElement_encode _ (nonempty element member)

/-- The path that displays a name reads as that name. -/
@[simp] theorem parse_display
    (name : Name) :
    parse name.display = .ok name :=
  parse_eq_ok_iff.mpr (readElements_intercalate name.elements_ne_empty)

/-- Names displayed alike are the same, letter for letter. -/
theorem display_injective
    {left right : Name}
    (displayedAlike : left.display = right.display) :
    left = right := by
  have readBack := parse_display left
  rw [displayedAlike, parse_display] at readBack
  exact (Except.ok.inj readBack).symm

/-! ## The canonical path -/

/-- The name with the case of its letters folded. -/
def folded (name : Name) : Name where
  elements := name.key
  elements_ne_empty := by
    intro element member
    obtain ⟨original, isIn, rfl⟩ := List.mem_map.mp member
    exact Text.fold_ne_empty (name.elements_ne_empty original isIn)

/-- The canonical path displays the folded name. -/
theorem canonical_eq_display_folded
    (name : Name) :
    name.canonical = name.folded.display := by
  have sameTexts :
      name.elements.map Text.Percent.encodeFolded =
        name.key.map Text.Percent.encode := by
    rw [key, List.map_map]
    exact
      List.map_congr_left fun element _ =>
        Text.Percent.encodeFolded_eq element
  exact congrArg (String.intercalate "/") sameTexts

/-- Folding a name again changes nothing. -/
@[simp] theorem key_folded
    (name : Name) :
    name.folded.key = name.key := by
  simp only [key, folded, List.map_map]
  exact List.map_congr_left fun element _ => Text.fold_fold element

/-- The canonical path reads as the folded name. -/
theorem parse_canonical
    (name : Name) :
    parse name.canonical = .ok name.folded := by
  rw [canonical_eq_display_folded, parse_display]

theorem same_folded
    (name : Name) :
    name.folded.same name = true := by
  simp [same]

theorem canonical_folded
    (name : Name) :
    name.folded.canonical = name.canonical := by
  have foldedTwice : name.folded.folded = name.folded := by
    simp only [folded, mk.injEq]
    exact key_folded name
  rw [canonical_eq_display_folded, foldedTwice, canonical_eq_display_folded]

end ResourceServer.Name
