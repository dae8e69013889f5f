import ResourceServer.Proofs.Name.RoundTrip

namespace ResourceServer.Name

/-!
# Paths that end with a text as it is

A text that is put behind the path of a name, with a slash between and without
being encoded, is read as one more element just where it has neither a slash
nor a percent sign. A slash in it divides it, or is lost at the end of the
path, and an escape is read as the byte that it writes.
-/

section Joined

variable {pieces : List (List Char)}

/-- Paths joined by a slash have the parts of both. -/
theorem splitOn_append_slash
    (front back : List Char) :
    (front ++ '/' :: back).splitOn '/' =
      front.splitOn '/' ++ back.splitOn '/' := by
  simp only [List.splitOn_eq_splitOnP]
  exact List.splitOnP_append_cons front back (beq_self_eq_true '/')

/-- A path with a slash has more than one part. -/
theorem one_lt_length_splitOn
    {core : List Char}
    (hasSlash : '/' ∈ core) :
    1 < (core.splitOn '/').length := by
  obtain ⟨front, back, rfl⟩ := List.mem_iff_append.mp hasSlash
  have inFront := List.length_pos_iff.mpr (List.splitOn_ne_nil '/' front)
  have inBack := List.length_pos_iff.mpr (List.splitOn_ne_nil '/' back)
  rw [splitOn_append_slash, List.length_append]
  omega

/-- Only what has no slash is a single piece. -/
theorem splitOn_eq_singleton_iff
    {core : List Char} :
    core.splitOn '/' = [core] ↔ '/' ∉ core := by
  constructor
  · intro single hasSlash
    have severalPieces := one_lt_length_splitOn hasSlash
    rw [single] at severalPieces
    exact Nat.lt_irrefl _ severalPieces
  · intro noSlash
    rw [List.splitOn_eq_splitOnP]
    apply List.splitOnP_eq_singleton
    intro char member
    rw [beq_eq_false_iff_ne]
    rintro rfl
    exact noSlash member

/-- Pieces without slashes stay whole when what they are joined with is cut. -/
theorem splitOn_joined
    (noSlash : ∀ piece ∈ pieces, '/' ∉ piece)
    (core : List Char) :
    (['/'].intercalate (pieces ++ [core])).splitOn '/' =
      pieces ++ core.splitOn '/' := by
  induction pieces with
  | nil =>
      rw [List.nil_append, List.intercalate_singleton, List.nil_append]
  | cons first rest inductionHypothesis =>
      have restNoSlash : ∀ piece ∈ rest, '/' ∉ piece :=
        fun piece member => noSlash piece (List.mem_cons_of_mem first member)
      have firstWhole : first.splitOn '/' = [first] :=
        splitOn_eq_singleton_iff.mpr (noSlash first List.mem_cons_self)
      rw [List.cons_append, List.intercalate_cons_of_ne_nil (by simp),
        List.append_assoc, List.singleton_append, splitOn_append_slash,
        firstWhole, inductionHypothesis restNoSlash]
      rfl

/-- What is joined last is the end of what is joined. -/
theorem intercalate_concat
    (pieces : List (List Char))
    (last : List Char) :
    ['/'].intercalate (pieces ++ [last]) =
      ['/'].intercalate (pieces ++ [[]]) ++ last := by
  induction pieces with
  | nil =>
      simp only [List.nil_append, List.intercalate_singleton]
  | cons first rest inductionHypothesis =>
      rw [List.cons_append, List.cons_append,
        List.intercalate_cons_of_ne_nil (by simp),
        List.intercalate_cons_of_ne_nil (by simp), inductionHypothesis,
        List.append_assoc _ _ last]

/-- A last piece behind a slash is one more piece. -/
theorem intercalate_append_slash
    (notNil : pieces ≠ [])
    (last : List Char) :
    ['/'].intercalate pieces ++ '/' :: last =
      ['/'].intercalate (pieces ++ [last]) := by
  induction pieces with
  | nil =>
      exact absurd rfl notNil
  | cons first rest inductionHypothesis =>
      cases rest with
      | nil =>
          simp only [List.cons_append, List.nil_append,
            List.intercalate_singleton, List.intercalate_cons_cons,
            List.append_assoc]
      | cons second others =>
          rw [List.cons_append, List.cons_append,
            List.intercalate_cons_cons, List.intercalate_cons_cons,
            List.append_assoc, inductionHypothesis (List.cons_ne_nil _ _)]
          rfl

/-- What is left of the last element of a path when its slashes are stripped. -/
def lastStripped
    (last : List Char) :
    List Char :=
  if last.getLast? = some '/' then last.dropLast else last

/-- Stripping slashes from joined pieces strips the last piece's. -/
theorem stripSlashes_joined
    (pieces : List (List Char))
    {last : List Char}
    (nonempty : last ≠ []) :
    stripSlashes ('/' :: ['/'].intercalate (pieces ++ [last])) =
      ['/'].intercalate (pieces ++ [lastStripped last]) := by
  have sameEnd :
      (['/'].intercalate (pieces ++ [last])).getLast? = last.getLast? := by
    rw [intercalate_concat, List.getLast?_append_of_ne_nil _ nonempty]
  simp only [stripSlashes, sameEnd, lastStripped]
  split
  · rw [intercalate_concat, intercalate_concat _ last.dropLast,
      List.dropLast_append_of_ne_nil nonempty]
  · rfl

end Joined

/-- The elements of a name as they are written in its path. -/
def pieces
    (name : Name) :
    List (List Char) :=
  name.elements.map fun element => (Text.Percent.encode element).toList

theorem toList_display
    (name : Name) :
    name.display.toList = ['/'].intercalate name.pieces := by
  rw [display, String.toList_intercalate, List.map_map]
  rfl

/-- No displayed element holds a slash. -/
theorem slash_not_mem_of_mem_pieces
    {name : Name}
    {piece : List Char}
    (member : piece ∈ name.pieces) :
    '/' ∉ piece := by
  obtain ⟨element, -, rfl⟩ := List.mem_map.mp member
  exact Text.Percent.slash_not_mem_encode element

theorem ne_nil_of_mem_pieces
    {name : Name}
    {piece : List Char}
    (member : piece ∈ name.pieces) :
    piece ≠ [] := by
  obtain ⟨element, isElement, rfl⟩ := List.mem_map.mp member
  simpa using
    Text.Percent.encode_ne_empty (name.elements_ne_empty element isElement)

/-- A path that ends with `last` reads as elements of which `last` is cut. -/
theorem forall₂_of_readElements
    {name : Name}
    {path : String}
    {last : List Char}
    {elements : List String}
    (isPath : path.toList = '/' :: ['/'].intercalate (name.pieces ++ [last]))
    (nonempty : last ≠ [])
    (readsAs : readElements path = .ok elements)
    (notNil : elements ≠ []) :
    List.Forall₂ (fun piece element => readElement path piece = .ok element)
      (name.pieces ++ (lastStripped last).splitOn '/') elements := by
  unfold readElements at readsAs
  rw [isPath, stripSlashes_joined _ nonempty] at readsAs
  split at readsAs
  · split at readsAs
    · cases readsAs
    · cases readsAs
      exact absurd rfl notNil
  · rw [splitOn_joined fun _ => slash_not_mem_of_mem_pieces] at readsAs
    exact mapM_eq_ok_iff.mp readsAs

/-- An element that can be read is what its raw form decodes to. -/
theorem readElement_eq_ok
    {path : String}
    {raw : List Char}
    {element : String}
    (readsAs : readElement path raw = .ok element) :
    Text.Percent.decode (String.ofList raw) = .ok element := by
  unfold readElement at readsAs
  split at readsAs
  · cases readsAs
  · split at readsAs
    · cases readsAs
      assumption
    · cases readsAs

/-- The last piece of a path that reads as a name and one more element. -/
theorem readElement_lastStripped
    {name : Name}
    {path element : String}
    {last : List Char}
    (isPath : path.toList = '/' :: ['/'].intercalate (name.pieces ++ [last]))
    (nonempty : last ≠ [])
    (readsAs : readElements path = .ok (name.elements ++ [element])) :
    '/' ∉ lastStripped last ∧
      readElement path (lastStripped last) = .ok element := by
  have pairs :=
    forall₂_of_readElements isPath nonempty readsAs (by simp)
  have sameLength : name.elements.length = name.pieces.length := by
    rw [pieces, List.length_map]
  have lastPair := List.forall₂_drop_append _ _ _ pairs
  rw [sameLength, List.drop_left, List.forall₂_cons_right_iff] at lastPair
  obtain ⟨piece, others, isRead, noOthers, isPieces⟩ := lastPair
  cases List.forall₂_nil_right_iff.mp noOthers
  -- What is cut into one piece is that piece.
  have isPiece : ['/'].intercalate [piece] = lastStripped last := by
    rw [← isPieces]
    exact List.intercalate_splitOn '/'
  rw [List.intercalate_singleton] at isPiece
  subst isPiece
  exact ⟨splitOn_eq_singleton_iff.mp isPieces, isRead⟩

/-- A slash at the end leaves too little of a text to read it as that text. -/
theorem lastStripped_eq_self
    {path last : String}
    (isRead : readElement path (lastStripped last.toList) = .ok last) :
    lastStripped last.toList = last.toList := by
  by_cases endsWithSlash : last.toList.getLast? = some '/'
  · exfalso
    have noLonger :=
      (Text.Percent.length_bytes_of_decode (readElement_eq_ok isRead)).1
    obtain ⟨front, isFront⟩ := List.getLast?_eq_some_iff.mp endsWithSlash
    have isWhole : last = String.ofList (front ++ ['/']) := by
      rw [← isFront, String.ofList_toList]
    rw [lastStripped, if_pos endsWithSlash, isFront, List.dropLast_concat,
      isWhole, Text.bytes_ofList, Text.bytes_ofList, List.flatMap_append,
      List.length_append] at noLonger
    have oneMore : (['/'].flatMap String.utf8EncodeChar).length = 1 := by
      decide
    omega
  · exact if_neg endsWithSlash

/--
A path that ends with a text as it is names that text as its last element if
and only if the text has neither a slash nor a percent sign.
-/
theorem exists_parse_concat_iff
    {name : Name}
    {path last : String}
    (isPath :
      path.toList = '/' :: ['/'].intercalate (name.pieces ++ [last.toList]))
    (notEmpty : last ≠ "") :
    (∃ read,
      parse path = .ok read ∧ read.elements = name.elements ++ [last]) ↔
      '/' ∉ last.toList ∧ '%' ∉ last.toList := by
  have nonempty : last.toList ≠ [] := by
    simpa using notEmpty
  constructor
  · rintro ⟨read, isRead, sameElements⟩
    rw [parse_eq_ok_iff, sameElements] at isRead
    obtain ⟨noSlash, lastRead⟩ :=
      readElement_lastStripped isPath nonempty isRead
    rw [lastStripped_eq_self lastRead] at noSlash lastRead
    have decodes := readElement_eq_ok lastRead
    rw [String.ofList_toList] at decodes
    exact ⟨noSlash, Text.Percent.decode_eq_self_iff.mp decodes⟩
  · rintro ⟨noSlash, noPercent⟩
    have unstripped : lastStripped last.toList = last.toList :=
      if_neg fun endsWithSlash =>
        noSlash (List.mem_of_getLast? endsWithSlash)
    have lastRead : readElement path last.toList = .ok last := by
      rw [readElement, if_neg nonempty, String.ofList_toList,
        Text.Percent.decode_eq_self_iff.mpr noPercent]
    have elementsNonempty :
        ∀ element ∈ name.elements ++ [last], element ≠ "" := by
      intro element member
      rcases List.mem_append.mp member with inName | isLast
      · exact name.elements_ne_empty element inName
      · rw [List.mem_singleton.mp isLast]
        exact notEmpty
    refine ⟨⟨name.elements ++ [last], elementsNonempty⟩, ?_, rfl⟩
    rw [parse_eq_ok_iff, readElements, isPath, stripSlashes_joined _ nonempty,
      unstripped]
    split
    · rename_i isNil
      rw [intercalate_concat, List.append_eq_nil_iff] at isNil
      exact absurd isNil.2 nonempty
    · rw [splitOn_joined fun _ => slash_not_mem_of_mem_pieces,
        splitOn_eq_singleton_iff.mpr noSlash, mapM_eq_ok_iff]
      apply List.rel_append
      · rw [pieces, List.forall₂_map_left_iff, List.forall₂_same]
        intro element member
        exact readElement_encode path (name.elements_ne_empty element member)
      · exact .cons lastRead .nil

end ResourceServer.Name
