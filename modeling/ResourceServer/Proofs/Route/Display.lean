import ResourceServer.Proofs.Name.Order
import ResourceServer.Proofs.Route.Identity

namespace ResourceServer

/-!
# Patterns as they are displayed

A template is displayed with its literals encoded and its variables as they are
called. So the text that displays it is again a pattern of that template if no
variable has a slash or a percent sign in its name, and only then: a slash
divides the variable, and an escape is read as the byte that it writes. Routes
are removed by the text that displays them just as far.
-/

namespace Segment

/-- What a segment says: the text of a literal or the name of a variable. -/
def text : Segment → String
  | .literal text => text
  | .placeholder name => name

/-- The element of a pattern that is read as a segment. -/
def element : Segment → String
  | .literal text => text
  | .placeholder name => "\x7b" ++ name ++ "\x7d"

/-- What a segment says is not empty, and there are no braces in it. -/
structure Unbraced (segment : Segment) : Prop where
  notEmpty : segment.text ≠ ""
  noBrace : ∀ char ∈ segment.text.toList, Template.isBrace char = false

/-- The segment is no variable with a slash or a percent sign in its name. -/
def Plain (segment : Segment) : Prop :=
  ∀ name, segment.name? = some name →
    '/' ∉ name.toList ∧ '%' ∉ name.toList

/-- A placeholder is displayed in braces. -/
theorem toList_element_placeholder
    (name : String) :
    (Segment.placeholder name).element.toList =
      '\x7b' :: (name.toList ++ ['\x7d']) := by
  simp [element]

theorem element_ne_empty
    {segment : Segment}
    (unbraced : segment.Unbraced) :
    segment.element ≠ "" := by
  cases segment with
  | literal text =>
      exact unbraced.notEmpty
  | placeholder name =>
      intro isEmpty
      have isNil := String.toList_eq_nil_iff.mpr isEmpty
      rw [toList_element_placeholder] at isNil
      cases isNil

/-- A displayed segment is not empty and has no slash at its ends. -/
theorem bare_display
    {segment : Segment}
    (unbraced : segment.Unbraced) :
    Name.Bare segment.display := by
  cases segment with
  | literal text =>
      have noSlash := Text.Percent.slash_not_mem_encode text
      exact {
        notEmpty := Text.Percent.encode_ne_empty unbraced.notEmpty
        noStart := fun isStart => noSlash (List.mem_of_head? isStart)
        noEnd := fun isEnd => noSlash (List.mem_of_getLast? isEnd)
      }
  | placeholder name =>
      have isElement := toList_element_placeholder name
      refine ⟨element_ne_empty unbraced, ?_, ?_⟩
      · show (Segment.placeholder name).element.toList.head? ≠ some '/'
        rw [isElement, List.head?_cons]
        decide
      · show (Segment.placeholder name).element.toList.getLast? ≠ some '/'
        rw [isElement, List.getLast?_cons_of_ne_nil (by simp),
          List.getLast?_concat]
        decide

/-- Only a variable with a slash in its name is displayed with a slash. -/
theorem slash_not_mem_display_iff
    {segment : Segment} :
    '/' ∉ segment.display.toList ↔
      ∀ name, segment.name? = some name → '/' ∉ name.toList := by
  cases segment with
  | literal text =>
      simp only [display, name?, reduceCtorEq, false_implies, implies_true,
        iff_true]
      exact Text.Percent.slash_not_mem_encode text
  | placeholder name =>
      show '/' ∉ (Segment.placeholder name).element.toList ↔ _
      simp only [toList_element_placeholder, name?, Option.some.injEq,
        forall_eq', List.mem_cons, List.mem_append, List.not_mem_nil, or_false]
      simp

/--
A displayed segment is read as the element that it was read from, even up to the
case of letters, only if its name holds no percent sign.
-/
theorem percent_not_mem_of_fold
    {segment : Segment}
    {path name read : String}
    (isVariable : segment.name? = some name)
    (readsAs :
      Name.readElement path segment.display.toList = .ok read)
    (sameFold : Text.fold read = Text.fold segment.element) :
    '%' ∉ name.toList := by
  cases segment with
  | literal text =>
      cases isVariable
  | placeholder given =>
      cases isVariable
      intro isIn
      have decodes := Name.readElement_eq_ok readsAs
      rw [String.ofList_toList] at decodes
      have inElement :
          '%' ∈ (Segment.placeholder name).element.toList := by
        rw [toList_element_placeholder]
        exact List.mem_cons_of_mem _ (List.mem_append_left _ isIn)
      have shorter :=
        (Text.Percent.length_bytes_of_decode decodes).2 inElement
      have sameLength :
          (Text.bytes (Text.fold read)).length =
            (Text.bytes (Text.fold (Segment.placeholder name).element)).length :=
        congrArg (fun text => (Text.bytes text).length) sameFold
      rw [Text.bytes_fold, Text.bytes_fold, List.length_map,
        List.length_map] at sameLength
      exact absurd shorter (Nat.not_lt.mpr (Nat.le_of_eq sameLength.symm))

/-- A plain segment is displayed so that it is read as its element. -/
theorem readElement_display
    {segment : Segment}
    (unbraced : segment.Unbraced)
    (plain : segment.Plain)
    (path : String) :
    Name.readElement path segment.display.toList = .ok segment.element := by
  cases segment with
  | literal text =>
      exact Name.readElement_encode path unbraced.notEmpty
  | placeholder name =>
      have noPercent :
          '%' ∉ (Segment.placeholder name).element.toList := by
        rw [toList_element_placeholder]
        simp [(plain name rfl).2]
      have notNil : (Segment.placeholder name).element.toList ≠ [] := by
        simpa using element_ne_empty unbraced
      show
        Name.readElement path (Segment.placeholder name).element.toList = _
      rw [Name.readElement, if_neg notNil, String.ofList_toList,
        Text.Percent.decode_eq_self_iff.mpr noPercent]

end Segment

namespace Name

/-- What is joined by slashes is cut where the pieces are, and within them. -/
theorem splitOn_intercalate_slash
    {pieces : List (List Char)}
    (notNil : pieces ≠ []) :
    (['/'].intercalate pieces).splitOn '/' =
      pieces.flatMap fun piece => piece.splitOn '/' := by
  induction pieces with
  | nil =>
      exact absurd rfl notNil
  | cons first rest inductionHypothesis =>
      by_cases isLast : rest = []
      · subst isLast
        rw [List.intercalate_singleton, List.flatMap_singleton]
      · rw [List.intercalate_cons_of_ne_nil isLast, List.append_assoc,
          List.singleton_append, splitOn_append_slash, List.flatMap_cons,
          inductionHypothesis isLast]

/-- A path has at least as many parts as pieces. -/
theorem length_le_length_parts
    (pieces : List (List Char)) :
    pieces.length ≤
      (pieces.flatMap fun piece => piece.splitOn '/').length := by
  induction pieces with
  | nil =>
      exact Nat.le_refl _
  | cons first rest inductionHypothesis =>
      have inFirst := List.length_pos_iff.mpr (List.splitOn_ne_nil '/' first)
      rw [List.flatMap_cons, List.length_append, List.length_cons]
      omega

/-- No piece is cut if there are no more parts than pieces. -/
theorem slash_not_mem_of_length_parts
    {pieces : List (List Char)}
    (noMore :
      (pieces.flatMap fun piece => piece.splitOn '/').length ≤
        pieces.length) :
    ∀ piece ∈ pieces, '/' ∉ piece := by
  induction pieces with
  | nil =>
      intro piece isIn
      cases isIn
  | cons first rest inductionHypothesis =>
      have inFirst := List.length_pos_iff.mpr (List.splitOn_ne_nil '/' first)
      have inRest := length_le_length_parts rest
      rw [List.flatMap_cons, List.length_append, List.length_cons] at noMore
      intro piece isIn hasSlash
      rcases List.mem_cons.mp isIn with isFirst | isLater
      · subst isFirst
        have severalParts := one_lt_length_splitOn hasSlash
        omega
      · exact inductionHypothesis (by omega) piece isLater hasSlash

/-- Pieces without slashes are cut into themselves. -/
theorem flatMap_splitOn_eq_self
    {pieces : List (List Char)}
    (noSlash : ∀ piece ∈ pieces, '/' ∉ piece) :
    (pieces.flatMap fun piece => piece.splitOn '/') = pieces := by
  induction pieces with
  | nil =>
      rfl
  | cons first rest inductionHypothesis =>
      rw [List.flatMap_cons,
        splitOn_eq_singleton_iff.mpr (noSlash first List.mem_cons_self),
        inductionHypothesis fun piece isIn =>
          noSlash piece (List.mem_cons_of_mem first isIn)]
      rfl

end Name

namespace Template

/-- No variable of the template has a slash or a percent sign in its name. -/
def PlainVariables (template : Template) : Prop :=
  ∀ name ∈ template.variableNames, '/' ∉ name.toList ∧ '%' ∉ name.toList

/-- Plain variables are those of plain segments. -/
theorem plainVariables_iff
    {template : Template} :
    template.PlainVariables ↔ ∀ segment ∈ template.segments, segment.Plain := by
  simp only [PlainVariables, variableNames, List.mem_filterMap,
    Segment.Plain]
  constructor
  · intro plain segment isIn name isName
    exact plain name ⟨segment, isIn, isName⟩
  · rintro plain name ⟨segment, isIn, isName⟩
    exact plain segment isIn name isName

/-! ## What is read as a segment -/

/-- What stands between braces is all but them. -/
theorem betweenBraces?_eq_some
    {element inner : List Char}
    (isBraced : betweenBraces? element = some inner) :
    element = '\x7b' :: (inner ++ ['\x7d']) := by
  unfold betweenBraces? at isBraced
  split at isBraced
  · rename_i rest
    split at isBraced
    · rename_i isClosed
      cases isBraced
      rw [List.dropLast_append_getLast? _ isClosed]
    · cases isBraced
  · cases isBraced

/-- A segment is read from one element alone, which tells what it says. -/
theorem element_of_readSegment
    {pattern element : String}
    {segment : Segment}
    (notEmpty : element ≠ "")
    (readsAs : readSegment pattern element = .ok segment) :
    element = segment.element ∧ segment.Unbraced := by
  unfold readSegment at readsAs
  split at readsAs
  · rename_i inner isBraced
    split at readsAs
    · cases readsAs
    · rename_i isName
      cases readsAs
      rw [Bool.not_eq_true, Bool.or_eq_false_iff, List.any_eq_false] at isName
      refine ⟨?_, ?_, ?_⟩
      · rw [← String.toList_inj, betweenBraces?_eq_some isBraced,
          Segment.toList_element_placeholder, String.toList_ofList]
      · intro isEmpty
        rw [String.ofList_eq_empty_iff.mp isEmpty] at isName
        cases isName.1
      · intro char isIn
        rw [Segment.text, String.toList_ofList] at isIn
        exact Bool.eq_false_iff.mpr (isName.2 char isIn)
  · split at readsAs
    · cases readsAs
    · rename_i isLiteral
      cases readsAs
      rw [Bool.not_eq_true, List.any_eq_false] at isLiteral
      exact ⟨rfl, notEmpty, fun char isIn =>
        Bool.eq_false_iff.mpr (isLiteral char isIn)⟩

/-- Elements that are read as segments are the elements of these segments. -/
theorem elements_of_readSegments
    {pattern : String}
    {elements : List String}
    {segments : List Segment}
    (eachRead :
      List.Forall₂
        (fun element segment => readSegment pattern element = .ok segment)
        elements segments)
    (notEmpty : ∀ element ∈ elements, element ≠ "") :
    elements = segments.map Segment.element ∧
      ∀ segment ∈ segments, segment.Unbraced := by
  induction eachRead with
  | nil =>
      exact ⟨rfl, fun segment isIn => absurd isIn List.not_mem_nil⟩
  | cons isRead _ inductionHypothesis =>
      obtain ⟨isElement, unbraced⟩ :=
        element_of_readSegment (notEmpty _ List.mem_cons_self) isRead
      obtain ⟨areElements, restUnbraced⟩ :=
        inductionHypothesis fun element isIn =>
          notEmpty element (List.mem_cons_of_mem _ isIn)
      refine ⟨?_, List.forall_mem_cons.mpr ⟨unbraced, restUnbraced⟩⟩
      rw [List.map_cons, ← isElement, ← areElements]

variable
  {pattern : String}
  {template shown : Template}

/-- The name of a template consists of the elements of its segments. -/
theorem elements_of_parse
    (isParsed : parse pattern = .ok template) :
    template.name.elements = template.segments.map Segment.element ∧
      ∀ segment ∈ template.segments, segment.Unbraced := by
  obtain ⟨-, areRead⟩ := parse_eq_ok_iff.mp isParsed
  obtain ⟨eachRead, -, -⟩ := readSegments_eq_ok_iff.mp areRead
  exact elements_of_readSegments eachRead template.name.elements_ne_empty

/-! ## What is displayed -/

/-- The segments of a template as they are displayed. -/
def pieces (template : Template) : List (List Char) :=
  template.segments.map fun segment => segment.display.toList

/-- A template is displayed as its pieces with slashes between them. -/
theorem toList_display
    (template : Template) :
    template.display.toList = ['/'].intercalate template.pieces := by
  rw [display, String.toList_intercalate, List.map_map]
  rfl

/-- Segments with slashes between them have none at the ends. -/
theorem bare_intercalate_display
    {segments : List Segment}
    (notNil : segments ≠ [])
    (unbraced : ∀ segment ∈ segments, segment.Unbraced) :
    Name.Bare (String.intercalate "/" (segments.map Segment.display)) := by
  induction segments with
  | nil =>
      exact absurd rfl notNil
  | cons first rest inductionHypothesis =>
      obtain ⟨firstUnbraced, restUnbraced⟩ := List.forall_mem_cons.mp unbraced
      have firstBare := Segment.bare_display firstUnbraced
      cases rest with
      | nil =>
          simpa using firstBare
      | cons second others =>
          have restBare := inductionHypothesis (List.cons_ne_nil _ _) restUnbraced
          have joined := firstBare.join restBare
          simpa using joined

/-- What displays a template is read between all slashes in it. -/
theorem forall₂_of_parse_display
    {name : Name}
    (unbraced : ∀ segment ∈ template.segments, segment.Unbraced)
    (isRead : Name.parse template.display = .ok name) :
    List.Forall₂
      (fun piece element => Name.readElement template.display piece = .ok element)
      (template.pieces.flatMap fun piece => piece.splitOn '/') name.elements := by
  rw [Name.parse_eq_ok_iff] at isRead
  by_cases isNil : template.segments = []
  · have isEmpty : template.display = "" := by
      rw [display, isNil]
      rfl
    have noElements : Name.readElements template.display = .ok [] := by
      rw [isEmpty]
      rfl
    rw [noElements, Except.ok.injEq] at isRead
    rw [pieces, isNil, ← isRead]
    exact .nil
  · have piecesNotNil : template.pieces ≠ [] := by
      simpa [pieces] using isNil
    have bare : Name.Bare template.display :=
      bare_intercalate_display isNil unbraced
    rw [bare.readElements_eq, Name.mapM_eq_ok_iff, toList_display,
      Name.splitOn_intercalate_slash piecesNotNil] at isRead
    exact isRead

/-- Displayed variables that are read as themselves have no percent signs. -/
theorem percent_not_mem_of_folds
    {path : String}
    {segments : List Segment}
    {elements : List String}
    (eachRead :
      List.Forall₂
        (fun segment element =>
          Name.readElement path segment.display.toList = .ok element)
        segments elements)
    (sameFolds :
      elements.map Text.fold =
        (segments.map Segment.element).map Text.fold) :
    ∀ segment ∈ segments, ∀ name,
      segment.name? = some name → '%' ∉ name.toList := by
  induction eachRead with
  | nil =>
      intro segment isIn
      cases isIn
  | cons isRead _ inductionHypothesis =>
      simp only [List.map_cons, List.cons.injEq] at sameFolds
      intro segment isIn name isName
      rcases List.mem_cons.mp isIn with isFirst | isLater
      · subst isFirst
        exact Segment.percent_not_mem_of_fold isName isRead sameFolds.1
      · exact inductionHypothesis sameFolds.2 segment isLater name isName

/-- What displays a template is the same name only if its variables are plain. -/
theorem plainVariables_of_same
    {name : Name}
    (isParsed : parse pattern = .ok template)
    (isRead : Name.parse template.display = .ok name)
    (isSame : template.name.same name = true) :
    template.PlainVariables := by
  obtain ⟨areElements, unbraced⟩ := elements_of_parse isParsed
  have eachRead := forall₂_of_parse_display unbraced isRead
  have sameKey : template.name.key = name.key := Name.same_iff_key.mp isSame
  rw [Name.key, Name.key, areElements] at sameKey
  have sameSize : template.pieces.length = name.elements.length := by
    have sameLength := congrArg List.length sameKey
    simpa only [pieces, List.length_map] using sameLength
  have noSlash : ∀ piece ∈ template.pieces, '/' ∉ piece := by
    refine Name.slash_not_mem_of_length_parts ?_
    exact Nat.le_of_eq (eachRead.length_eq.trans sameSize.symm)
  rw [Name.flatMap_splitOn_eq_self noSlash, pieces,
    List.forall₂_map_left_iff] at eachRead
  refine plainVariables_iff.mpr fun segment isIn called isName => ⟨?_, ?_⟩
  · have inPiece := noSlash _ (List.mem_map_of_mem isIn)
    exact Segment.slash_not_mem_display_iff.mp inPiece called isName
  · exact
      percent_not_mem_of_folds eachRead sameKey.symm segment isIn called isName

/-- A template with plain variables is displayed as one of its patterns. -/
theorem parse_display
    (isParsed : parse pattern = .ok template)
    (plain : template.PlainVariables) :
    parse template.display = .ok template := by
  obtain ⟨areElements, unbraced⟩ := elements_of_parse isParsed
  obtain ⟨-, areRead⟩ := parse_eq_ok_iff.mp isParsed
  obtain ⟨eachRead, distinct, apart⟩ := readSegments_eq_ok_iff.mp areRead
  rw [plainVariables_iff] at plain
  refine parse_eq_ok_iff.mpr
    ⟨?_, readSegments_eq_ok_iff.mpr
      ⟨eachRead.imp fun _ _ readsAs => readSegment_of_pattern readsAs _,
        distinct, apart⟩⟩
  by_cases isNil : template.segments = []
  · have isEmpty : template.display = "" := by
      rw [display, isNil]
      rfl
    rw [Name.parse_eq_ok_iff, isEmpty, areElements, isNil]
    rfl
  · have noSlash : ∀ piece ∈ template.pieces, '/' ∉ piece := by
      intro piece isPiece
      obtain ⟨segment, isIn, rfl⟩ := List.mem_map.mp isPiece
      exact Segment.slash_not_mem_display_iff.mpr fun name isName =>
        (plain segment isIn name isName).1
    have piecesNotNil : template.pieces ≠ [] := by
      simpa [pieces] using isNil
    have bare : Name.Bare template.display :=
      bare_intercalate_display isNil unbraced
    rw [Name.parse_eq_ok_iff, bare.readElements_eq, toList_display,
      Name.splitOn_intercalate_slash piecesNotNil,
      Name.flatMap_splitOn_eq_self noSlash, Name.mapM_eq_ok_iff, areElements,
      pieces, List.forall₂_map_left_iff, List.forall₂_map_right_iff,
      List.forall₂_same]
    intro segment isIn
    exact Segment.readElement_display (unbraced segment isIn) (plain segment isIn) _

/-- Templates of the same segments are the same as names. -/
theorem same_of_segments
    {other : String}
    (isParsed : parse pattern = .ok template)
    (isShown : parse other = .ok shown)
    (sameSegments : shown.segments = template.segments) :
    template.name.same shown.name = true := by
  rw [Name.same_iff_key, Name.key, Name.key, (elements_of_parse isParsed).1,
    (elements_of_parse isShown).1, sameSegments]

/-- A template is displayed as a pattern of its segments iff they are plain. -/
theorem exists_parse_display_iff
    (isParsed : parse pattern = .ok template) :
    (∃ shown,
        parse template.display = .ok shown ∧
          shown.segments = template.segments) ↔
      template.PlainVariables := by
  constructor
  · rintro ⟨shown, isShown, sameSegments⟩
    exact
      plainVariables_of_same isParsed (parse_eq_ok_iff.mp isShown).1
        (same_of_segments isParsed isShown sameSegments)
  · intro plain
    exact ⟨template, parse_display isParsed plain, rfl⟩

end Template

namespace Table

variable {α : Type u}

/-- Every route of the table has been read from a pattern. -/
def Parsed (table : Table α) : Prop :=
  ∀ binding ∈ table.bindings, ∃ pattern,
    Template.parse pattern = .ok binding.matcher.template

namespace Parsed

variable {table : Table α}

theorem filter
    (parsed : table.Parsed)
    (keeps : Binding α → Bool) :
    ({ table with bindings := table.bindings.filter keeps } :
      Table α).Parsed :=
  fun binding isIn => parsed binding (List.mem_filter.mp isIn).1

/-- Adding a parsed route keeps a table of parsed routes. -/
theorem insert
    (parsed : table.Parsed)
    {mode : Mode}
    {pattern : String}
    {matcher : Matcher}
    (isParsed : Matcher.parse mode pattern = .ok matcher)
    (target : α) :
    (table.insert matcher target).Parsed := by
  intro binding isIn
  rcases List.mem_append.mp isIn with isOld | isNew
  · exact parsed binding isOld
  · cases List.mem_singleton.mp isNew
    obtain ⟨template, isTemplate, rfl⟩ := Name.map_eq_ok_iff.mp isParsed
    exact ⟨pattern, isTemplate⟩

/-- Every edit keeps a table of parsed routes. -/
theorem edit
    (parsed : table.Parsed)
    (change : Edit α) :
    (table.edit change).Parsed := by
  cases change with
  | add mode pattern target =>
      rcases table.add_cases mode pattern target with
        ⟨-, isSame, -⟩ | ⟨matcher, isParsed, -, isInserted, -⟩
      · rw [isSame]
        exact parsed
      · rw [isInserted]
        exact parsed.insert isParsed target
  | remove pattern =>
      unfold Table.edit
      dsimp only
      split
      · exact parsed.filter _
      · exact parsed
  | removeId id =>
      exact parsed.filter _
  | setFallback target =>
      exact parsed
  | clearFallback =>
      exact parsed

/-- Along every sequence of edits all routes have been read from patterns. -/
theorem after
    (edits : List (Edit α)) :
    (Table.after edits).Parsed := by
  have invariant :
      ∀ (table : Table α),
        table.Parsed → (edits.foldl Table.edit table).Parsed := by
    induction edits with
    | nil =>
        exact fun _ parsed => parsed
    | cons change rest inductionHypothesis =>
        exact fun table parsed =>
          inductionHypothesis (table.edit change) (parsed.edit change)
  refine invariant Table.empty ?_
  intro binding isIn
  cases isIn

end Parsed

/-- A route is removed by the text that displays it iff its variables are plain. -/
theorem unregister_display_iff
    {table : Table α}
    (parsed : table.Parsed)
    {binding : Binding α}
    (isRoute : binding ∈ table.bindings) :
    (∃ count kept,
        table.unregister binding.matcher.template.display =
            .ok (count, kept) ∧
          binding ∉ kept.bindings) ↔
      binding.matcher.template.PlainVariables := by
  obtain ⟨pattern, isParsed⟩ := parsed binding isRoute
  constructor
  · rintro ⟨count, kept, isRemoved, isGone⟩
    obtain ⟨name, isRead, -, leavesOut, -⟩ := unregister_eq_ok isRemoved
    have isSame : binding.matcher.template.name.same name = true := by
      by_contra isOther
      exact isGone
        ((leavesOut.mem_iff binding).mpr
          ⟨isRoute, Bool.eq_false_iff.mpr isOther⟩)
    exact Template.plainVariables_of_same isParsed isRead isSame
  · intro plain
    have isShown := Template.parse_display isParsed plain
    cases isRemoved :
        table.unregister binding.matcher.template.display with
    | error fault =>
        cases isShown.symm.trans (unregister_eq_error isRemoved).1
    | ok removed =>
        obtain ⟨count, kept⟩ := removed
        obtain ⟨name, isRead, -, leavesOut, -⟩ := unregister_eq_ok isRemoved
        have isOwn := (Template.parse_eq_ok_iff.mp isShown).1
        cases isOwn.symm.trans isRead
        refine ⟨count, kept, rfl, ?_⟩
        intro isKept
        have isOther := ((leavesOut.mem_iff binding).mp isKept).2
        rw [isOf, Name.same, beq_self_eq_true] at isOther
        cases isOther

/--
The text that displays a template reads as a template of the same segments, and
the text that displays a route of a table removes it from the table, if and only
if no variable of the template has a slash or a percent sign in its name.
-/
theorem displayed_patterns_read_back_iff :
    (∀ pattern template,
      Template.parse pattern = .ok template →
        ((∃ shown,
            Template.parse template.display = .ok shown ∧
              shown.segments = template.segments) ↔
          template.PlainVariables)) ∧
      ∀ (edits : List (Edit α)), ∀ binding ∈ (after edits).bindings,
        (∃ count kept,
            (after edits).unregister binding.matcher.template.display =
                .ok (count, kept) ∧
              binding ∉ kept.bindings) ↔
          binding.matcher.template.PlainVariables :=
  ⟨fun _ _ isParsed => Template.exists_parse_display_iff isParsed,
    fun edits _ isRoute => unregister_display_iff (Parsed.after edits) isRoute⟩

/-- A variable may have a space in its name, and a literal may have one too. -/
theorem displayed_patterns_read_back_iff_of_spaces :
    let pattern := "my%20users/\x7buser id\x7d"
    let template : Template :=
      ⟨⟨["my users", "\x7buser id\x7d"], by decide⟩,
        [.literal "my users", .placeholder "user id"]⟩
    let edits : List (Edit Nat) := [.add .startsWith pattern 0]
    let binding : Binding Nat := ⟨1, ⟨.startsWith, template⟩, 0⟩
    Template.parse pattern = .ok template ∧
      binding ∈ (after edits).bindings ∧
      (∃ shown,
        Template.parse template.display = .ok shown ∧
          shown.segments = template.segments) ∧
      ∃ count kept,
        (after edits).unregister template.display = .ok (count, kept) ∧
          binding ∉ kept.bindings := by
  intro pattern template edits binding
  have isParsed : Template.parse pattern = .ok template := by
    decide +kernel
  have isAdded :
      (empty : Table Nat).add .startsWith pattern 0 =
        .ok (empty.insert binding.matcher 0) := by
    rw [add, Matcher.parse, isParsed]
    rfl
  have isRoute : binding ∈ (after edits).bindings := by
    show binding ∈ ((empty : Table Nat).edit (.add .startsWith pattern 0)).bindings
    simp only [edit, isAdded]
    exact List.mem_singleton_self binding
  have plain : template.PlainVariables := by
    unfold Template.PlainVariables
    decide
  obtain ⟨readsBack, removes⟩ := displayed_patterns_read_back_iff (α := Nat)
  exact
    ⟨isParsed, isRoute, (readsBack pattern template isParsed).mpr plain,
      (removes edits binding isRoute).mpr plain⟩

/-- A slash in the name of a variable is displayed as one that divides names. -/
theorem slash_divides_variable :
    let template : Template :=
      ⟨⟨["\x7ba/b\x7d"], by decide⟩, [.placeholder "a/b"]⟩
    let table : Table Nat := after [.add .equals "\x7ba%2Fb\x7d" 0]
    Template.parse "\x7ba%2Fb\x7d" = .ok template ∧
      table.bindings.map (·.matcher.template) = [template] ∧
      Template.parse template.display = .error (.partialElement "\x7ba/b\x7d") ∧
      table.edit (.remove template.display) = table := by
  intro template table
  have isRefused :
      Template.parse template.display =
        .error (.partialElement "\x7ba/b\x7d") := by
    decide +kernel
  refine ⟨by decide +kernel, by decide +kernel, isRefused, ?_⟩
  simp only [edit, isRefused]

/-- An escape in the name of a variable is displayed as another variable. -/
example :
    let template : Template :=
      ⟨⟨["\x7ba%41\x7d"], by decide⟩, [.placeholder "a%41"]⟩
    Template.parse "\x7ba%2541\x7d" = .ok template ∧
      Template.parse template.display =
        .ok ⟨⟨["\x7baA\x7d"], by decide⟩, [.placeholder "aA"]⟩ := by
  decide +kernel

end Table

end ResourceServer
