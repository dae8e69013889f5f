import Mathlib.Data.List.Chain
import ResourceServer.Proofs.Name.RawElement

namespace ResourceServer.Name

/-!
# The grammar of paths

A path is nothing, a single slash, or segments with one slash between
neighbours and at most one at either end; no segment is empty. These are the
texts in which no slash follows another. Such a path names the resource whose
elements the segments encode, and every other text is malformed.
-/

/-- What may stand at either end of a path. -/
def OptionalSlash (chars : List Char) : Prop :=
  chars = [] ∨ chars = ['/']

/-- Segments make up a path, with single slashes between them. -/
structure Segmented
    (path : List Char)
    (segments : List (List Char)) : Prop where
  isPath :
    ∃ lead trail,
      OptionalSlash lead ∧
        OptionalSlash trail ∧
        path = lead ++ ['/'].intercalate segments ++ trail
  notNil : segments ≠ []
  nonempty : ∀ segment ∈ segments, segment ≠ []
  noSlash : ∀ segment ∈ segments, '/' ∉ segment

/-- Somewhere in the path a slash follows another. -/
def DoubledSlash (path : List Char) : Prop :=
  ∃ front back, path = front ++ '/' :: '/' :: back

/-- The segments of a path encode these elements. -/
def Encode
    (segments : List (List Char))
    (elements : List String) : Prop :=
  List.Forall₂
    (fun segment element =>
      Text.Percent.decode (String.ofList segment) = .ok element)
    segments elements

/-! ## Slashes at the ends -/

/-- What is stripped from a path is at most one slash at either end. -/
theorem exists_of_stripSlashes
    (path : List Char) :
    ∃ lead trail,
      OptionalSlash lead ∧
        OptionalSlash trail ∧
        path = lead ++ stripSlashes path ++ trail := by
  have atEnd :
      ∀ rest : List Char,
        ∃ trail,
          OptionalSlash trail ∧
            rest =
              (if rest.getLast? = some '/' then rest.dropLast else rest) ++
                trail := by
    intro rest
    by_cases endsWithSlash : rest.getLast? = some '/'
    · refine ⟨['/'], .inr rfl, ?_⟩
      rw [if_pos endsWithSlash,
        List.dropLast_append_getLast? '/' endsWithSlash]
    · exact ⟨[], .inl rfl, by rw [if_neg endsWithSlash, List.append_nil]⟩
  unfold stripSlashes
  dsimp only
  split
  · rename_i rest
    obtain ⟨trail, isTrail, isRest⟩ := atEnd rest
    exact ⟨['/'], trail, .inr rfl, isTrail, congrArg (List.cons '/') isRest⟩
  · obtain ⟨trail, isTrail, isRest⟩ := atEnd path
    exact ⟨[], trail, .inl rfl, isTrail, isRest⟩

/-- Optional slashes around a core that has none at its ends are stripped. -/
theorem stripSlashes_between
    {lead core trail : List Char}
    (isLead : OptionalSlash lead)
    (isTrail : OptionalSlash trail)
    (notNil : core ≠ [])
    (noStart : core.head? ≠ some '/')
    (noEnd : core.getLast? ≠ some '/') :
    stripSlashes (lead ++ core ++ trail) = core := by
  have withoutTrail :
      (if (core ++ trail).getLast? = some '/' then
          (core ++ trail).dropLast
        else
          core ++ trail) =
        core := by
    rcases isTrail with rfl | rfl
    · rw [List.append_nil, if_neg noEnd]
    · rw [List.getLast?_concat, if_pos rfl, List.dropLast_concat]
  rcases isLead with rfl | rfl
  · rw [List.nil_append]
    unfold stripSlashes
    dsimp only
    split
    · rename_i rest isSlash
      cases core with
      | nil =>
          exact absurd rfl notNil
      | cons char core =>
          rw [List.cons_append, List.cons.injEq] at isSlash
          exact absurd (congrArg some isSlash.1) noStart
    · exact withoutTrail
  · exact withoutTrail

/-- A path of segments is read segment by segment. -/
theorem Segmented.readElements_eq
    {path : String}
    {segments : List (List Char)}
    (segmented : Segmented path.toList segments) :
    readElements path = segments.mapM (readElement path) := by
  obtain ⟨⟨lead, trail, isLead, isTrail, isPath⟩, notNil, nonempty, noSlash⟩ :=
    segmented
  have coreNotNil : ['/'].intercalate segments ≠ [] :=
    intercalate_ne_nil notNil nonempty
  refine readElements_of_stripped ?_ notNil nonempty noSlash
  rw [isPath]
  exact
    stripSlashes_between isLead isTrail coreNotNil
      (head?_intercalate_ne nonempty noSlash)
      (getLast?_intercalate_ne nonempty noSlash)

/-! ## Elements -/

/-- A raw element can be read exactly when it is not empty and can be decoded. -/
theorem readElement_eq_ok_iff
    {path : String}
    {raw : List Char}
    {element : String} :
    readElement path raw = .ok element ↔
      raw ≠ [] ∧ Text.Percent.decode (String.ofList raw) = .ok element := by
  constructor
  · intro readsAs
    refine ⟨?_, readElement_eq_ok readsAs⟩
    rintro rfl
    cases readsAs
  · rintro ⟨notNil, decodes⟩
    rw [readElement, if_neg notNil, decodes]

/-- Segments are read as the elements that they encode, if none is empty. -/
theorem forall₂_readElement_iff
    {path : String}
    {segments : List (List Char)}
    {elements : List String} :
    List.Forall₂ (fun segment element => readElement path segment = .ok element)
        segments elements ↔
      (∀ segment ∈ segments, segment ≠ []) ∧ Encode segments elements := by
  simp only [readElement_eq_ok_iff, Encode]
  exact List.forall₂_and_left segments elements

/-- A segmented path is read by decoding each of its segments. -/
theorem Segmented.readElements_eq_ok_iff
    {path : String}
    {segments : List (List Char)}
    {elements : List String}
    (segmented : Segmented path.toList segments) :
    readElements path = .ok elements ↔ Encode segments elements := by
  rw [segmented.readElements_eq, mapM_eq_ok_iff, forall₂_readElement_iff]
  exact and_iff_right segmented.nonempty

/-- A path of segments is refused for a segment that cannot be decoded. -/
theorem Segmented.exists_error_iff
    {path : String}
    {segments : List (List Char)}
    (segmented : Segmented path.toList segments) :
    (∃ fault, readElements path = .error fault) ↔
      ∃ segment ∈ segments, ∃ fault,
        Text.Percent.decode (String.ofList segment) = .error fault := by
  rw [segmented.readElements_eq, exists_mapM_eq_error_iff]
  refine exists_congr fun segment => and_congr_right fun isIn => ?_
  rw [readElement, if_neg (segmented.nonempty segment isIn)]
  cases Text.Percent.decode (String.ofList segment) <;> simp

/-- A path is refused as a name exactly when its elements cannot be read. -/
theorem exists_parse_eq_error_iff_readElements
    {path : String} :
    (∃ fault, parse path = .error fault) ↔
      ∃ fault, readElements path = .error fault := by
  unfold parse
  cases readsAs : readElements path with
  | error fault =>
      exact ⟨fun _ => ⟨fault, rfl⟩, fun _ => ⟨fault, rfl⟩⟩
  | ok elements =>
      have nonempty := readElements_ne_empty readsAs
      simp only [ofElements, dif_pos nonempty, reduceCtorEq, exists_false]

theorem slash_not_mem_of_mem_splitOn
    {core segment : List Char}
    (isSegment : segment ∈ core.splitOn '/') :
    '/' ∉ segment := by
  induction core generalizing segment with
  | nil =>
      rw [List.splitOn_nil, List.mem_singleton] at isSegment
      subst isSegment
      exact List.not_mem_nil
  | cons char core inductionHypothesis =>
      rw [List.splitOn_cons_eq_if_modifyHead] at isSegment
      split at isSegment
      · rcases List.mem_cons.mp isSegment with rfl | isLater
        · exact List.not_mem_nil
        · exact inductionHypothesis isLater
      · rename_i notSlash
        cases split : core.splitOn '/' with
        | nil =>
            exact absurd split (List.splitOn_ne_nil '/' core)
        | cons first rest =>
            rw [split] at isSegment inductionHypothesis
            rcases List.mem_cons.mp isSegment with rfl | isLater
            · rw [List.mem_cons, not_or]
              refine ⟨?_, inductionHypothesis List.mem_cons_self⟩
              rintro rfl
              exact notSlash (beq_self_eq_true '/')
            · exact inductionHypothesis (List.mem_cons_of_mem _ isLater)

/-- A path is read as elements only if it consists of segments. -/
theorem exists_segmented_of_readElements
    {path : String}
    {elements : List String}
    (readsAs : readElements path = .ok elements) :
    (path = "" ∨ path = "/") ∧ elements = [] ∨
      ∃ segments, Segmented path.toList segments := by
  obtain ⟨lead, trail, isLead, isTrail, isPath⟩ :=
    exists_of_stripSlashes path.toList
  unfold readElements at readsAs
  split at readsAs
  · rename_i isNil
    split at readsAs
    · cases readsAs
    · rename_i isShort
      cases readsAs
      left
      rw [isNil, List.append_nil] at isPath
      have isText : path = String.ofList (lead ++ trail) := by
        rw [← isPath, String.ofList_toList]
      rcases isLead with rfl | rfl
      · rcases isTrail with rfl | rfl
        · exact ⟨.inl isText, rfl⟩
        · exact ⟨.inr isText, rfl⟩
      · rcases isTrail with rfl | rfl
        · exact ⟨.inr isText, rfl⟩
        · exact absurd (by rw [isText]; decide) isShort
  · right
    rw [mapM_eq_ok_iff, forall₂_readElement_iff] at readsAs
    refine ⟨(stripSlashes path.toList).splitOn '/', ?_, ?_, readsAs.1, ?_⟩
    · exact
        ⟨lead, trail, isLead, isTrail,
          isPath.trans (by rw [List.intercalate_splitOn '/'])⟩
    · exact List.splitOn_ne_nil '/' _
    · exact fun segment isSegment => slash_not_mem_of_mem_splitOn isSegment

/-! ## Slashes behind slashes -/

/-- A path has no doubled slash exactly when no slash follows another. -/
theorem not_doubledSlash_iff
    {path : List Char} :
    ¬ DoubledSlash path ↔
      path.IsChain fun left right => left = '/' → right ≠ '/' := by
  rw [List.isChain_iff_forall_rel_of_append_cons_cons]
  constructor
  · rintro single left right front back rfl rfl rfl
    exact single ⟨front, back, rfl⟩
  · rintro apart ⟨front, back, isPath⟩
    exact apart isPath rfl rfl

theorem length_of_doubledSlash
    {path : List Char}
    (doubled : DoubledSlash path) :
    2 ≤ path.length := by
  obtain ⟨front, back, rfl⟩ := doubled
  simp only [List.length_append, List.length_cons]
  omega

theorem not_doubledSlash_of_not_mem
    {chars : List Char}
    (noSlash : '/' ∉ chars) :
    ¬ DoubledSlash chars := by
  rintro ⟨front, back, rfl⟩
  exact noSlash (List.mem_append_right front List.mem_cons_self)

/-- A slash between texts without doubled slashes doubles none at their ends. -/
theorem not_doubledSlash_append_slash_iff
    {front back : List Char} :
    ¬ DoubledSlash (front ++ '/' :: back) ↔
      ¬ DoubledSlash front ∧
        ¬ DoubledSlash back ∧
        front.getLast? ≠ some '/' ∧
        back.head? ≠ some '/' := by
  simp only [not_doubledSlash_iff, List.isChain_append, List.isChain_cons,
    List.head?_cons, Option.mem_some_iff, forall_eq']
  constructor
  · rintro ⟨frontChain, ⟨restApart, backChain⟩, frontApart⟩
    refine ⟨frontChain, backChain, ?_, ?_⟩
    · intro isEnd
      exact frontApart '/' isEnd rfl rfl
    · intro isStart
      exact restApart '/' isStart trivial rfl
  · rintro ⟨frontChain, backChain, noEnd, noStart⟩
    refine ⟨frontChain, ⟨?_, backChain⟩, ?_⟩
    · rintro char isStart - rfl
      exact noStart isStart
    · rintro char isEnd rfl -
      exact noEnd isEnd

/-- Segments with single slashes between them have no doubled slash. -/
theorem not_doubledSlash_intercalate
    {segments : List (List Char)}
    (nonempty : ∀ segment ∈ segments, segment ≠ [])
    (noSlash : ∀ segment ∈ segments, '/' ∉ segment) :
    ¬ DoubledSlash (['/'].intercalate segments) := by
  induction segments with
  | nil =>
      exact not_doubledSlash_of_not_mem List.not_mem_nil
  | cons first rest inductionHypothesis =>
      obtain ⟨firstNoSlash, restNoSlash⟩ := List.forall_mem_cons.mp noSlash
      obtain ⟨-, restNonempty⟩ := List.forall_mem_cons.mp nonempty
      by_cases isLast : rest = []
      · subst isLast
        rw [List.intercalate_singleton]
        exact not_doubledSlash_of_not_mem firstNoSlash
      · rw [List.intercalate_cons_of_ne_nil isLast, List.append_assoc,
          List.singleton_append, not_doubledSlash_append_slash_iff]
        exact
          ⟨not_doubledSlash_of_not_mem firstNoSlash,
            inductionHypothesis restNonempty restNoSlash,
            fun isEnd => firstNoSlash (List.mem_of_getLast? isEnd),
            head?_intercalate_ne restNonempty restNoSlash⟩

/-- A path that consists of segments has no doubled slash. -/
theorem Segmented.not_doubledSlash
    {path : List Char}
    {segments : List (List Char)}
    (segmented : Segmented path segments) :
    ¬ DoubledSlash path := by
  obtain ⟨⟨lead, trail, isLead, isTrail, rfl⟩, notNil, nonempty, noSlash⟩ :=
    segmented
  have core := not_doubledSlash_intercalate nonempty noSlash
  have noStart := head?_intercalate_ne nonempty noSlash
  have noEnd := getLast?_intercalate_ne nonempty noSlash
  have coreNotNil : ['/'].intercalate segments ≠ [] :=
    intercalate_ne_nil notNil nonempty
  have withTrail :
      ¬ DoubledSlash (['/'].intercalate segments ++ trail) ∧
        (['/'].intercalate segments ++ trail).head? ≠ some '/' := by
    rcases isTrail with rfl | rfl
    · rw [List.append_nil]
      exact ⟨core, noStart⟩
    · constructor
      · rw [not_doubledSlash_append_slash_iff]
        exact
          ⟨core, not_doubledSlash_of_not_mem List.not_mem_nil, noEnd, by simp⟩
      · rwa [List.head?_append_of_ne_nil _ coreNotNil]
  rw [List.append_assoc]
  rcases isLead with rfl | rfl
  · exact withTrail.1
  · show ¬ DoubledSlash ([] ++ '/' :: (['/'].intercalate segments ++ trail))
    rw [not_doubledSlash_append_slash_iff]
    exact
      ⟨not_doubledSlash_of_not_mem List.not_mem_nil, withTrail.1, by simp,
        withTrail.2⟩

/-- What is cut at single slashes, none of them at the ends, is not empty. -/
theorem nonempty_of_intercalate
    {segments : List (List Char)}
    (single : ¬ DoubledSlash (['/'].intercalate segments))
    (notNil : ['/'].intercalate segments ≠ [])
    (noStart : (['/'].intercalate segments).head? ≠ some '/')
    (noEnd : (['/'].intercalate segments).getLast? ≠ some '/') :
    ∀ segment ∈ segments, segment ≠ [] := by
  induction segments with
  | nil =>
      intro segment isIn
      cases isIn
  | cons first rest inductionHypothesis =>
      by_cases isLast : rest = []
      · subst isLast
        rw [List.intercalate_singleton] at notNil
        intro segment isIn
        rwa [List.mem_singleton.mp isIn]
      · rw [List.intercalate_cons_of_ne_nil isLast, List.append_assoc,
          List.singleton_append] at single noStart noEnd
        obtain ⟨-, restSingle, -, restNoStart⟩ :=
          not_doubledSlash_append_slash_iff.mp single
        have restNotNil : ['/'].intercalate rest ≠ [] := by
          intro isNil
          rw [isNil, List.getLast?_concat] at noEnd
          exact noEnd rfl
        rw [List.getLast?_append_of_ne_nil _ (List.cons_ne_nil _ _),
          List.getLast?_cons_of_ne_nil restNotNil] at noEnd
        refine List.forall_mem_cons.mpr ⟨?_, ?_⟩
        · rintro rfl
          exact noStart rfl
        · exact inductionHypothesis restSingle restNotNil restNoStart noEnd

/-- A path without a doubled slash goes on behind a slash at its start. -/
theorem exists_behind_lead
    {path : List Char}
    (single : ¬ DoubledSlash path)
    (notNil : path ≠ [])
    (notSlash : path ≠ ['/']) :
    ∃ lead rest,
      OptionalSlash lead ∧
        path = lead ++ rest ∧
        rest ≠ [] ∧
        rest.head? ≠ some '/' ∧
        ¬ DoubledSlash rest := by
  by_cases startsWithSlash : path.head? = some '/'
  · obtain ⟨rest, rfl⟩ := List.head?_eq_some_iff.mp startsWithSlash
    have behindNothing : ¬ DoubledSlash ([] ++ '/' :: rest) := single
    obtain ⟨-, restSingle, -, noStart⟩ :=
      not_doubledSlash_append_slash_iff.mp behindNothing
    refine ⟨['/'], rest, .inr rfl, rfl, ?_, noStart, restSingle⟩
    rintro rfl
    exact notSlash rfl
  · exact ⟨[], path, .inl rfl, rfl, notNil, startsWithSlash, single⟩

/-- And it is something before a slash at its end. -/
theorem exists_before_trail
    {path : List Char}
    (single : ¬ DoubledSlash path)
    (notNil : path ≠ [])
    (noStart : path.head? ≠ some '/') :
    ∃ core trail,
      OptionalSlash trail ∧
        path = core ++ trail ∧
        core ≠ [] ∧
        core.head? ≠ some '/' ∧
        core.getLast? ≠ some '/' ∧
        ¬ DoubledSlash core := by
  by_cases endsWithSlash : path.getLast? = some '/'
  · obtain ⟨core, rfl⟩ := List.getLast?_eq_some_iff.mp endsWithSlash
    obtain ⟨coreSingle, -, noEnd, -⟩ :=
      not_doubledSlash_append_slash_iff.mp single
    have coreNotNil : core ≠ [] := by
      rintro rfl
      exact noStart rfl
    rw [List.head?_append_of_ne_nil _ coreNotNil] at noStart
    exact
      ⟨core, ['/'], .inr rfl, rfl, coreNotNil, noStart, noEnd, coreSingle⟩
  · exact
      ⟨path, [], .inl rfl, (List.append_nil path).symm, notNil, noStart,
        endsWithSlash, single⟩

/-- Every path without a doubled slash consists of segments, but for two paths. -/
theorem exists_segmented
    {path : List Char}
    (single : ¬ DoubledSlash path)
    (notNil : path ≠ [])
    (notSlash : path ≠ ['/']) :
    ∃ segments, Segmented path segments := by
  obtain ⟨lead, rest, isLead, rfl, restNotNil, noRestStart, restSingle⟩ :=
    exists_behind_lead single notNil notSlash
  obtain ⟨core, trail, isTrail, rfl, coreNotNil, noStart, noEnd, coreSingle⟩ :=
    exists_before_trail restSingle restNotNil noRestStart
  have isCore : ['/'].intercalate (core.splitOn '/') = core :=
    List.intercalate_splitOn '/'
  refine ⟨core.splitOn '/', ?_, List.splitOn_ne_nil '/' core, ?_, ?_⟩
  · refine ⟨lead, trail, isLead, isTrail, ?_⟩
    rw [isCore, List.append_assoc]
  · apply nonempty_of_intercalate <;> rwa [isCore]
  · exact fun segment isSegment => slash_not_mem_of_mem_splitOn isSegment

/-! ## Paths joined by a slash -/

/-- The path is not empty and has no slash at either end. -/
structure Bare (path : String) : Prop where
  notEmpty : path ≠ ""
  noStart : path.toList.head? ≠ some '/'
  noEnd : path.toList.getLast? ≠ some '/'

namespace Bare

variable {front back : String}

theorem toList_ne_nil
    {path : String}
    (bare : Bare path) :
    path.toList ≠ [] := by
  intro isNil
  exact bare.notEmpty (String.toList_eq_nil_iff.mp isNil)

theorem toList_join
    (front back : String) :
    (front ++ "/" ++ back).toList = front.toList ++ '/' :: back.toList := by
  rw [String.toList_append, String.toList_append, List.append_assoc]
  rfl

/-- Two bare paths are joined to a bare path. -/
theorem join
    (frontBare : Bare front)
    (backBare : Bare back) :
    Bare (front ++ "/" ++ back) where
  notEmpty := by
    intro isEmpty
    have isNil := String.toList_eq_nil_iff.mpr isEmpty
    rw [toList_join, List.append_eq_nil_iff] at isNil
    exact frontBare.toList_ne_nil isNil.1
  noStart := by
    rw [toList_join, List.head?_append_of_ne_nil _ frontBare.toList_ne_nil]
    exact frontBare.noStart
  noEnd := by
    rw [toList_join, List.getLast?_append_of_ne_nil _ (List.cons_ne_nil _ _),
      List.getLast?_cons_of_ne_nil backBare.toList_ne_nil]
    exact backBare.noEnd

/-- A path without slashes at its ends is read between its slashes. -/
theorem readElements_eq
    {path : String}
    (bare : Bare path) :
    readElements path =
      (path.toList.splitOn '/').mapM (readElement path) := by
  unfold readElements
  rw [stripSlashes_eq_self bare.noStart bare.noEnd]
  split
  · rename_i isNil
    exact absurd isNil bare.toList_ne_nil
  · rfl

end Bare

/-- A bare path is a name exactly when each part between slashes encodes an element. -/
theorem Bare.parse_eq_ok_iff
    {path : String}
    {name : Name}
    (bare : Bare path) :
    parse path = .ok name ↔
      (∀ segment ∈ path.toList.splitOn '/', segment ≠ []) ∧
        Encode (path.toList.splitOn '/') name.elements := by
  rw [Name.parse_eq_ok_iff, bare.readElements_eq, mapM_eq_ok_iff,
    forall₂_readElement_iff]

/-- Segments in a row encode the elements of both parts, in order. -/
theorem encode_append_iff
    {front back : List (List Char)}
    {elements : List String} :
    Encode (front ++ back) elements ↔
      ∃ lefts rights,
        Encode front lefts ∧
          Encode back rights ∧
          elements = lefts ++ rights := by
  constructor
  · intro encoded
    have flipped := List.Forall₂.flip encoded
    have lefts := List.forall₂_take_append _ _ _ flipped
    have rights := List.forall₂_drop_append _ _ _ flipped
    exact
      ⟨elements.take front.length, elements.drop front.length, lefts.flip,
        rights.flip, (List.take_append_drop _ _).symm⟩
  · rintro ⟨lefts, rights, leftEncoded, rightEncoded, rfl⟩
    exact List.rel_append leftEncoded rightEncoded

/--
Two paths with a slash between them are read as a name exactly if both are read,
and then as the elements of the one and those of the other.
-/
theorem parse_join_eq_ok_iff
    {front back : String}
    {name : Name}
    (frontBare : Bare front)
    (backBare : Bare back) :
    parse (front ++ "/" ++ back) = .ok name ↔
      ∃ left right,
        parse front = .ok left ∧
          parse back = .ok right ∧
          name = left ++ right := by
  rw [(frontBare.join backBare).parse_eq_ok_iff, Bare.toList_join,
    splitOn_append_slash, List.forall_mem_append, encode_append_iff]
  constructor
  · rintro ⟨⟨frontNonempty, backNonempty⟩, lefts, rights, leftEncoded,
      rightEncoded, isName⟩
    have partNonempty :
        ∀ element ∈ lefts ++ rights, element ≠ "" := by
      rw [← isName]
      exact name.elements_ne_empty
    rw [List.forall_mem_append] at partNonempty
    refine ⟨⟨lefts, partNonempty.1⟩, ⟨rights, partNonempty.2⟩, ?_, ?_, ?_⟩
    · exact frontBare.parse_eq_ok_iff.mpr ⟨frontNonempty, leftEncoded⟩
    · exact backBare.parse_eq_ok_iff.mpr ⟨backNonempty, rightEncoded⟩
    · cases name
      cases isName
      rfl
  · rintro ⟨left, right, frontReads, backReads, rfl⟩
    obtain ⟨frontNonempty, leftEncoded⟩ :=
      frontBare.parse_eq_ok_iff.mp frontReads
    obtain ⟨backNonempty, rightEncoded⟩ :=
      backBare.parse_eq_ok_iff.mp backReads
    exact
      ⟨⟨frontNonempty, backNonempty⟩, left.elements, right.elements,
        leftEncoded, rightEncoded, rfl⟩

/-! ## Paths and names -/

/-- A path is a name when it is the root's, or when its segments encode the elements. -/
theorem parse_eq_ok_iff_segments
    {path : String}
    {name : Name} :
    parse path = .ok name ↔
      (path = "" ∨ path = "/") ∧ name.elements = [] ∨
        ∃ segments,
          Segmented path.toList segments ∧ Encode segments name.elements := by
  rw [parse_eq_ok_iff]
  constructor
  · intro readsAs
    rcases exists_segmented_of_readElements readsAs with
      isPlain | ⟨segments, segmented⟩
    · exact .inl isPlain
    · exact
        .inr
          ⟨segments, segmented, segmented.readElements_eq_ok_iff.mp readsAs⟩
  · rintro (⟨rfl | rfl, isNil⟩ | ⟨segments, segmented, encoded⟩)
    · rw [isNil]
      rfl
    · rw [isNil]
      rfl
    · exact segmented.readElements_eq_ok_iff.mpr encoded

/-- A path is refused for a doubled slash or a segment that cannot be decoded. -/
theorem exists_parse_eq_error_iff
    {path : String} :
    (∃ fault, parse path = .error fault) ↔
      DoubledSlash path.toList ∨
        ∃ segments,
          Segmented path.toList segments ∧
            ∃ segment ∈ segments, ∃ fault,
              Text.Percent.decode (String.ofList segment) = .error fault := by
  rw [exists_parse_eq_error_iff_readElements]
  constructor
  · rintro ⟨fault, isRefused⟩
    by_cases doubled : DoubledSlash path.toList
    · exact .inl doubled
    · have notNil : path.toList ≠ [] := by
        intro isNil
        rw [String.toList_eq_nil_iff.mp isNil] at isRefused
        cases isRefused
      have notSlash : path.toList ≠ ['/'] := by
        intro isSlash
        have isText : path = "/" := String.toList_inj.mp isSlash
        rw [isText] at isRefused
        cases isRefused
      obtain ⟨segments, segmented⟩ :=
        exists_segmented doubled notNil notSlash
      exact
        .inr
          ⟨segments, segmented,
            segmented.exists_error_iff.mp ⟨fault, isRefused⟩⟩
  · rintro (doubled | ⟨segments, segmented, isFaulty⟩)
    · cases readsAs : readElements path with
      | error fault =>
          exact ⟨fault, rfl⟩
      | ok elements =>
          exfalso
          rcases exists_segmented_of_readElements readsAs with
            ⟨rfl | rfl, -⟩ | ⟨segments, segmented⟩
          · exact absurd (length_of_doubledSlash doubled) (by decide)
          · exact absurd (length_of_doubledSlash doubled) (by decide)
          · exact segmented.not_doubledSlash doubled
    · exact segmented.exists_error_iff.mpr isFaulty

/--
A path is read as a name exactly if it is empty, a single slash, or made up of
segments that can all be decoded, with single slashes between them and at most
one at either end; the elements are then the decoded segments. It is malformed
exactly if a slash follows another or a segment cannot be decoded. So reading two
paths with a slash between them is reading both.
-/
theorem reads_path_grammar :
    (∀ path name,
      parse path = .ok name ↔
        (path = "" ∨ path = "/") ∧ name.elements = [] ∨
          ∃ segments,
            Segmented path.toList segments ∧
              Encode segments name.elements) ∧
      (∀ path,
        (∃ fault,
          parse path = .error fault ∧
            fault.failure = .malformedName fault.message) ↔
          DoubledSlash path.toList ∨
            ∃ segments,
              Segmented path.toList segments ∧
                ∃ segment ∈ segments, ∃ fault,
                  Text.Percent.decode (String.ofList segment) =
                    .error fault) ∧
      ∀ front back,
        Bare front →
          Bare back →
            ∀ name,
              parse (front ++ "/" ++ back) = .ok name ↔
                ∃ left right,
                  parse front = .ok left ∧
                    parse back = .ok right ∧
                    name = left ++ right := by
  refine
    ⟨fun path name => parse_eq_ok_iff_segments, fun path => ?_,
      fun front back frontBare backBare name =>
        parse_join_eq_ok_iff frontBare backBare⟩
  rw [← exists_parse_eq_error_iff]
  exact exists_congr fun fault => and_iff_left rfl

/-- A path with an encoded slash is continued by one with an encoded space. -/
theorem reads_path_grammar_of_devices :
    Bare "users/a%2Fb" ∧
      Bare "my%20devices" ∧
      ∀ name,
        parse ("users/a%2Fb" ++ "/" ++ "my%20devices") = .ok name ↔
          ∃ left right,
            parse "users/a%2Fb" = .ok left ∧
              parse "my%20devices" = .ok right ∧
              name = left ++ right := by
  have usersBare : Bare "users/a%2Fb" :=
    ⟨by decide, by decide, by decide⟩
  have devicesBare : Bare "my%20devices" :=
    ⟨by decide, by decide, by decide⟩
  obtain ⟨-, -, joins⟩ := reads_path_grammar
  exact ⟨usersBare, devicesBare, joins _ _ usersBare devicesBare⟩

end ResourceServer.Name
