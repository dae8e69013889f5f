import ResourceServer.Proofs.Json.Pointer
import ResourceServer.Proofs.Record
import ResourceServer.Request.Projection

namespace ResourceServer

/-!
# Selected fields

A projection selects: every field that leads somewhere puts what it leads to
under its last key, and a later field of the same key takes the place of an
earlier one. Keys are read from tokens in the same way where a field is followed
and where its place in the result is named, so fields of one token select
members, and selecting them twice is selecting them once.
-/

namespace Json.Pointer

/-! ## Tokens and keys -/

/-- The part of a pointer after its last slash. -/
def lastToken (pointer : String) : String :=
  match splitLast? pointer with
  | some (_, token) => token
  | none => pointer

/-- The characters with one in the place of each pair, from left to right. -/
def replacePair (first second single : Char) : List Char → List Char
  | [] => []
  | [char] => [char]
  | char :: next :: rest =>
      if char = first ∧ next = second then
        single :: replacePair first second single rest
      else
        char :: replacePair first second single (next :: rest)

/-- The way a key is written in a pointer. -/
def escape : List Char → List Char
  | [] => []
  | '~' :: rest => '~' :: '0' :: escape rest
  | '/' :: rest => '~' :: '1' :: escape rest
  | char :: rest => char :: escape rest

theorem unescape_escape
    (key : List Char) :
    unescape (escape key) = key := by
  induction key using escape.induct with
  | case1 =>
      rfl
  | case2 rest inductionHypothesis =>
      rw [escape, unescape, inductionHypothesis]
  | case3 rest inductionHypothesis =>
      rw [escape, unescape, inductionHypothesis]
  | case4 char rest notTilde notSlash inductionHypothesis =>
      rw [escape.eq_4 char rest notTilde notSlash,
        unescape.eq_4 char _ (fun _ isTilde _ => notTilde isTilde)
          (fun _ isTilde _ => notTilde isTilde), inductionHypothesis]

/-- A character that does not begin the pair is kept. -/
theorem replacePair_cons
    {first second char : Char}
    (single : Char)
    {rest : List Char}
    (notPair : char = first → rest.head? ≠ some second) :
    replacePair first second single (char :: rest) =
      char :: replacePair first second single rest := by
  cases rest with
  | nil =>
      rfl
  | cons next rest =>
      rw [replacePair, if_neg]
      rintro ⟨isFirst, rfl⟩
      exact notPair isFirst rfl

/-- What a replacement begins with is the substitute or what the text began with. -/
theorem head?_replacePair
    {first second single char : Char}
    {chars : List Char}
    (isHead : (replacePair first second single chars).head? = some char) :
    char = single ∨ chars.head? = some char := by
  unfold replacePair at isHead
  split at isHead
  · cases isHead
  · exact .inr isHead
  · split at isHead
    · exact .inl (Option.some.inj isHead).symm
    · exact .inr isHead

/-- A key is read by replacing all slashes of a token, and then all tildes. -/
theorem unescape_eq_replacePair
    (token : List Char) :
    unescape token =
      replacePair '~' '0' '~' (replacePair '~' '1' '/' token) := by
  induction token using unescape.induct with
  | case1 =>
      rfl
  | case2 rest inductionHypothesis =>
      rw [unescape, replacePair, if_pos ⟨rfl, rfl⟩,
        replacePair_cons '~' (by simp), inductionHypothesis]
  | case3 rest inductionHypothesis =>
      rw [unescape, replacePair_cons '/' (by simp),
        replacePair_cons '/' (by simp), replacePair, if_pos ⟨rfl, rfl⟩,
        inductionHypothesis]
  | case4 char rest notOne notZero inductionHypothesis =>
      have notSlash : char = '~' → rest.head? ≠ some '1' := by
        rintro isTilde isOne
        obtain ⟨others, rfl⟩ := List.head?_eq_some_iff.mp isOne
        exact notOne others isTilde rfl
      have notTilde :
          char = '~' → (replacePair '~' '1' '/' rest).head? ≠ some '0' := by
        rintro isTilde isZero
        rcases head?_replacePair isZero with isSlash | isZero
        · exact absurd isSlash (by decide)
        · obtain ⟨others, rfl⟩ := List.head?_eq_some_iff.mp isZero
          exact notZero others isTilde rfl
      rw [unescape.eq_4 char rest notOne notZero, replacePair_cons '/' notSlash,
        replacePair_cons '~' notTilde, inductionHypothesis]

/-- Tokens that are written of keys differ only where their keys do. -/
theorem key_injective
    {token other : String}
    (isWritten : ∃ key, token.toList = escape key)
    (otherWritten : ∃ key, other.toList = escape key)
    (sameKey : key token = key other) :
    token = other := by
  obtain ⟨chars, isToken⟩ := isWritten
  obtain ⟨otherChars, isOther⟩ := otherWritten
  rw [key, key, isToken, isOther, unescape_escape, unescape_escape] at sameKey
  have sameChars := congrArg String.toList sameKey
  rw [String.toList_ofList, String.toList_ofList] at sameChars
  rw [← String.toList_inj, isToken, isOther, sameChars]

end Json.Pointer

namespace Projection

variable
  {content value : Json}
  {fields others : List String}
  {field key : String}

/-! ## What a field names -/

/-- The field is a pointer with the key at its end. -/
def EndsIn (field key : String) : Prop :=
  ∃ way,
    Json.Pointer.keys? (Json.Pointer.absolute field) = some (way ++ [key])

/-- The field leads to a value by a way with the key at its end. -/
def Names (content : Json) (field key : String) (value : Json) : Prop :=
  ∃ way,
    Json.Pointer.keys? (Json.Pointer.absolute field) = some (way ++ [key]) ∧
      content.at? (way ++ [key]) = some value

/-- The token that the key of a field is read from. -/
def tokenOf (field : String) : String :=
  Json.Pointer.lastToken (Json.Pointer.absolute field)

/-- The key of a selected member is the last token of the pointer, unescaped. -/
theorem keyOf_eq
    (pointer : String) :
    keyOf pointer = Json.Pointer.key (Json.Pointer.lastToken pointer) := by
  unfold keyOf Json.Pointer.lastToken
  cases Json.Pointer.splitLast? pointer <;> rfl

/-- A pointer that leads through keys has the last of them as its key. -/
theorem keyOf_of_keys?
    {pointer : String}
    {way : List String}
    (hasKeys : Json.Pointer.keys? pointer = some (way ++ [key])) :
    keyOf pointer = key := by
  obtain ⟨before, token, splits, -, isKey⟩ :=
    Json.Pointer.keys?_eq_concat_iff.mp hasKeys
  rw [keyOf, splits]
  exact isKey

/-- The key in the result is the last one by which the field is followed. -/
theorem exists_keys?_keyOf
    (field : String) :
    ∃ way,
      Json.Pointer.keys? (Json.Pointer.absolute field) =
        some (way ++ [keyOf (Json.Pointer.absolute field)]) := by
  obtain ⟨first, rest, hasKeys⟩ := Json.Pointer.exists_keys?_absolute field
  have isConcat :=
    List.dropLast_concat_getLast (List.cons_ne_nil first rest)
  rw [← isConcat] at hasKeys
  refine ⟨(first :: rest).dropLast, ?_⟩
  rw [keyOf_of_keys? hasKeys]
  exact hasKeys

/-- A field ends in a key exactly when the key is read from the field's pointer. -/
theorem endsIn_iff :
    EndsIn field key ↔ keyOf (Json.Pointer.absolute field) = key := by
  constructor
  · rintro ⟨way, hasKeys⟩
    exact keyOf_of_keys? hasKeys
  · rintro rfl
    exact exists_keys?_keyOf field

/-- What a field names is found by its pointer, under the last key. -/
theorem names_iff :
    Names content field key value ↔
      keyOf (Json.Pointer.absolute field) = key ∧
        content.pointer? (Json.Pointer.absolute field) = some value := by
  constructor
  · rintro ⟨way, hasKeys, isThere⟩
    refine ⟨keyOf_of_keys? hasKeys, ?_⟩
    rw [Json.pointer?, hasKeys]
    exact isThere
  · rintro ⟨rfl, isThere⟩
    obtain ⟨way, hasKeys⟩ := exists_keys?_keyOf field
    rw [Json.pointer?, hasKeys] at isThere
    exact ⟨way, hasKeys, isThere⟩

theorem Names.endsIn
    (names : Names content field key value) :
    EndsIn field key :=
  let ⟨way, hasKeys, _⟩ := names
  ⟨way, hasKeys⟩

/-! ## What fields select -/

/-- The member that a field adds to a result. -/
def member? (content : Json) (field : String) : Option (String × Json) :=
  (content.pointer? (Json.Pointer.absolute field)).map fun value =>
    (keyOf (Json.Pointer.absolute field), value)

/-- The members that fields select; of equal keys the last one counts. -/
def selected (content : Json) (fields : List String) : Record Json :=
  Record.ofList (fields.filterMap (member? content))

/-- A field adds the member that it names, and none when it names nothing. -/
theorem member?_eq_some_iff :
    member? content field = some (key, value) ↔
      Names content field key value := by
  rw [member?, Option.map_eq_some_iff, names_iff]
  constructor
  · rintro ⟨_, isThere, ⟨⟩⟩
    exact ⟨rfl, isThere⟩
  · rintro ⟨rfl, isThere⟩
    exact ⟨value, isThere, rfl⟩

theorem sorted_selected
    (content : Json)
    (fields : List String) :
    (selected content fields).Sorted :=
  Record.sorted_ofList _

/-- Adding the fields in turn is the record of all that they name. -/
theorem foldl_addField
    (content : Json)
    (fields : List String) :
    fields.foldl (addField content) [] = selected content fields := by
  rw [selected, Record.ofList, List.foldl_filterMap]
  congr
  funext selected field
  rw [addField, member?]
  cases content.pointer? (Json.Pointer.absolute field) <;> rfl

theorem project_nil
    (content : Json) :
    content.project [] = content := by
  rw [Json.project, List.isEmpty_nil, Bool.or_true, Bool.true_or]
  rfl

/-- With fields, of which none is the whole, the named members are shown. -/
theorem project_eq_selected
    (content : Json)
    (notNull : content ≠ .null)
    (notEmpty : fields ≠ [])
    (noneWhole : ∀ field ∈ fields, isWhole field = false) :
    content.project fields = .object (selected content fields) := by
  have isPart :
      (content.isNull || fields.isEmpty || fields.any isWhole) = false := by
    have someContent : content.isNull = false := by
      cases content with
      | null => exact absurd rfl notNull
      | _ => rfl
    rw [someContent, List.isEmpty_eq_false_iff.mpr notEmpty,
      List.any_eq_false.mpr (by simpa using noneWhole)]
    rfl
  rw [Json.project, isPart, foldl_addField]
  rfl

/-- A member is selected by a field that names its value. -/
theorem names_of_selected
    (isMember : (selected content fields).get? key = some value) :
    ∃ field ∈ fields, Names content field key value := by
  obtain ⟨field, isField, isMember⟩ :=
    List.mem_filterMap.mp (Record.mem_of_get?_ofList isMember)
  exact ⟨field, isField, member?_eq_some_iff.mp isMember⟩

/-- The keys shown are those that some field names. -/
theorem mem_keys_selected :
    key ∈ (selected content fields).keys ↔
      ∃ field ∈ fields, ∃ value, Names content field key value := by
  rw [selected, Record.mem_keys_ofList]
  constructor
  · intro isKey
    obtain ⟨⟨_, value⟩, isMember, rfl⟩ := List.mem_map.mp isKey
    obtain ⟨field, isField, isMember⟩ := List.mem_filterMap.mp isMember
    exact ⟨field, isField, value, member?_eq_some_iff.mp isMember⟩
  · rintro ⟨field, isField, value, names⟩
    refine List.mem_map.mpr ⟨(key, value), ?_, rfl⟩
    exact List.mem_filterMap.mpr
      ⟨field, isField, member?_eq_some_iff.mpr names⟩

/-- A key has the value that the last field names for it. -/
theorem selected_last
    {front back : List String}
    (names : Names content field key value)
    (isLast : ∀ later ∈ back, ∀ other, ¬ Names content later key other) :
    (selected content (front ++ field :: back)).get? key = some value := by
  have isMember := member?_eq_some_iff.mpr names
  rw [selected, List.filterMap_append, List.filterMap_cons_some isMember]
  apply Record.get?_ofList_last
  intro isKey
  rw [← Record.mem_keys_ofList] at isKey
  obtain ⟨later, isLater, other, names⟩ := mem_keys_selected.mp isKey
  exact isLast later isLater other names

/-! ## The order of fields -/

/-- No two of the fields have the same last key. -/
def Distinct (fields : List String) : Prop :=
  fields.Pairwise fun one another =>
    ∀ key, EndsIn one key → ¬ EndsIn another key

/-- The order of fields with distinct last keys has no effect. -/
theorem selected_perm
    (content : Json)
    (distinct : Distinct fields)
    (arePermuted : fields.Perm others) :
    selected content fields = selected content others := by
  apply Record.ofList_perm
  · rw [List.Nodup, List.pairwise_map]
    refine List.Pairwise.filterMap (member? content) ?_ distinct
    rintro one another differ ⟨key, value⟩ isOne ⟨other, next⟩ isOther rfl
    exact differ key (member?_eq_some_iff.mp isOne).endsIn
      (member?_eq_some_iff.mp isOther).endsIn
  · exact arePermuted.filterMap (member? content)

/-- Permuted fields with distinct last keys show the same. -/
theorem project_perm
    (content : Json)
    (distinct : Distinct fields)
    (arePermuted : fields.Perm others) :
    content.project fields = content.project others := by
  unfold Json.project
  rw [foldl_addField, foldl_addField, selected_perm content distinct arePermuted,
    arePermuted.isEmpty_eq, arePermuted.any_eq]

/-- Fields whose tokens are written of keys need only have different tokens. -/
theorem distinct_of_tokens
    (areWritten :
      ∀ field ∈ fields,
        ∃ key, (tokenOf field).toList = Json.Pointer.escape key)
    (differ : (fields.map tokenOf).Nodup) :
    Distinct fields := by
  rw [List.Nodup, List.pairwise_map] at differ
  refine List.Pairwise.imp_of_mem ?_ differ
  intro one another isOne isOther differ key oneEnds otherEnds
  rw [endsIn_iff, keyOf_eq] at oneEnds otherEnds
  exact differ
    (Json.Pointer.key_injective (areWritten one isOne)
      (areWritten another isOther) (oneEnds.trans otherEnds.symm))

/-! ## Fields of one token -/

instance (field key : String) :
    Decidable (EndsIn field key) :=
  decidable_of_iff _ endsIn_iff.symm

/-- The field has no key but one. -/
def IsSingle (field : String) : Prop :=
  ∃ key, Json.Pointer.keys? (Json.Pointer.absolute field) = some [key]

/-- A field of one token names a child of the content. -/
theorem names_iff_of_single
    (isSingle : IsSingle field) :
    Names content field key value ↔
      EndsIn field key ∧ content.child? key = some value := by
  obtain ⟨only, hasKeys⟩ := isSingle
  have isOnly : EndsIn field only := ⟨[], hasKeys⟩
  have isChild : content.at? ([] ++ [only]) = content.child? only :=
    Json.at?_concat rfl only
  constructor
  · intro names
    have sameKey : only = key :=
      (endsIn_iff.mp isOnly).symm.trans (endsIn_iff.mp names.endsIn)
    subst sameKey
    rw [names_iff, Json.pointer?, hasKeys] at names
    exact ⟨isOnly, isChild.symm.trans names.2⟩
  · rintro ⟨endsIn, isThere⟩
    have sameKey : only = key :=
      (endsIn_iff.mp isOnly).symm.trans (endsIn_iff.mp endsIn)
    subst sameKey
    exact ⟨[], hasKeys, isChild.trans isThere⟩

variable
  (single : ∀ field ∈ fields, IsSingle field)

include single

/-- Fields of one token select the children that they have the keys of. -/
theorem get?_selected_of_single :
    (selected content fields).get? key = some value ↔
      (∃ field ∈ fields, EndsIn field key) ∧ content.child? key = some value := by
  constructor
  · intro isMember
    obtain ⟨field, isField, names⟩ := names_of_selected isMember
    obtain ⟨endsIn, isThere⟩ := (names_iff_of_single (single field isField)).mp names
    exact ⟨⟨field, isField, endsIn⟩, isThere⟩
  · rintro ⟨⟨field, isField, endsIn⟩, isThere⟩
    have isKey : key ∈ (selected content fields).keys :=
      mem_keys_selected.mpr
        ⟨field, isField, value,
          (names_iff_of_single (single field isField)).mpr ⟨endsIn, isThere⟩⟩
    cases found : (selected content fields).get? key with
    | none =>
        exact absurd isKey (Record.get?_eq_none_iff.mp found)
    | some other =>
        obtain ⟨field, isField, names⟩ := names_of_selected found
        have isOther := ((names_iff_of_single (single field isField)).mp names).2
        exact isOther.symm.trans isThere

/-- What fields of one token have selected they select again. -/
theorem selected_selected
    (content : Json) :
    selected (.object (selected content fields)) fields =
      selected content fields := by
  refine (sorted_selected _ fields).ext (sorted_selected _ fields) fun key => ?_
  refine Option.ext fun value => ?_
  rw [get?_selected_of_single single, Json.child?,
    get?_selected_of_single single]
  exact and_self_left

/-- Of an object, fields of one token select members as they are. -/
theorem selected_object
    {members : Record Json}
    (sorted : members.Sorted) :
    selected (.object members) fields =
      members.filter fun member => ∃ field ∈ fields, EndsIn field member.1 := by
  refine (sorted_selected _ fields).ext (sorted.filter _) fun key => ?_
  refine Option.ext fun value => ?_
  rw [get?_selected_of_single single, Json.child?,
    Record.get?_filter members fun key => ∃ field ∈ fields, EndsIn field key]
  simp only [decide_eq_true_eq, Option.ite_none_right_eq_some]

/-- To select what was selected changes nothing. -/
theorem project_project
    (content : Json)
    (noneWhole : ∀ field ∈ fields, isWhole field = false) :
    (content.project fields).project fields = content.project fields := by
  by_cases isNull : content = .null
  · subst isNull
    rfl
  · by_cases isEmpty : fields = []
    · subst isEmpty
      rw [project_nil, project_nil]
    · rw [project_eq_selected content isNull isEmpty noneWhole,
        project_eq_selected _ Json.noConfusion isEmpty noneWhole,
        selected_selected single]

end Projection

namespace Json

open Projection

/--
A projection onto fields, none of which stands for the whole, is a selection.

Of content that is not null it is an object with just the keys in which fields
that lead somewhere end, and each has the value that the last such field leads
to. The order of fields of different keys does not matter, and tokens that are
written of keys differ in their keys. Fields of one token select the same again
from what they have selected, and of an object all members that they name.
-/
theorem project_selects
    (content : Json)
    (fields : List String)
    (noneWhole : ∀ field ∈ fields, isWhole field = false) :
    (∀ field key,
      EndsIn field key ↔
        key.toList =
          Pointer.replacePair '~' '0' '~'
            (Pointer.replacePair '~' '1' '/' (tokenOf field).toList)) ∧
      (content ≠ .null →
        fields ≠ [] →
        ∃ members : Record Json,
          content.project fields = .object members ∧
            members.Sorted ∧
            (∀ key,
              key ∈ members.keys ↔
                ∃ field ∈ fields, ∃ value, Names content field key value) ∧
            ∀ front field back key value,
              fields = front ++ field :: back →
              Names content field key value →
              (∀ later ∈ back, ∀ other, ¬ Names content later key other) →
              members.get? key = some value) ∧
      (∀ others,
        fields.Perm others →
        Distinct fields ∨
          (fields.map tokenOf).Nodup ∧
            (∀ field ∈ fields,
              ∃ key, (tokenOf field).toList = Pointer.escape key) →
        content.project others = content.project fields) ∧
      ((∀ field ∈ fields, IsSingle field) →
        (content.project fields).project fields = content.project fields ∧
          ∀ members : Record Json,
            content = .object members →
            members.Sorted →
            fields ≠ [] →
            content.project fields =
              .object
                (members.filter fun member =>
                  ∃ field ∈ fields, EndsIn field member.1)) := by
  refine ⟨?_, ?_, ?_, ?_⟩
  · intro field key
    rw [endsIn_iff, keyOf_eq, Pointer.key, Pointer.unescape_eq_replacePair,
      ← String.toList_inj, String.toList_ofList]
    exact eq_comm
  · intro notNull notEmpty
    refine ⟨selected content fields,
      project_eq_selected content notNull notEmpty noneWhole,
      sorted_selected content fields, fun key => mem_keys_selected, ?_⟩
    rintro front field back key value rfl names isLast
    exact selected_last names isLast
  · rintro others arePermuted (distinct | ⟨differ, areWritten⟩)
    · exact (project_perm content distinct arePermuted).symm
    · have distinct := distinct_of_tokens areWritten differ
      exact (project_perm content distinct arePermuted).symm
  · intro single
    refine ⟨project_project single content noneWhole, ?_⟩
    rintro members rfl sorted notEmpty
    rw [project_eq_selected _ Json.noConfusion notEmpty noneWhole,
      selected_object single sorted]

/-- A slash and a tilde in keys are selected, and selected again. -/
theorem project_selects_escaped :
    (∀ field ∈ ["a~1b", "/~0", "/other"], isWhole field = false) ∧
      ((Json.object [("a/b", .bool true), ("~", .null)]).project
          ["a~1b", "/~0", "/other"]).project ["a~1b", "/~0", "/other"] =
        .object [("a/b", .bool true), ("~", .null)] := by
  have noneWhole :
      ∀ field ∈ ["a~1b", "/~0", "/other"], isWhole field = false := by
    decide
  have single : ∀ field ∈ ["a~1b", "/~0", "/other"], IsSingle field := by
    simp only [List.forall_mem_cons]
    exact ⟨⟨"a/b", by decide⟩, ⟨"~", by decide⟩, ⟨"other", by decide⟩, nofun⟩
  obtain ⟨-, -, -, ofSingle⟩ :=
    project_selects (.object [("a/b", .bool true), ("~", .null)])
      ["a~1b", "/~0", "/other"] noneWhole
  obtain ⟨again, isPart⟩ := ofSingle single
  refine ⟨noneWhole, again.trans ?_⟩
  rw [isPart _ rfl (by decide) (by decide)]
  decide

end Json

end ResourceServer
