import Mathlib.Data.List.TakeWhile
import ResourceServer.Json.Pointer
import ResourceServer.Proofs.Json.WellFormed
import ResourceServer.Proofs.Name.RawElement
import ResourceServer.Proofs.Text.Numeral

namespace ResourceServer.Json

/-!
# Places in a value

An index is spelled in one way only, so different keys lead to different
members and items. Replacing what lies at the end of a way is therefore seen
there and beneath, and at no place that is apart from it.
-/

namespace Pointer

/-! ## Indices -/

/-- An array index is an unsigned number of the machine's width. -/
theorem unsigned?_of_index?
    {key : String}
    {index : Nat}
    (isIndex : index? key = some index) :
    Text.unsigned? Text.limit64 key = some index := by
  unfold index? at isIndex
  split at isIndex
  · cases isIndex
  · cases isIndex
  · exact isIndex

/-- A key is an index just where it is the numeral of one, as it is printed. -/
theorem index?_eq_some_iff
    {key : String}
    {index : Nat} :
    index? key = some index ↔ key = toString index ∧ index < Text.limit64 := by
  constructor
  · intro isIndex
    have reads := unsigned?_of_index? isIndex
    refine ⟨?_, Text.lt_of_unsigned? reads⟩
    unfold index? at isIndex
    split at isIndex
    · cases isIndex
    · cases isIndex
    · rename_i unsigned unpadded
      exact Text.eq_toString_of_digits? unpadded
        (Text.digits?_of_unsigned? unsigned isIndex)
  · rintro ⟨rfl, isBelow⟩
    have isNumeral : (toString index).toList = Nat.toDigits 10 index := by
      rw [Nat.toString_eq_ofList_toDigits, String.toList_ofList]
    unfold index?
    split
    · rename_i rest isSigned
      have member : '+' ∈ Nat.toDigits 10 index := by
        rw [← isNumeral, isSigned]
        exact List.mem_cons_self
      cases Nat.isDigit_of_mem_toDigits (by decide) (by decide) member
    · rename_i second rest isPadded
      rw [isNumeral] at isPadded
      cases index with
      | zero =>
          cases isPadded
      | succ smaller =>
          exact absurd isPadded
            (Text.head_toDigits_ne_zero (Nat.succ_pos smaller) _)
    · exact Text.unsigned?_toString isBelow

/-- No two keys spell the same index. -/
theorem index?_injective
    {left right : String}
    {index : Nat}
    (leftIndex : index? left = some index)
    (rightIndex : index? right = some index) :
    left = right :=
  (index?_eq_some_iff.mp leftIndex).1.trans
    (index?_eq_some_iff.mp rightIndex).1.symm

/-! ## The slash at the start -/

theorem exists_toList_absolute
    (pointer : String) :
    ∃ rest, (absolute pointer).toList = '/' :: rest := by
  unfold absolute
  split
  · rename_i rest isRooted
    exact ⟨rest, isRooted⟩
  · exact ⟨pointer.toList, String.toList_append⟩

/-- A normalized pointer is empty or starts with a slash. -/
theorem normalize_cases
    (pointer : String) :
    normalize pointer = "" ∨ ∃ rest, (normalize pointer).toList = '/' :: rest := by
  unfold normalize
  split
  · exact .inl rfl
  · exact .inr (exists_toList_absolute pointer)

/-- Normalizing leaves exactly the pointers alone that it can give. -/
theorem normalize_eq_self_iff
    {pointer : String} :
    normalize pointer = pointer ↔
      pointer = "" ∨ ∃ rest, pointer.toList = '/' :: rest := by
  constructor
  · intro same
    rw [← same]
    exact normalize_cases pointer
  · rintro (rfl | ⟨rest, isRooted⟩)
    · rfl
    · have nonempty : pointer ≠ "" := by
        rintro rfl
        cases isRooted
      rw [normalize, if_neg nonempty, absolute, isRooted]
      rfl

/-- A pointer with a slash at its start has a first key. -/
theorem exists_keys?_absolute
    (pointer : String) :
    ∃ first rest, keys? (absolute pointer) = some (first :: rest) := by
  obtain ⟨rest, isRooted⟩ := exists_toList_absolute pointer
  have isSome :
      keys? (absolute pointer) =
        some ((rest.splitOn '/').map fun token => String.ofList (unescape token)) := by
    unfold keys?
    rw [isRooted]
    rfl
  rw [isSome]
  cases tokens : rest.splitOn '/' with
  | nil =>
      exact absurd tokens (List.splitOn_ne_nil '/' rest)
  | cons token others =>
      exact ⟨_, _, rfl⟩

/-! ## The last key -/

/-- A pointer that splits is the part before, a slash, and a last part without slash. -/
theorem splitLast?_eq_some
    {pointer before last : String}
    (splits : splitLast? pointer = some (before, last)) :
    pointer.toList = before.toList ++ '/' :: last.toList ∧
      '/' ∉ last.toList := by
  unfold splitLast? at splits
  dsimp only at splits
  split at splits
  · cases splits
  · rename_i first rest dropped
    cases splits
    have isSlash : first = '/' := by
      have stops := List.head?_dropWhile_not (· != '/') pointer.toList.reverse
      rw [dropped] at stops
      simpa using stops
    subst isSlash
    simp only [String.toList_ofList, List.mem_reverse]
    constructor
    · rw [← List.reverse_inj, List.reverse_append, List.reverse_cons,
        List.reverse_reverse, List.reverse_reverse, List.append_assoc,
        List.singleton_append, ← dropped, List.takeWhile_append_dropWhile]
    · intro member
      have notSlash := List.mem_takeWhile_imp member
      simp at notSlash

theorem splitLast?_eq_none
    {pointer : String}
    (whole : splitLast? pointer = none) :
    '/' ∉ pointer.toList := by
  unfold splitLast? at whole
  dsimp only at whole
  split at whole
  · rename_i nothing
    intro member
    have noSlash := List.dropWhile_eq_nil_iff.mp nothing
    have isOther := noSlash '/' (List.mem_reverse.mpr member)
    simp at isOther
  · cases whole

/-- A pointer that is not empty and does not start with a slash leads nowhere. -/
theorem keys?_of_unrooted
    {pointer : String}
    {first : Char}
    {rest : List Char}
    (chars : pointer.toList = first :: rest)
    (notSlash : first ≠ '/') :
    keys? pointer = none := by
  unfold keys?
  rw [chars]
  split
  · rename_i nothing
    cases nothing
  · rename_i isSlash
    exact absurd (List.cons.inj isSlash).1 notSlash
  · rfl

/-- A pointer has the keys before its last slash, and one more behind it. -/
theorem keys?_of_splitLast?
    {pointer before last : String}
    (splits : splitLast? pointer = some (before, last)) :
    keys? pointer = (keys? before).map fun way => way ++ [key last] := by
  obtain ⟨isJoined, noSlash⟩ := splitLast?_eq_some splits
  have single := Name.splitOn_eq_singleton_iff.mpr noSlash
  cases chars : before.toList with
  | nil =>
      rw [chars, List.nil_append] at isJoined
      simp only [keys?, isJoined, chars, single, List.map_singleton,
        Option.map_some]
      rfl
  | cons first rest =>
      rw [chars, List.cons_append] at isJoined
      by_cases isSlash : first = '/'
      · subst isSlash
        simp only [keys?, isJoined, chars, Name.splitOn_append_slash, single,
          List.map_append, List.map_singleton, Option.map_some]
        rfl
      · rw [keys?_of_unrooted isJoined isSlash,
          keys?_of_unrooted chars isSlash]
        rfl

/-- A pointer with a last key is written with a slash before that key. -/
theorem keys?_eq_concat_iff
    {pointer lastKey : String}
    {way : List String} :
    keys? pointer = some (way ++ [lastKey]) ↔
      ∃ before last,
        splitLast? pointer = some (before, last) ∧
          keys? before = some way ∧
          key last = lastKey := by
  cases splits : splitLast? pointer with
  | none =>
      have noSlash := splitLast?_eq_none splits
      simp only [reduceCtorEq, false_and, exists_false, iff_false]
      unfold keys?
      split
      · simp
      · rename_i rest isRooted
        rw [isRooted] at noSlash
        exact absurd List.mem_cons_self noSlash
      · simp
  | some parts =>
      obtain ⟨before, last⟩ := parts
      rw [keys?_of_splitLast? splits, Option.map_eq_some_iff]
      constructor
      · rintro ⟨found, isFound, sameKeys⟩
        obtain ⟨rfl, sameLast⟩ := List.append_inj' sameKeys rfl
        exact ⟨before, last, rfl, isFound, List.singleton_inj.mp sameLast⟩
      · rintro ⟨_, _, ⟨⟩, isFound, rfl⟩
        exact ⟨way, isFound, rfl⟩

end Pointer

/-! ## Places -/

/-- Neither way leads through the end of the other. -/
def Apart
    (way other : List String) :
    Prop :=
  ¬ way <+: other ∧ ¬ other <+: way

instance (way other : List String) :
    Decidable (Apart way other) :=
  inferInstanceAs (Decidable (¬ _ ∧ ¬ _))

/-- Two ways are apart when their first keys differ or what follows these is apart. -/
theorem apart_cons_iff
    {key other : String}
    {way others : List String} :
    Apart (key :: way) (other :: others) ↔
      (key = other → Apart way others) := by
  simp only [Apart, List.cons_prefix_cons, eq_comm (a := other)]
  tauto

theorem not_apart_nil
    {way : List String} :
    ¬ Apart [] way :=
  fun apart => apart.1 List.nil_prefix

theorem at?_append
    (value : Json)
    (way more : List String) :
    value.at? (way ++ more) = (value.at? way).bind (·.at? more) := by
  induction way generalizing value with
  | nil =>
      rfl
  | cons key rest inductionHypothesis =>
      simp only [List.cons_append, at?, Option.bind_assoc, inductionHypothesis]

/-- A child of an array is the item at the index that the key spells. -/
theorem item_of_child?
    {items : List Json}
    {key : String}
    {item : Json}
    (present : (Json.array items).child? key = some item) :
    ∃ index,
      Pointer.index? key = some index ∧ items[index]? = some item := by
  simp only [child?] at present
  split at present
  · rename_i index isIndex
    exact ⟨index, isIndex, present⟩
  · cases present

/-- Setting a child changes what stands under its key and under no other. -/
theorem child?_setChild
    {value old : Json}
    {key : String}
    (present : value.child? key = some old)
    (child : Json)
    (other : String) :
    (value.setChild key child).child? other =
      if key = other then some child else value.child? other := by
  cases value with
  | object members =>
      exact Record.get?_insert members key other child
  | array items =>
      obtain ⟨index, isIndex, isItem⟩ := item_of_child? present
      have inItems := (List.getElem?_eq_some_iff.mp isItem).1
      simp only [setChild, isIndex, child?]
      by_cases same : key = other
      · subst same
        rw [isIndex, if_pos rfl]
        exact List.getElem?_set_self inItems
      · rw [if_neg same]
        split
        · rename_i place isPlace
          have differs : index ≠ place := by
            rintro rfl
            exact same (Pointer.index?_injective isIndex isPlace)
          exact List.getElem?_set_ne differs
        · rfl
  | _ =>
      cases present

/-- Beyond the place that was set, one looks into the replacement. -/
theorem at?_setAt_append
    {value old : Json}
    {way : List String}
    (present : value.at? way = some old)
    (replacement : Json)
    (more : List String) :
    (value.setAt way replacement).at? (way ++ more) = replacement.at? more := by
  induction way generalizing value with
  | nil =>
      rfl
  | cons key rest inductionHypothesis =>
      obtain ⟨child, isChild, onward⟩ := Option.bind_eq_some_iff.mp present
      rw [setAt, isChild, List.cons_append, at?, child?_setChild isChild,
        if_pos rfl]
      exact inductionHypothesis onward

/-- What was set at a place is found there. -/
theorem at?_setAt_self
    {value old : Json}
    {way : List String}
    (present : value.at? way = some old)
    (replacement : Json) :
    (value.setAt way replacement).at? way = some replacement := by
  have seenThere := at?_setAt_append present replacement []
  rw [List.append_nil] at seenThere
  exact seenThere

/-- What lies apart from a place does not change with it. -/
theorem at?_setAt_of_apart
    (value replacement : Json)
    {way other : List String}
    (apart : Apart way other) :
    (value.setAt way replacement).at? other = value.at? other := by
  induction way generalizing value other with
  | nil =>
      exact absurd apart not_apart_nil
  | cons key rest inductionHypothesis =>
      cases other with
      | nil =>
          exact absurd List.nil_prefix apart.2
      | cons first others =>
          rw [setAt]
          split
          · rename_i child isChild
            rw [at?, child?_setChild isChild, at?]
            split
            · rename_i same
              subst same
              rw [isChild]
              exact inductionHypothesis child (apart_cons_iff.mp apart rfl)
            · rfl
          · rfl

theorem at?_concat
    {value parent : Json}
    {way : List String}
    (holds : value.at? way = some parent)
    (key : String) :
    value.at? (way ++ [key]) = parent.child? key := by
  rw [at?_append, holds]
  exact Option.bind_fun_some (parent.child? key)

/-- What lies apart from a child is apart from its parent, or beside it. -/
theorem apart_concat_cases
    {way keys : List String}
    {key : String}
    (apart : Apart (way ++ [key]) keys) :
    Apart way keys ∨
      ∃ other more, keys = way ++ other :: more ∧ key ≠ other := by
  by_cases isAbove : way <+: keys
  · obtain ⟨rest, rfl⟩ := isAbove
    cases rest with
    | nil =>
        refine absurd ?_ apart.2
        rw [List.append_nil]
        exact List.prefix_append way [key]
    | cons other more =>
        refine .inr ⟨other, more, rfl, ?_⟩
        rintro rfl
        apply apart.1
        rw [List.append_cons way key more]
        exact List.prefix_append (way ++ [key]) more
  · exact .inl ⟨isAbove, fun isBelow =>
      apart.2 (isBelow.trans (List.prefix_append way [key]))⟩

/-- Where a value changes at one key only, nothing apart from it does. -/
theorem at?_setAt_of_apart_concat
    {value parent replacement : Json}
    {way keys : List String}
    {key : String}
    (holds : value.at? way = some parent)
    (sameElsewhere :
      ∀ other, key ≠ other → replacement.child? other = parent.child? other)
    (apart : Apart (way ++ [key]) keys) :
    (value.setAt way replacement).at? keys = value.at? keys := by
  rcases apart_concat_cases apart with farther | ⟨other, more, rfl, differs⟩
  · exact at?_setAt_of_apart value replacement farther
  · rw [at?_setAt_append holds, at?_append, holds, Option.bind_some, at?, at?,
      sameElsewhere other differs]

/-! ## Well-formed places -/

namespace WellFormed

theorem item
    {items : List Json}
    (wellFormed : WellFormed (.array items))
    {place : Json}
    (isItem : place ∈ items) :
    place.WellFormed := by
  cases wellFormed with
  | array each =>
      exact each place isItem

/-- Each child of a well-formed value is well-formed. -/
theorem child
    {value place : Json}
    (wellFormed : value.WellFormed)
    {key : String}
    (isChild : value.child? key = some place) :
    place.WellFormed := by
  cases value with
  | object members =>
      exact wellFormed.member isChild
  | array items =>
      obtain ⟨index, -, isItem⟩ := item_of_child? isChild
      exact wellFormed.item (List.mem_of_getElem? isItem)
  | _ =>
      cases isChild

/-- What lies at a place of a well-formed value is well-formed. -/
theorem place
    {value found : Json}
    (wellFormed : value.WellFormed)
    {way : List String}
    (isFound : value.at? way = some found) :
    found.WellFormed := by
  induction way generalizing value with
  | nil =>
      cases isFound
      exact wellFormed
  | cons key rest inductionHypothesis =>
      obtain ⟨child, isChild, onward⟩ := Option.bind_eq_some_iff.mp isFound
      exact inductionHypothesis (wellFormed.child isChild) onward

theorem erase
    {members : Record Json}
    (wellFormed : WellFormed (.object members))
    (key : String) :
    WellFormed (.object (members.erase key)) := by
  cases wellFormed with
  | object sorted each =>
      refine .object (sorted.erase key) fun member isMember => ?_
      exact each member ((members.erase_sublist key).subset isMember)

theorem sublist
    {items fewer : List Json}
    (wellFormed : WellFormed (.array items))
    (isSublist : List.Sublist fewer items) :
    WellFormed (.array fewer) :=
  .array fun _ isItem => wellFormed.item (isSublist.subset isItem)

theorem concat
    {items : List Json}
    (wellFormed : WellFormed (.array items))
    {item : Json}
    (isWellFormed : item.WellFormed) :
    WellFormed (.array (items ++ [item])) := by
  refine .array fun place isPlace => ?_
  rcases List.mem_append.mp isPlace with isOld | isNew
  · exact wellFormed.item isOld
  · rw [List.mem_singleton.mp isNew]
    exact isWellFormed

theorem setItem
    {items : List Json}
    (wellFormed : WellFormed (.array items))
    (index : Nat)
    {item : Json}
    (isWellFormed : item.WellFormed) :
    WellFormed (.array (items.set index item)) := by
  refine .array fun place isPlace => ?_
  rcases List.mem_or_eq_of_mem_set isPlace with isOld | rfl
  · exact wellFormed.item isOld
  · exact isWellFormed

/-- A well-formed child put in place leaves a value well-formed. -/
theorem setChild
    {value : Json}
    (wellFormed : value.WellFormed)
    (key : String)
    {child : Json}
    (isWellFormed : child.WellFormed) :
    (value.setChild key child).WellFormed := by
  cases value with
  | object members =>
      exact wellFormed.insert key isWellFormed
  | array items =>
      simp only [Json.setChild]
      split
      · exact wellFormed.setItem _ isWellFormed
      · exact wellFormed
  | _ =>
      exact wellFormed

/-- A well-formed replacement at any depth leaves a value well-formed. -/
theorem setAt
    {value : Json}
    (wellFormed : value.WellFormed)
    (way : List String)
    {replacement : Json}
    (isWellFormed : replacement.WellFormed) :
    (value.setAt way replacement).WellFormed := by
  induction way generalizing value with
  | nil =>
      exact isWellFormed
  | cons key rest inductionHypothesis =>
      rw [Json.setAt]
      split
      · rename_i child isChild
        exact
          wellFormed.setChild key
            (inductionHypothesis (wellFormed.child isChild))
      · exact wellFormed

/-- Putting the same child in its place changes nothing. -/
theorem setChild_same
    {value child : Json}
    (wellFormed : value.WellFormed)
    {key : String}
    (isChild : value.child? key = some child) :
    value.setChild key child = value := by
  cases value with
  | object members =>
      have sorted := wellFormed.sorted
      have sameMembers : Record.insert members key child = members := by
        refine (sorted.insert key child).ext sorted fun name => ?_
        rw [Record.get?_insert]
        split
        · rename_i isKey
          rw [← isKey]
          exact isChild.symm
        · rfl
      rw [Json.setChild, sameMembers]
  | array items =>
      obtain ⟨index, isIndex, isItem⟩ := item_of_child? isChild
      obtain ⟨inside, rfl⟩ := List.getElem?_eq_some_iff.mp isItem
      simp only [Json.setChild, isIndex, List.set_getElem_self]
  | _ =>
      rfl

/-- Setting a place to the value it holds changes nothing. -/
theorem setAt_same
    {value old : Json}
    (wellFormed : value.WellFormed)
    {way : List String}
    (holds : value.at? way = some old) :
    value.setAt way old = value := by
  induction way generalizing value with
  | nil =>
      cases holds
      rfl
  | cons key rest inductionHypothesis =>
      obtain ⟨child, isChild, onward⟩ := Option.bind_eq_some_iff.mp holds
      simp only [Json.setAt, isChild]
      rw [inductionHypothesis (wellFormed.child isChild) onward,
        wellFormed.setChild_same isChild]

end WellFormed

end ResourceServer.Json
