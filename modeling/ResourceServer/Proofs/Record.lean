import Mathlib.Data.List.Induction
import Mathlib.Data.List.Nodup
import ResourceServer.Record

namespace ResourceServer.Record

/-!
# Records as finite maps

As long as its keys ascend a record is a finite map: every pair in it is what a
look-up of its key finds, inserting and erasing change one key and no other,
and the keys go on ascending.
-/

variable {α : Type u}

instance (record : Record α) :
    Decidable record.Sorted :=
  inferInstanceAs (Decidable (List.Pairwise _ _))

/-- An inserted key holds the new value, every other key what it held. -/
theorem get?_insert
    (record : Record α)
    (key name : String)
    (value : α) :
    (record.insert key value).get? name =
      if key = name then some value else record.get? name := by
  by_cases isKey : key = name
  · subst isKey
    rw [if_pos rfl, get?_insert_self]
  · rw [if_neg isKey, get?_insert_of_ne record value isKey]

/-- The keys after an insertion are the new one and those of before. -/
theorem mem_map_fst_insert
    {record : Record α}
    {key name : String}
    {value : α} :
    name ∈ (record.insert key value).map Prod.fst ↔
      name = key ∨ name ∈ record.map Prod.fst := by
  induction record with
  | nil =>
      simp only [insert, List.map_cons, List.map_nil, List.mem_cons]
  | cons pair rest inductionHypothesis =>
      obtain ⟨first, old⟩ := pair
      simp only [insert]
      split
      · simp only [List.map_cons, List.mem_cons]
      · split
        · rename_i same
          subst same
          simp only [List.map_cons, List.mem_cons, or_self_left]
        · simp only [List.map_cons, List.mem_cons, inductionHypothesis]
          exact or_left_comm

/-- Erasing leaves out pairs and changes nothing else. -/
theorem erase_sublist
    (record : Record α)
    (key : String) :
    List.Sublist (record.erase key) record := by
  induction record with
  | nil =>
      exact .slnil
  | cons pair rest inductionHypothesis =>
      obtain ⟨first, old⟩ := pair
      simp only [erase]
      split
      · exact List.sublist_cons_self _ rest
      · exact inductionHypothesis.cons_cons _

namespace Sorted

variable {record : Record α}

/-- The first key of a sorted record is below all others. -/
theorem head_lt
    {first : String}
    {value : α}
    {rest : Record α}
    (sorted : Sorted ((first, value) :: rest))
    {name : String}
    (member : name ∈ rest.map Prod.fst) :
    first < name :=
  (List.pairwise_cons.mp sorted).1 name member

theorem tail
    {pair : String × α}
    {rest : Record α}
    (sorted : Sorted (pair :: rest)) :
    Sorted rest :=
  (List.pairwise_cons.mp sorted).2

/-- Insertion keeps a record sorted. -/
theorem insert
    (sorted : Sorted record)
    (key : String)
    (value : α) :
    Sorted (record.insert key value) := by
  induction record with
  | nil =>
      exact List.pairwise_singleton _ _
  | cons pair rest inductionHypothesis =>
      obtain ⟨first, old⟩ := pair
      simp only [Record.insert]
      split
      · rename_i isBelow
        refine List.pairwise_cons.mpr ⟨?_, sorted⟩
        intro name member
        rcases List.mem_cons.mp member with isFirst | inRest
        · exact isFirst ▸ isBelow
        · exact String.lt_trans isBelow (sorted.head_lt inRest)
      · split
        · rename_i same
          subst same
          exact sorted
        · rename_i notBelow different
          have firstBelow : first < key :=
            Std.lt_of_le_of_ne (String.not_lt.mp notBelow) different
          refine List.pairwise_cons.mpr ⟨?_, inductionHypothesis sorted.tail⟩
          intro name member
          rcases mem_map_fst_insert.mp member with isKey | inRest
          · exact isKey ▸ firstBelow
          · exact sorted.head_lt inRest

theorem erase
    (sorted : Sorted record)
    (key : String) :
    Sorted (record.erase key) :=
  List.Pairwise.sublist ((record.erase_sublist key).map Prod.fst) sorted

/-- A key has the value that it is paired with. -/
theorem get?_eq_some_iff
    (sorted : Sorted record)
    {key : String}
    {value : α} :
    record.get? key = some value ↔ (key, value) ∈ record := by
  induction record with
  | nil =>
      simp only [get?, reduceCtorEq, List.not_mem_nil]
  | cons pair rest inductionHypothesis =>
      obtain ⟨first, old⟩ := pair
      simp only [get?, List.mem_cons, Prod.mk.injEq]
      by_cases same : first = key
      · subst same
        have notInRest : (first, value) ∉ rest := by
          intro member
          exact String.lt_irrefl first
            (sorted.head_lt (List.mem_map_of_mem member))
        simp only [if_true, Option.some.injEq, true_and, notInRest, or_false]
        exact eq_comm
      · have differs : ¬ key = first := fun isFirst => same isFirst.symm
        simp only [if_neg same, differs, false_and, false_or]
        exact inductionHypothesis sorted.tail

/-- The pairs after an insertion are the new one and old ones. -/
theorem mem_insert
    (sorted : Sorted record)
    {key : String}
    {value : α}
    {pair : String × α}
    (member : pair ∈ record.insert key value) :
    pair = (key, value) ∨ pair ∈ record := by
  obtain ⟨name, content⟩ := pair
  have found := (sorted.insert key value).get?_eq_some_iff.mpr member
  rw [get?_insert] at found
  split at found
  · rename_i isKey
    cases found
    subst isKey
    exact .inl rfl
  · exact .inr (sorted.get?_eq_some_iff.mp found)

theorem get?_erase_self
    (sorted : Sorted record)
    (key : String) :
    (record.erase key).get? key = none := by
  cases found : (record.erase key).get? key with
  | none =>
      rfl
  | some value =>
      exfalso
      induction record with
      | nil =>
          cases found
      | cons pair rest inductionHypothesis =>
          obtain ⟨first, old⟩ := pair
          simp only [Record.erase] at found
          split at found
          · rename_i same
            subst same
            have member := (sorted.tail.get?_eq_some_iff).mp found
            exact String.lt_irrefl first
              (sorted.head_lt (List.mem_map_of_mem member))
          · rename_i different
            simp only [get?, if_neg different] at found
            exact inductionHypothesis sorted.tail found

theorem keys_nodup
    (sorted : Sorted record) :
    (record.map Prod.fst).Nodup := by
  refine List.Pairwise.imp ?_ sorted
  rintro earlier later ascends rfl
  exact String.lt_irrefl _ ascends

end Sorted

theorem get?_eq_none_iff
    {record : Record α}
    {key : String} :
    record.get? key = none ↔ key ∉ record.map Prod.fst := by
  induction record with
  | nil =>
      simp only [get?, List.map_nil, List.not_mem_nil, not_false_eq_true]
  | cons pair rest inductionHypothesis =>
      obtain ⟨first, old⟩ := pair
      simp only [get?, List.map_cons, List.mem_cons, not_or]
      by_cases same : first = key
      · subst same
        simp only [if_true, reduceCtorEq, not_true_eq_false, false_and]
      · have differs : ¬ key = first := fun isFirst => same isFirst.symm
        simp only [if_neg same, inductionHypothesis, differs,
          not_false_eq_true, true_and]

/-- To erase a key that is not there changes nothing. -/
theorem erase_eq_self
    {record : Record α}
    {key : String}
    (absent : record.get? key = none) :
    record.erase key = record := by
  induction record with
  | nil =>
      rfl
  | cons pair rest inductionHypothesis =>
      obtain ⟨first, old⟩ := pair
      simp only [get?] at absent
      split at absent
      · cases absent
      · rename_i different
        rw [erase, if_neg different, inductionHypothesis absent]

/-- What was inserted for a new key is all that erasing the key takes away. -/
theorem erase_insert_of_absent
    {record : Record α}
    {key : String}
    (value : α)
    (absent : record.get? key = none) :
    (record.insert key value).erase key = record := by
  induction record with
  | nil =>
      simp only [insert, erase, if_true]
  | cons pair rest inductionHypothesis =>
      obtain ⟨first, old⟩ := pair
      simp only [get?] at absent
      split at absent
      · cases absent
      · rename_i different
        rw [insert]
        split
        · simp only [erase, if_true]
        · rw [erase, if_neg different, inductionHypothesis absent]

/-- Erasing a key takes away its value, also one that was just inserted. -/
theorem Sorted.erase_insert
    {record : Record α}
    (sorted : Sorted record)
    (key : String)
    (value : α) :
    (record.insert key value).erase key = record.erase key := by
  induction record with
  | nil =>
      simp only [Record.insert, Record.erase, if_true]
  | cons pair rest inductionHypothesis =>
      obtain ⟨first, old⟩ := pair
      rw [Record.insert]
      split
      · rename_i isBelow
        have absent : get? ((first, old) :: rest) key = none := by
          rw [get?_eq_none_iff, List.map_cons, List.mem_cons, not_or]
          constructor
          · rintro rfl
            exact String.lt_irrefl _ isBelow
          · intro inRest
            exact String.lt_irrefl _
              (String.lt_trans isBelow (sorted.head_lt inRest))
        rw [erase_eq_self absent, Record.erase, if_pos rfl]
      · split
        · rename_i same
          subst same
          simp only [Record.erase, if_true]
        · rename_i different
          rw [Record.erase, if_neg different, Record.erase, if_neg different,
            inductionHypothesis sorted.tail]

/-- Erasing leaves the values of all other keys alone. -/
theorem get?_erase_of_ne
    (record : Record α)
    {key other : String}
    (different : key ≠ other) :
    (record.erase key).get? other = record.get? other := by
  induction record with
  | nil =>
      rfl
  | cons pair rest inductionHypothesis =>
      obtain ⟨first, old⟩ := pair
      simp only [erase]
      split
      · rename_i same
        subst same
        simp only [get?, if_neg different]
      · simp only [get?, inductionHypothesis]

/-- One more pair of a list is inserted last. -/
theorem ofList_concat
    (pairs : List (String × α))
    (pair : String × α) :
    ofList (pairs ++ [pair]) = (ofList pairs).insert pair.1 pair.2 :=
  List.foldl_append ..

/-- A record has no values but those it was made of. -/
theorem mem_of_get?_ofList
    {pairs : List (String × α)}
    {key : String}
    {value : α}
    (found : (ofList pairs).get? key = some value) :
    (key, value) ∈ pairs := by
  induction pairs using List.reverseRecOn with
  | nil =>
      cases found
  | append_singleton pairs pair inductionHypothesis =>
      rw [ofList_concat, get?_insert] at found
      split at found
      · rename_i isKey
        cases found
        subst isKey
        exact List.mem_append_right pairs List.mem_cons_self
      · exact List.mem_append_left [pair] (inductionHypothesis found)

/-- A later pair counts before an earlier one. -/
theorem get?_ofList_append
    (front back : List (String × α))
    (key : String) :
    (ofList (front ++ back)).get? key =
      ((ofList back).get? key).or ((ofList front).get? key) := by
  induction back using List.reverseRecOn with
  | nil =>
      rw [List.append_nil]
      rfl
  | append_singleton back pair inductionHypothesis =>
      rw [← List.append_assoc, ofList_concat, ofList_concat, get?_insert,
        get?_insert, inductionHypothesis]
      split <;> rfl

/-! ## Records of pairs -/

/-- A record made of a list is sorted. -/
theorem sorted_ofList
    (pairs : List (String × α)) :
    Sorted (ofList pairs) := by
  induction pairs using List.reverseRecOn with
  | nil =>
      exact .nil
  | append_singleton pairs pair inductionHypothesis =>
      rw [ofList_concat]
      exact inductionHypothesis.insert pair.1 pair.2

/-- The keys of a record made of a list are those of the list. -/
theorem mem_keys_ofList
    {pairs : List (String × α)}
    {key : String} :
    key ∈ (ofList pairs).keys ↔ key ∈ pairs.map Prod.fst := by
  induction pairs using List.reverseRecOn with
  | nil =>
      exact Iff.rfl
  | append_singleton pairs pair inductionHypothesis =>
      rw [keys] at inductionHypothesis
      rw [ofList_concat, keys, mem_map_fst_insert, inductionHypothesis,
        List.map_append, List.mem_append, List.map_singleton,
        List.mem_singleton]
      exact or_comm

/-- Pairs of different keys are all found in the record that is made of them. -/
theorem get?_ofList_of_nodup
    {pairs : List (String × α)}
    (distinct : (pairs.map Prod.fst).Nodup)
    {key : String}
    {value : α}
    (isPair : (key, value) ∈ pairs) :
    (ofList pairs).get? key = some value := by
  have isKey : key ∈ (ofList pairs).keys :=
    mem_keys_ofList.mpr (List.mem_map_of_mem isPair)
  cases found : (ofList pairs).get? key with
  | none =>
      exact absurd isKey (get?_eq_none_iff.mp found)
  | some other =>
      have isOther := mem_of_get?_ofList found
      have samePair :=
        List.inj_on_of_nodup_map distinct isOther isPair rfl
      rw [(Prod.mk.inj samePair).2]

/-- A pair counts if no later one has its key. -/
theorem get?_ofList_last
    (front : List (String × α))
    {back : List (String × α)}
    {key : String}
    (value : α)
    (isLast : key ∉ back.map Prod.fst) :
    (ofList (front ++ (key, value) :: back)).get? key = some value := by
  have absent : (ofList back).get? key = none := by
    rw [get?_eq_none_iff]
    exact mt mem_keys_ofList.mp isLast
  have ofOne : (ofList [(key, value)]).get? key = some value :=
    get?_insert_self [] key value
  rw [get?_ofList_append, ← List.singleton_append, get?_ofList_append, absent,
    ofOne]
  rfl

/-- Records that find the same for every key are the same. -/
theorem Sorted.ext
    {left right : Record α}
    (leftSorted : left.Sorted)
    (rightSorted : right.Sorted)
    (sameValues : ∀ key, left.get? key = right.get? key) :
    left = right := by
  have samePairs : ∀ pair, pair ∈ left ↔ pair ∈ right := by
    rintro ⟨key, value⟩
    rw [← leftSorted.get?_eq_some_iff, sameValues,
      rightSorted.get?_eq_some_iff]
  have arePermuted : left.Perm right :=
    (List.perm_ext_iff_of_nodup
      (List.Nodup.of_map Prod.fst leftSorted.keys_nodup)
      (List.Nodup.of_map Prod.fst rightSorted.keys_nodup)).mpr samePairs
  refine
    List.Perm.eq_of_pairwise ?_ (List.pairwise_map.mp leftSorted)
      (List.pairwise_map.mp rightSorted) arePermuted
  intro earlier later _ _ isBelow isAbove
  exact absurd isAbove (String.lt_asymm isBelow)

/-- The order of pairs of different keys does not matter. -/
theorem ofList_perm
    {pairs others : List (String × α)}
    (distinct : (pairs.map Prod.fst).Nodup)
    (arePermuted : pairs.Perm others) :
    ofList pairs = ofList others := by
  refine (sorted_ofList pairs).ext (sorted_ofList others) fun key => ?_
  refine Option.ext fun value => ?_
  constructor
  · intro found
    exact get?_ofList_of_nodup ((arePermuted.map Prod.fst).nodup_iff.mp distinct)
      (arePermuted.mem_iff.mp (mem_of_get?_ofList found))
  · intro found
    exact get?_ofList_of_nodup distinct
      (arePermuted.mem_iff.mpr (mem_of_get?_ofList found))

/-! ## Parts of a record -/

/-- Filtering by keys hides the keys that are left out. -/
theorem get?_filter
    (record : Record α)
    (keeps : String → Bool)
    (key : String) :
    get? (record.filter fun pair => keeps pair.1) key =
      if keeps key then record.get? key else none := by
  induction record with
  | nil =>
      simp only [List.filter_nil, get?, ite_self]
  | cons pair rest inductionHypothesis =>
      obtain ⟨first, value⟩ := pair
      rw [List.filter_cons]
      by_cases same : first = key
      · subst same
        cases kept : keeps first with
        | true =>
            simp only [if_true, get?]
        | false =>
            rw [if_neg Bool.false_ne_true, inductionHypothesis, kept]
            rfl
      · simp only [get?, if_neg same]
        rw [← inductionHypothesis]
        split
        · simp only [get?, if_neg same]
        · rfl

theorem Sorted.filter
    {record : Record α}
    (sorted : record.Sorted)
    (keeps : String × α → Bool) :
    Sorted (record.filter keeps) :=
  List.Pairwise.sublist (List.filter_sublist.map Prod.fst) sorted

/-- Pairs that a record agrees with, at least one a key, make up the record. -/
theorem Sorted.ofList_eq
    {record : Record α}
    (sorted : record.Sorted)
    {pairs : List (String × α)}
    (agree : ∀ pair ∈ pairs, record.get? pair.1 = some pair.2)
    (cover : ∀ key ∈ record.keys, key ∈ pairs.map Prod.fst) :
    ofList pairs = record := by
  refine (sorted_ofList pairs).ext sorted fun key => ?_
  cases found : (ofList pairs).get? key with
  | some value =>
      exact (agree (key, value) (mem_of_get?_ofList found)).symm
  | none =>
      rw [get?_eq_none_iff] at found
      rw [eq_comm, get?_eq_none_iff]
      intro isKey
      exact found (mem_keys_ofList.mpr (cover key isKey))

end ResourceServer.Record
