import ResourceServer.Proofs.Store.Editing

namespace ResourceServer.PatchOperation

/-!
# What a removal takes away

A removal takes away the member or item that its field points at, or nothing if
it points at nothing. The one exception is an item whose index is written with
a plus sign or with zeros in front: the field points at nothing, and the item
is taken away all the same.
-/

open Json (Apart)

/-- What lies apart from a place is as it was. -/
def SameApart
    (way : List String)
    (content changed : Json) :
    Prop :=
  ∀ keys, Apart way keys → changed.at? keys = content.at? keys

/-- What a field points at is gone, and nothing else is. -/
inductive RemovesNamed
    (field : String)
    (content changed : Json) :
    Prop where
  | nothing
      (unresolved : content.pointer? field = none)
      (same : changed = content)
  | member
      {way : List String}
      {key : String}
      {members kept : Record Json}
      {value : Json}
      (isField : Json.Pointer.keys? field = some (way ++ [key]))
      (resolved : content.pointer? field = some value)
      (held : content.at? way = some (.object members))
      (holds : changed.at? way = some (.object kept))
      (gone : kept.get? key = none)
      (others : ∀ other, key ≠ other → kept.get? other = members.get? other)
      (elsewhere : SameApart way content changed)
  | item
      {way : List String}
      {key : String}
      {items : List Json}
      {index : Nat}
      {value : Json}
      (isField : Json.Pointer.keys? field = some (way ++ [key]))
      (resolved : content.pointer? field = some value)
      (held : content.at? way = some (.array items))
      (isItem : key = toString index ∧ items[index]? = some value)
      (holds :
        changed.at? way =
          some (.array (items.take index ++ items.drop (index + 1))))
      (elsewhere : SameApart way content changed)

/-- A field leads to an item, by a numeral that is not how its index is written. -/
structure LooseIndex
    (field : String)
    (content : Json)
    (way : List String)
    (items : List Json)
    (index : Nat) :
    Prop where
  leads :
    ∃ key,
      Json.Pointer.keys? field = some (way ++ [key]) ∧
        Text.unsigned? Text.limit64 key = some index ∧
        key ≠ toString index
  holds : content.at? way = some (.array items)
  inside : index < items.length

variable {operation : PatchOperation} {content changed : Json}

/-- The keys before the last one, and the last one, are those of the field. -/
theorem field_unique
    {field : String}
    {way other : List String}
    {key otherKey : String}
    (isField : Json.Pointer.keys? field = some (way ++ [key]))
    (isOther : Json.Pointer.keys? field = some (other ++ [otherKey])) :
    way = other ∧ key = otherKey := by
  obtain ⟨sameWay, sameLast⟩ :=
    List.append_inj' (Option.some.inj (isField.symm.trans isOther)) rfl
  exact ⟨sameWay, List.singleton_inj.mp sameLast⟩

theorem LooseIndex.unresolved
    {field : String}
    {way : List String}
    {items : List Json}
    {index : Nat}
    (loose : LooseIndex field content way items index) :
    content.pointer? field = none := by
  obtain ⟨key, isField, reads, differs⟩ := loose.leads
  rw [pointer?_of_field isField loose.holds, Json.child?]
  split
  · rename_i place isPlace
    have samePlace :=
      (Json.Pointer.unsigned?_of_index? isPlace).symm.trans reads
    cases samePlace
    exact absurd (Json.Pointer.index?_eq_some_iff.mp isPlace).1 differs
  · rfl

/-! ## The two kinds of parents -/

theorem sameApart_setAt
    (way : List String)
    (content replacement : Json) :
    SameApart way content (content.setAt way replacement) :=
  fun _ apart => Json.at?_setAt_of_apart content replacement apart

theorem removesNamed_of_object
    (wellFormed : content.WellFormed)
    {field : String}
    {way : List String}
    {key : String}
    {members : Record Json}
    (isField : Json.Pointer.keys? field = some (way ++ [key]))
    (held : content.at? way = some (.object members)) :
    RemovesNamed field content
      (content.setAt way (.object (members.erase key))) := by
  have sorted := (wellFormed.place held).sorted
  have points := pointer?_of_field isField held
  cases found : members.get? key with
  | none =>
      refine .nothing (points.trans found) ?_
      rw [Record.erase_eq_self found]
      exact wellFormed.setAt_same held
  | some value =>
      exact
        .member isField (points.trans found) held
          (Json.at?_setAt_self held _) (sorted.get?_erase_self key)
          (fun other differs => Record.get?_erase_of_ne members differs)
          (sameApart_setAt way content _)

theorem removesNamed_of_array
    (wellFormed : content.WellFormed)
    {field : String}
    {way : List String}
    {key : String}
    {items : List Json}
    {index : Nat}
    (isField : Json.Pointer.keys? field = some (way ++ [key]))
    (held : content.at? way = some (.array items))
    (reads : Text.unsigned? Text.limit64 key = some index)
    (asWritten : index < items.length → key = toString index) :
    RemovesNamed field content
      (content.setAt way (.array (items.eraseIdx index))) := by
  have points := pointer?_of_field isField held
  by_cases inside : index < items.length
  · have isIndex : Json.Pointer.index? key = some index :=
      Json.Pointer.index?_eq_some_iff.mpr
        ⟨asWritten inside, Text.lt_of_unsigned? reads⟩
    have isItem : items[index]? = some items[index] :=
      List.getElem?_eq_getElem inside
    have resolved : content.pointer? field = some items[index] := by
      rw [points, Json.child?, isIndex]
      exact isItem
    refine
      .item isField resolved held ⟨asWritten inside, isItem⟩ ?_
        (sameApart_setAt way content _)
    rw [Json.at?_setAt_self held, List.eraseIdx_eq_take_drop_succ]
  · refine .nothing ?_ ?_
    · rw [points, Json.child?]
      split
      · rename_i place isPlace
        have samePlace :=
          (Json.Pointer.unsigned?_of_index? isPlace).symm.trans reads
        cases samePlace
        exact List.getElem?_eq_none (Nat.le_of_not_lt inside)
      · rfl
    · rw [List.eraseIdx_of_length_le (Nat.le_of_not_lt inside)]
      exact wellFormed.setAt_same held

/-- A removal that is carried out removes from an object or from an array. -/
theorem parent_of_removal
    (removes : operation.verb = .remove)
    (applied : operation.apply content = .ok changed) :
    ∃ way key,
      Json.Pointer.keys? operation.field = some (way ++ [key]) ∧
        ((∃ members,
            content.at? way = some (.object members) ∧
              changed =
                content.setAt way (.object (Record.erase members key))) ∨
          ∃ items index,
            content.at? way = some (.array items) ∧
              Text.unsigned? Text.limit64 key = some index ∧
              changed = content.setAt way (.array (items.eraseIdx index))) := by
  obtain ⟨way, key, parent, replacement, isField, held, changes, rfl⟩ :=
    exists_field_of_apply applied
  refine ⟨way, key, isField, ?_⟩
  cases parent with
  | object members =>
      simp only [change, removes, Except.ok.injEq] at changes
      exact .inl ⟨members, held, by rw [changes]⟩
  | array items =>
      simp only [change, removes] at changes
      obtain ⟨fewer, isFewer, rfl⟩ := Name.map_eq_ok_iff.mp changes
      unfold removeItem at isFewer
      split at isFewer
      · rename_i index reads
        cases isFewer
        exact .inr ⟨items, index, held, reads, rfl⟩
      · cases isFewer
  | _ =>
      simp only [change, removes, isStored] at changes
      cases changes

/-- The item that the last key reads as is taken from an array. -/
theorem apply_of_item
    (removes : operation.verb = .remove)
    {way : List String}
    {key : String}
    {items : List Json}
    {index : Nat}
    (isField : Json.Pointer.keys? operation.field = some (way ++ [key]))
    (held : content.at? way = some (.array items))
    (reads : Text.unsigned? Text.limit64 key = some index) :
    operation.apply content =
      .ok (content.setAt way (.array (items.eraseIdx index))) := by
  rw [apply_of_field isField held]
  simp only [change, removes, removeItem, reads]
  rfl

/-! ## Loosely written indices -/

namespace LooseIndex

variable {way : List String} {items : List Json} {index : Nat}

theorem changed_at
    (loose : LooseIndex operation.field content way items index)
    (removes : operation.verb = .remove)
    (applied : operation.apply content = .ok changed) :
    changed.at? way = some (.array (items.eraseIdx index)) ∧
      SameApart way content changed := by
  obtain ⟨key, isField, reads, -⟩ := loose.leads
  obtain ⟨_, _, isSame, parents⟩ := parent_of_removal removes applied
  obtain ⟨rfl, rfl⟩ := field_unique isField isSame
  rcases parents with ⟨members, held, rfl⟩ | ⟨others, place, held, readsSo, rfl⟩
  · cases loose.holds.symm.trans held
  · cases loose.holds.symm.trans held
    cases reads.symm.trans readsSo
    exact ⟨Json.at?_setAt_self held _, sameApart_setAt way content _⟩

/-- An item that goes although the field points at nothing goes unnamed. -/
theorem not_removesNamed
    {field : String}
    (loose : LooseIndex field content way items index)
    (isChanged : changed.at? way = some (.array (items.eraseIdx index))) :
    ¬ RemovesNamed field content changed := by
  intro removesNamed
  cases removesNamed with
  | nothing unresolved same =>
      rw [same, loose.holds] at isChanged
      have sameItems : items = items.eraseIdx index := by
        simpa using isChanged
      have oneLess := List.length_eraseIdx_of_lt loose.inside
      have inside := loose.inside
      rw [← sameItems] at oneLess
      omega
  | member isField resolved =>
      cases loose.unresolved.symm.trans resolved
  | item isField resolved =>
      cases loose.unresolved.symm.trans resolved

end LooseIndex

/--
A removal that is carried out takes away what its field points at and nothing
else, unless the field spells the index of an item otherwise than indices are
written: then it points at nothing, and that item is taken away.
-/
theorem removes_named_iff
    (removes : operation.verb = .remove)
    (wellFormed : content.WellFormed)
    (applied : operation.apply content = .ok changed) :
    (RemovesNamed operation.field content changed ↔
        ¬ ∃ way items index,
          LooseIndex operation.field content way items index) ∧
      ∀ {way items index},
        LooseIndex operation.field content way items index →
          content.pointer? operation.field = none ∧
            changed.at? way = some (.array (items.eraseIdx index)) ∧
            SameApart way content changed := by
  refine
    ⟨⟨?_, ?_⟩, fun loose =>
      ⟨loose.unresolved, loose.changed_at removes applied⟩⟩
  · rintro removesNamed ⟨way, items, index, loose⟩
    exact
      loose.not_removesNamed (loose.changed_at removes applied).1 removesNamed
  · intro neverLoose
    obtain ⟨way, key, isField, parents⟩ := parent_of_removal removes applied
    rcases parents with ⟨members, held, rfl⟩ | ⟨items, index, held, reads, rfl⟩
    · exact removesNamed_of_object wellFormed isField held
    · refine removesNamed_of_array wellFormed isField held reads fun inside => ?_
      by_contra differs
      exact neverLoose
        ⟨way, items, index, ⟨key, isField, reads, differs⟩, held, inside⟩

/-- With one zero too many in front, the field points at nothing and an item goes. -/
theorem removes_item_that_is_not_named :
    let operation : PatchOperation := ⟨.remove, "/tags/01", none, none⟩
    let content : Json :=
      .object [("tags", .array [.string "a", .string "b"])]
    let changed : Json := .object [("tags", .array [.string "a"])]
    operation.Made ∧
      content.WellFormed ∧
      content.pointer? operation.field = none ∧
      operation.apply content = .ok changed ∧
      ¬ RemovesNamed operation.field content changed := by
  intro operation content changed
  have made : operation.Made :=
    ⟨.remove, "/tags/01", none, none, by cbv⟩
  have wellFormed : content.WellFormed :=
    .cons (by decide)
      (.array
        (List.forall_mem_cons.mpr
          ⟨.string "a", List.forall_mem_singleton.mpr (.string "b")⟩))
      .noMembers
  have isField :
      Json.Pointer.keys? operation.field = some (["tags"] ++ ["01"]) := by
    cbv
  have held :
      content.at? ["tags"] = some (.array [.string "a", .string "b"]) := by
    cbv
  have reads : Text.unsigned? Text.limit64 "01" = some 1 :=
    Text.unsigned?_of_digits? (by decide) (by decide) Text.one_lt_limit64
  have applied : operation.apply content = .ok changed :=
    apply_of_item rfl isField held reads
  have loose :
      LooseIndex operation.field content ["tags"]
        [.string "a", .string "b"] 1 :=
    ⟨⟨"01", isField, reads, by decide⟩, held, by decide⟩
  exact
    ⟨made, wellFormed, loose.unresolved, applied,
      loose.not_removesNamed (loose.changed_at rfl applied).1⟩

/-- An item whose index is written as indices are is the one that goes. -/
theorem removes_named_of_second :
    let operation : PatchOperation := ⟨.remove, "/tags/1", none, none⟩
    let content : Json :=
      .object [("tags", .array [.string "a", .string "b"])]
    let changed : Json := .object [("tags", .array [.string "a"])]
    operation.verb = .remove ∧
      content.WellFormed ∧
      operation.apply content = .ok changed ∧
      RemovesNamed operation.field content changed := by
  intro operation content changed
  have wellFormed : content.WellFormed :=
    .cons (by decide)
      (.array
        (List.forall_mem_cons.mpr
          ⟨.string "a", List.forall_mem_singleton.mpr (.string "b")⟩))
      .noMembers
  have isField :
      Json.Pointer.keys? operation.field = some (["tags"] ++ ["1"]) := by
    cbv
  have held :
      content.at? ["tags"] = some (.array [.string "a", .string "b"]) := by
    cbv
  have isOne : Text.unsigned? Text.limit64 "1" = some 1 :=
    Text.unsigned?_toString Text.one_lt_limit64
  have applied : operation.apply content = .ok changed :=
    apply_of_item rfl isField held isOne
  refine
    ⟨rfl, wellFormed, applied,
      (removes_named_iff rfl wellFormed applied).1.mpr ?_⟩
  rintro ⟨way, items, index, ⟨key, isKey, reads, differs⟩, holds, inside⟩
  obtain ⟨rfl, rfl⟩ := field_unique isField isKey
  cases isOne.symm.trans reads
  exact differs (by decide)

end ResourceServer.PatchOperation
