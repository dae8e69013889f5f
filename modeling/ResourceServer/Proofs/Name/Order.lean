import ResourceServer.Proofs.Name.RoundTrip

namespace ResourceServer.Name

/-!
# The order of names

Names are in a total order, element by element and byte by byte without regard
to the case of the ASCII letters. Names that compare equal are the same name,
and these are the names with the same canonical path: a slash or a percent sign
inside an element never makes it collide with other elements.
-/

theorem compare_eq_compare_key
    (left right : Name) :
    compare left right = compare left.key right.key :=
  rfl

theorem key_slice
    (name : Name)
    (first last : Nat) :
    (name.slice first last).key = (name.key.take last).drop first := by
  simp only [key, slice, List.map_drop, List.map_take]

instance : Std.TransOrd Name where
  eq_swap := by
    intro left right
    rw [compare_eq_compare_key, compare_eq_compare_key]
    exact Std.OrientedOrd.eq_swap
  isLE_trans := by
    intro first second third firstSecond secondThird
    rw [compare_eq_compare_key] at firstSecond secondThird ⊢
    exact Std.TransOrd.isLE_trans firstSecond secondThird

theorem compare_eq_eq_iff_key
    {left right : Name} :
    compare left right = .eq ↔ left.key = right.key := by
  rw [compare_eq_compare_key]
  exact Std.LawfulEqOrd.compare_eq_iff_eq

theorem same_iff_key
    {left right : Name} :
    left.same right = true ↔ left.key = right.key := by
  simp [same]

/-- Canonical paths tell names apart exactly as folded elements do. -/
theorem canonical_eq_iff_key
    {left right : Name} :
    left.canonical = right.canonical ↔ left.key = right.key := by
  rw [canonical_eq_display_folded, canonical_eq_display_folded]
  constructor
  · intro displayedAlike
    exact congrArg elements (display_injective displayedAlike)
  · intro sameKey
    simp only [folded, sameKey]

/-- The elements agree in pairs when the folded elements are the same. -/
theorem forall₂_fold_iff_key
    {left right : Name} :
    List.Forall₂ (fun first second => Text.fold first = Text.fold second)
        left.elements right.elements ↔
      left.key = right.key := by
  rw [key, key, ← List.forall₂_eq_eq_eq, List.forall₂_map_left_iff,
    List.forall₂_map_right_iff]

/-! ## Byte order -/

/-- The bytes of the elements, with the ASCII capitals made small. -/
def foldedBytes (name : Name) : List (List UInt8) :=
  name.elements.map fun element =>
    (Text.bytes element).map Text.foldByte

/-- Lists of texts compare as the lists of their bytes do. -/
theorem compare_map_bytes
    (left right : List String) :
    compare (left.map Text.bytes) (right.map Text.bytes) =
      compare left right := by
  induction left generalizing right with
  | nil =>
      cases right with
      | nil =>
          rfl
      | cons first rest =>
          rfl
  | cons first rest inductionHypothesis =>
      cases right with
      | nil =>
          rfl
      | cons second others =>
          simp only [List.map_cons, List.compare_cons_cons,
            Text.compare_bytes, inductionHypothesis]

/-- Names compare as their folded bytes do. -/
theorem compare_eq_compare_foldedBytes
    (left right : Name) :
    compare left right = compare left.foldedBytes right.foldedBytes := by
  have bytesOfKey :
      ∀ name : Name, name.foldedBytes = name.key.map Text.bytes := by
    intro name
    simp only [foldedBytes, key, List.map_map]
    exact List.map_congr_left fun element _ => (Text.bytes_fold element).symm
  rw [bytesOfKey, bytesOfKey, compare_map_bytes, compare_eq_compare_key]

/--
Comparing names byte by byte is a total order, and comparing equal, being the
same name, having the same canonical path and agreeing element by element but
for the case of ASCII letters are one and the same.
-/
theorem compare_is_total_order
    (first second third : Name) :
    compare first second = compare first.foldedBytes second.foldedBytes ∧
      compare first second = (compare second first).swap ∧
      ((compare first second).isLE →
        (compare second third).isLE →
        (compare first third).isLE) ∧
      (compare first second = .lt →
        compare second third = .lt →
        compare first third = .lt) ∧
      (compare first second = .eq ↔ first.same second = true) ∧
      (first.same second = true ↔ first.canonical = second.canonical) ∧
      (first.canonical = second.canonical ↔
        first.size = second.size ∧
          List.Forall₂ (fun left right => Text.fold left = Text.fold right)
            first.elements second.elements) := by
  refine
    ⟨compare_eq_compare_foldedBytes first second, Std.OrientedOrd.eq_swap,
      Std.TransOrd.isLE_trans, Std.TransCmp.lt_trans, ?_, ?_, ?_⟩
  · rw [compare_eq_eq_iff_key, same_iff_key]
  · rw [same_iff_key, canonical_eq_iff_key]
  · rw [canonical_eq_iff_key, ← forall₂_fold_iff_key]
    constructor
    · intro agree
      exact ⟨agree.length_eq, agree⟩
    · rintro ⟨-, agree⟩
      exact agree

end ResourceServer.Name
