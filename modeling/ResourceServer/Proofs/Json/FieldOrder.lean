import ResourceServer.Store.Order

namespace ResourceServer.Json

/-!
# The order of fields

Numbers, texts and truth values each compare in an order of their own, and
values of different kinds by their JSON text. These orders fit together because
the first character tells the kinds apart: a text opens with a quote, a number
with a sign or a digit, and any other value with a bracket, a brace or a letter,
which stand in this order among the characters.
-/

/-- Where a value stands among values of other kinds. -/
def standing : Json → Nat
  | .string _ => 0
  | .number _ => 1
  | _ => 2

/-! ## First characters -/

/-- The standing of the values whose JSON text opens with a character. -/
def standingOf (opening : Char) : Nat :=
  if opening.toNat < '-'.toNat then
    0
  else if opening.toNat ≤ '9'.toNat then
    1
  else
    2

/-- The characters open with one of this standing. -/
def Opens
    (standing : Nat)
    (chars : List Char) : Prop :=
  ∃ opening rest,
    chars = opening :: rest ∧ standingOf opening = standing

theorem standingOf_of_isDigit
    {char : Char}
    (isDigit : char.isDigit = true) :
    standingOf char = 1 := by
  obtain ⟨atLeast, atMost⟩ := Char.isDigit_iff_toNat.mp isDigit
  have notBelow : ¬ char.toNat < '-'.toNat :=
    Nat.not_lt_of_le (Nat.le_trans (by decide) atLeast)
  rw [standingOf, if_neg notBelow, if_pos atMost]

theorem Opens.of_digits
    {digits : List Char}
    (notEmpty : digits ≠ [])
    (areDigits : ∀ char ∈ digits, char.isDigit = true)
    (suffix : List Char) :
    Opens 1 (digits ++ suffix) := by
  cases digits with
  | nil =>
      exact absurd rfl notEmpty
  | cons first rest =>
      have isDigit := areDigits first List.mem_cons_self
      exact ⟨first, rest ++ suffix, rfl, standingOf_of_isDigit isDigit⟩

/-- A text that opens with a character of a lower standing comes first. -/
theorem compare_of_opens
    {first second : Nat}
    {left right : String}
    (leftOpens : Opens first left.toList)
    (rightOpens : Opens second right.toList)
    (isEarlier : first < second) :
    compare left right = .lt := by
  obtain ⟨opening, rest, leftWritten, rfl⟩ := leftOpens
  obtain ⟨other, others, rightWritten, rfl⟩ := rightOpens
  have precedes : opening.toNat < other.toNat := by
    refine Nat.lt_of_not_le fun notBefore => ?_
    unfold standingOf at isEarlier
    repeat' split at isEarlier
    all_goals omega
  apply compareOfLessAndEq_eq_lt.mpr
  show left.toList < right.toList
  rw [leftWritten, rightWritten]
  exact .rel precedes

namespace Number

theorem repr_digits
    (value : Nat) :
    (Nat.repr value).toList ≠ [] ∧
      ∀ char ∈ (Nat.repr value).toList, char.isDigit = true := by
  rw [Nat.repr_eq_ofList_toDigits, String.toList_ofList]
  refine ⟨Nat.toDigits_ne_nil, ?_⟩
  intro char member
  exact Nat.isDigit_of_mem_toDigits (by decide) (by decide) member

/-- A positive decimal opens with its first digit or with a zero. -/
theorem decimalText_opens
    (decimal : Decimal) :
    Opens 1 (decimalText decimal).toList := by
  obtain ⟨notEmpty, areDigits⟩ := repr_digits decimal.digits
  unfold decimalText
  simp only [String.toList_ofList]
  generalize (Nat.repr decimal.digits).toList = digits at *
  split
  · split
    · rw [List.append_assoc]
      exact .of_digits notEmpty areDigits _
    · split
      · refine .of_digits ?_ ?_ _
        · rw [ne_eq, List.take_eq_nil_iff]
          simp only [Nat.succ_ne_zero, notEmpty, or_self, not_false_eq_true]
        · intro char member
          exact areDigits char (List.mem_of_mem_take member)
      · exact ⟨'0', _, rfl, rfl⟩
  · split
    · rename_i first second rest _
      have isDigit := areDigits first List.mem_cons_self
      exact ⟨first, _, rfl, standingOf_of_isDigit isDigit⟩
    · exact .of_digits notEmpty areDigits _

theorem text_opens
    (number : Number) :
    Opens 1 number.text.toList := by
  cases number with
  | integer value =>
      rw [text, Int.toString_eq_repr, Int.repr_eq_if]
      split
      · obtain ⟨notEmpty, areDigits⟩ := repr_digits value.toNat
        rw [← List.append_nil (Nat.repr value.toNat).toList]
        exact .of_digits notEmpty areDigits []
      · exact ⟨'-', _, String.toList_append, rfl⟩
  | float value =>
      rw [text, String.toList_append]
      split
      · exact ⟨'-', _, rfl, rfl⟩
      · exact decimalText_opens value.shortest

end Number

/-- The JSON text of a value opens with a character of its standing. -/
theorem compact_opens
    (value : Json) :
    Opens value.standing value.compact.toList := by
  cases value with
  | null =>
      exact ⟨'n', _, rfl, rfl⟩
  | bool value =>
      cases value with
      | true => exact ⟨'t', _, rfl, rfl⟩
      | false => exact ⟨'f', _, rfl, rfl⟩
  | number value =>
      rw [compact]
      exact value.text_opens
  | string text =>
      rw [compact, quote, String.toList_ofList]
      exact ⟨'"', _, rfl, rfl⟩
  | array items =>
      rw [compact, String.append_assoc, String.toList_append]
      exact ⟨'[', _, rfl, rfl⟩
  | object members =>
      rw [compact, String.append_assoc, String.toList_append]
      exact ⟨'{', _, rfl, rfl⟩

/-- JSON texts of values of different kinds compare as the kinds stand. -/
theorem compare_compact
    {left right : Json}
    (differ : left.standing ≠ right.standing) :
    compare left.compact right.compact =
      compare left.standing right.standing := by
  rcases Nat.lt_or_gt_of_ne differ with isEarlier | isLater
  · rw [compare_of_opens left.compact_opens right.compact_opens isEarlier,
      Nat.compare_eq_lt.mpr isEarlier]
  · have swapped :
        compare right.compact left.compact = .lt :=
      compare_of_opens right.compact_opens left.compact_opens isLater
    rw [Std.OrientedOrd.eq_swap, swapped, Nat.compare_eq_gt.mpr isLater]
    rfl

/-! ## Fields -/

/-- Where a field stands among fields of other kinds, a missing one last. -/
def fieldStanding : Option Json → Nat
  | some value => value.standing
  | none => 3

/-- The place of a number among numbers. -/
def numberKey : Option Json → Int
  | some (.number value) => value.toDouble.orderKey
  | _ => 0

/-- The text of a field that is not a number. -/
def textKey : Option Json → String
  | some (.string text) => text
  | some (.number _) => ""
  | some value => value.compact
  | none => ""

/-- Values of different kinds compare as the kinds stand. -/
theorem compareFields_of_standing_ne
    {left right : Json}
    (differ : left.standing ≠ right.standing) :
    compareFields (some left) (some right) =
      compare left.standing right.standing := by
  rw [← compare_compact differ]
  cases left <;> cases right <;> first | exact absurd rfl differ | rfl

/-- Values of one kind compare by their numbers and then by their texts. -/
theorem compareFields_of_standing_eq
    {left right : Json}
    (same : left.standing = right.standing) :
    compareFields (some left) (some right) =
      (compare (numberKey (some left)) (numberKey (some right))).then
        (compare (textKey (some left)) (textKey (some right))) := by
  cases left with
  | string text =>
      cases right with
      | string other => rfl
      | _ => cases same
  | number value =>
      cases right with
      | number other => exact Ordering.then_eq.symm
      | _ => cases same
  | bool value =>
      cases right with
      -- The words for truth values are in the order of the truth values.
      | bool other => cases value <;> cases other <;> rfl
      | string | number => cases same
      | _ => rfl
  | _ =>
      cases right with
      | string | number => cases same
      | _ => rfl

/-- Fields compare by their standing, their numbers and their texts in turn. -/
theorem compareFields_eq_compareLex :
    compareFields =
      compareLex (compareOn fieldStanding)
        (compareLex (compareOn numberKey) (compareOn textKey)) := by
  funext left right
  simp only [compareLex, compareOn]
  cases left with
  | none =>
      cases right with
      | none => rfl
      | some value => cases value <;> rfl
  | some value =>
      cases right with
      | none => cases value <;> rfl
      | some other =>
          by_cases same : value.standing = other.standing
          · rw [compareFields_of_standing_eq same]
            simp only [fieldStanding, same, Std.ReflOrd.compare_self,
              Ordering.then]
          · rw [compareFields_of_standing_ne same]
            simp only [fieldStanding]
            rcases Nat.lt_or_gt_of_ne same with isEarlier | isLater
            · rw [Nat.compare_eq_lt.mpr isEarlier]
              rfl
            · rw [Nat.compare_eq_gt.mpr isLater]
              rfl

-- A text comes before every number, even one that reads as a greater number.
example : compareFields (some (.string "2")) (some (ofInt 1)) = .lt := by
  decide

instance : Std.TransCmp compareFields := by
  rw [compareFields_eq_compareLex]
  infer_instance

end ResourceServer.Json
