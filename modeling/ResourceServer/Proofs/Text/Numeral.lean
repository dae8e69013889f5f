import ResourceServer.Text.Digits

namespace ResourceServer.Text

/-!
# Numerals read back

The decimal numeral of a number reads as that number wherever it is within the
limit of the reader, so different numbers have different numerals. Digits that
do not begin with a zero are the numeral of the number that they read as.
-/

theorem digitValue?_of_isDigit
    {char : Char}
    (isDigit : char.isDigit = true) :
    digitValue? char = some (char.toNat - 48) := by
  have inRange : '0' ≤ char ∧ char ≤ '9' := by
    simp only [Char.isDigit, Bool.and_eq_true, decide_eq_true_eq] at isDigit
    exact isDigit
  exact if_pos inRange

/-- Decimal digits are read as the number they write. -/
theorem continueDigits?_of_digits
    {chars : List Char}
    (allDigits : ∀ char ∈ chars, char.isDigit = true)
    (value : Nat) :
    continueDigits? value chars = some (Nat.ofDigitChars 10 chars value) := by
  induction chars generalizing value with
  | nil =>
      rw [Nat.ofDigitChars_nil]
      rfl
  | cons char rest inductionHypothesis =>
      have isDigit := allDigits char List.mem_cons_self
      have restDigits :
          ∀ char ∈ rest, char.isDigit = true := by
        intro later member
        exact allDigits later (List.mem_cons_of_mem char member)
      rw [continueDigits?, digitValue?_of_isDigit isDigit,
        Nat.ofDigitChars_cons]
      exact inductionHypothesis restDigits _

/-- Where no sign comes first, the digits decide. -/
theorem unsigned?_of_digits?
    {limit value : Nat}
    {first : Char}
    {rest : List Char}
    (notSign : first ≠ '+')
    (reads : digits? (first :: rest) = some value)
    (isBelow : value < limit) :
    unsigned? limit (String.ofList (first :: rest)) = some value := by
  rw [unsigned?, String.toList_ofList]
  split
  · rename_i found
    split at found
    · rename_i isSign
      exact absurd (List.cons.inj isSign).1 notSign
    · cases reads.symm.trans found
      exact if_pos isBelow
  · rename_i missing
    split at missing
    · rename_i isSign
      exact absurd (List.cons.inj isSign).1 notSign
    · cases reads.symm.trans missing

/-- A number within the limit is read back from its numeral. -/
theorem unsigned?_toString
    {limit value : Nat}
    (isBelow : value < limit) :
    unsigned? limit (toString value) = some value := by
  have allDigits : ∀ char ∈ Nat.toDigits 10 value, char.isDigit = true :=
    fun char member =>
      Nat.isDigit_of_mem_toDigits (by decide) (by decide) member
  have readsBack := continueDigits?_of_digits allDigits 0
  rw [Nat.ofDigitChars_ten_toDigits] at readsBack
  rw [Nat.toString_eq_ofList_toDigits]
  cases written : Nat.toDigits 10 value with
  | nil =>
      exact absurd written Nat.toDigits_ne_nil
  | cons first rest =>
      rw [written] at allDigits readsBack
      have notSign : first ≠ '+' := by
        rintro rfl
        exact absurd (allDigits '+' List.mem_cons_self) (by decide)
      exact unsigned?_of_digits? notSign readsBack isBelow

theorem one_lt_limit64 : 1 < limit64 :=
  Nat.one_lt_two_pow (by decide)

/-- Only numbers within the limit are read. -/
theorem lt_of_unsigned?
    {limit value : Nat}
    {text : String}
    (reads : unsigned? limit text = some value) :
    value < limit := by
  unfold unsigned? at reads
  dsimp only at reads
  split at reads
  · split at reads
    · rename_i isBelow
      cases reads
      exact isBelow
    · cases reads
  · cases reads

theorem toString_injective
    {left right : Nat}
    (sameNumeral : toString left = toString right) :
    left = right := by
  have leftReads : unsigned? (left + right + 1) (toString left) = some left :=
    unsigned?_toString (by omega)
  have rightReads : unsigned? (left + right + 1) (toString right) = some right :=
    unsigned?_toString (by omega)
  rw [sameNumeral, rightReads] at leftReads
  exact (Option.some.inj leftReads).symm

/-- No numeral is this text, unless the text reads as a number. -/
theorem toString_ne_of_unreadable
    {text : String}
    (value : Nat)
    (unreadable : ∀ limit, unsigned? limit text = none) :
    toString value ≠ text := by
  rintro rfl
  have readsBack : unsigned? (value + 1) (toString value) = some value :=
    unsigned?_toString (Nat.lt_succ_self value)
  rw [unreadable] at readsBack
  cases readsBack

/-! ## Numerals without leading zeros -/

theorem digitValue?_eq_some
    {char : Char}
    {digit : Nat}
    (reads : digitValue? char = some digit) :
    digit < 10 ∧ Nat.toDigits 10 digit = [char] := by
  unfold digitValue? at reads
  split at reads
  · rename_i inRange
    cases reads
    have bounds : 48 ≤ char.toNat ∧ char.toNat ≤ 57 := inRange
    have isSmall : char.toNat - 48 < 10 := by omega
    refine ⟨isSmall, ?_⟩
    rw [Nat.toDigits_of_lt_base isSmall]
    have sameCode : (Nat.digitChar (char.toNat - 48)).toNat = char.toNat := by
      rw [Nat.toNat_digitChar_of_lt_ten isSmall]
      omega
    rw [Char.toNat_inj.mp sameCode]
  · cases reads

/-- Digits continue the numeral of a positive number. -/
theorem toDigits_of_continueDigits?
    {chars : List Char}
    {value total : Nat}
    (isPositive : 0 < value)
    (reads : continueDigits? value chars = some total) :
    Nat.toDigits 10 total = Nat.toDigits 10 value ++ chars := by
  induction chars generalizing value with
  | nil =>
      cases reads
      rw [List.append_nil]
  | cons char rest inductionHypothesis =>
      rw [continueDigits?] at reads
      split at reads
      · rename_i digit isDigit
        obtain ⟨isSmall, isChar⟩ := digitValue?_eq_some isDigit
        rw [inductionHypothesis (by omega) reads,
          ← Nat.toDigits_append_toDigits (by decide) isPositive isSmall,
          isChar, List.append_assoc, List.singleton_append]
      · cases reads

/-- The numeral of a positive number does not begin with a zero. -/
theorem head_toDigits_ne_zero
    {value : Nat}
    (isPositive : 0 < value)
    (rest : List Char) :
    Nat.toDigits 10 value ≠ '0' :: rest := by
  induction value using Nat.strongRecOn generalizing rest with
  | ind value inductionHypothesis =>
      intro beginsWithZero
      by_cases isSmall : value < 10
      · rw [Nat.toDigits_of_lt_base isSmall] at beginsWithZero
        have isZero := (List.cons.inj beginsWithZero).1
        have code : '0'.toNat = 48 + value := by
          rw [← isZero]
          exact Nat.toNat_digitChar_of_lt_ten isSmall
        have zeroCode : '0'.toNat = 48 := rfl
        omega
      · rw [Nat.toDigits_of_base_le (by decide) (by omega)] at beginsWithZero
        have shorter : 0 < value / 10 := by omega
        cases written : Nat.toDigits 10 (value / 10) with
        | nil =>
            exact Nat.toDigits_ne_nil written
        | cons first others =>
            rw [written] at beginsWithZero
            have isZero := (List.cons.inj beginsWithZero).1
            subst isZero
            exact
              inductionHypothesis (value / 10) (by omega) shorter others
                written

/-- Where no zero comes first, digits are the numeral of what they read as. -/
theorem eq_toString_of_digits?
    {text : String}
    {value : Nat}
    (unpadded : ∀ second rest, text.toList ≠ '0' :: second :: rest)
    (reads : digits? text.toList = some value) :
    text = toString value := by
  rw [← String.toList_inj, Nat.toString_eq_ofList_toDigits,
    String.toList_ofList]
  cases chars : text.toList with
  | nil =>
      rw [chars] at reads
      cases reads
  | cons first rest =>
      rw [chars] at reads
      simp only [digits?, continueDigits?, Nat.mul_zero, Nat.zero_add] at reads
      split at reads
      · rename_i digit isDigit
        obtain ⟨-, isFirst⟩ := digitValue?_eq_some isDigit
        cases digit with
        | zero =>
            cases rest with
            | nil =>
                cases reads
                exact isFirst.symm
            | cons second others =>
                cases isFirst
                exact absurd chars (unpadded second others)
        | succ smaller =>
            rw [toDigits_of_continueDigits? (Nat.succ_pos smaller) reads,
              isFirst]
            rfl
      · cases reads

theorem digits?_of_unsigned?
    {limit value : Nat}
    {text : String}
    (unsigned : ∀ rest, text.toList ≠ '+' :: rest)
    (reads : unsigned? limit text = some value) :
    digits? text.toList = some value := by
  unfold unsigned? at reads
  dsimp only at reads
  split at reads
  · rename_i found
    split at reads
    · cases reads
      split at found
      · rename_i rest isSigned
        exact absurd isSigned (unsigned rest)
      · exact found
    · cases reads
  · cases reads

end ResourceServer.Text
