namespace ResourceServer.Text

/-!
# Letter case

Names, kinds, header names and language tags are compared without regard to
the case of the ASCII letters. Other letters keep their case.
-/

/-- The text with its ASCII capitals made small. -/
def fold (text : String) : String :=
  String.ofList (text.toList.map Char.toLower)

/-- The text with its small ASCII letters made capital. -/
def capitals (text : String) : String :=
  String.ofList (text.toList.map Char.toUpper)

/-- Whether two texts differ at most in the case of ASCII letters. -/
def sameFold (left right : String) : Bool :=
  fold left == fold right

/-- A character that is no capital stays as it is. -/
theorem toLower_of_not_capital
    {char : Char}
    (notCapital : ¬ (65 ≤ char.val ∧ char.val ≤ 90)) :
    char.toLower = char := by
  delta Char.toLower
  exact dif_neg notCapital

/-- Small letters stand thirty-two places after the capitals. -/
theorem val_toLower_of_capital
    {char : Char}
    (capital : 65 ≤ char.val ∧ char.val ≤ 90) :
    char.toLower.val = char.val + 32 := by
  delta Char.toLower
  exact congrArg Char.val (dif_pos capital)

/-- Making a capital small twice is making it small once. -/
theorem toLower_toLower
    (char : Char) :
    char.toLower.toLower = char.toLower := by
  apply toLower_of_not_capital
  by_cases capital : 65 ≤ char.val ∧ char.val ≤ 90
  · rw [val_toLower_of_capital capital]
    simp only [UInt32.le_iff_toNat_le, UInt32.toNat_add] at capital ⊢
    simp only [UInt32.reduceToNat] at capital ⊢
    omega
  · rw [toLower_of_not_capital capital]
    exact capital

/-- Folding a folded text changes nothing. -/
@[simp] theorem fold_fold
    (text : String) :
    fold (fold text) = fold text := by
  simp only [fold, String.toList_ofList, List.map_map]
  congr 1
  apply List.map_congr_left
  intro char _
  exact toLower_toLower char

end ResourceServer.Text
