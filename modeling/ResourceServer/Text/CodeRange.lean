namespace ResourceServer.Text

/-!
# Ranges of code points

Properties of characters are given as ascending lists of closed ranges of code
points.
-/

/-- The first and the last code point of a range. -/
abbrev CodeRange := Nat × Nat

/-- Whether a character lies in one of the ranges. -/
def inRanges (ranges : List CodeRange) (char : Char) : Bool :=
  ranges.any fun range => range.1 ≤ char.toNat && char.toNat ≤ range.2

end ResourceServer.Text
