namespace ResourceServer.Text

/-!
# Decimal numerals

Versions, page sizes, cookies and indices are written as unsigned
decimal numerals, with any number of leading zeros.
-/

/-- The value of an ASCII decimal digit. -/
def digitValue? (char : Char) : Option Nat :=
  if '0' ≤ char ∧ char ≤ '9' then
    some (char.toNat - 48)
  else
    none

/-- The value of digits read after a number with value `value`. -/
def continueDigits? (value : Nat) : List Char → Option Nat
  | [] => some value
  | char :: rest =>
      match digitValue? char with
      | some digit => continueDigits? (10 * value + digit) rest
      | none => none

/-- The value of a sequence of one or more decimal digits. -/
def digits? : List Char → Option Nat
  | [] => none
  | chars => continueDigits? 0 chars

/-- The numbers that can be read as a page size or as a part of a version. -/
def limit32 : Nat := Nat.pow 2 32

/-- The numbers that can be read as a cookie or as an index. -/
def limit64 : Nat := Nat.pow 2 64

/-- The sizes of the integers that fit sixty-four bits with a sign. -/
def signedLimit64 : Nat := Nat.pow 2 63

/--
The value of an unsigned numeral below `limit`.

One plus sign may stand before the digits.
-/
def unsigned? (limit : Nat) (text : String) : Option Nat :=
  let chars :=
    match text.toList with
    | '+' :: rest => rest
    | chars => chars
  match digits? chars with
  | some value => if value < limit then some value else none
  | none => none

end ResourceServer.Text
