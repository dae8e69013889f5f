import ResourceServer.Json.Basic
import ResourceServer.Number.Numeral
import ResourceServer.Text.Percent

namespace ResourceServer.Toml

/-!
# Numbers, dates and truth values of TOML texts

A scalar is a word. Underscores may stand between digits, never two together.
Dates and times are only checked: they become objects with a member that no
section of a configuration has.
-/

/-- Whether a character may belong to a scalar. -/
def isScalarChar (char : Char) : Bool :=
  char.isAlphanum || char == '_' || char == '-' || char == '+' ||
    char == '.' || char == ':'

/-- Digits without the underscores between them. -/
def ungroup? (isDigit : Char → Bool) : List Char → Option (List Char)
  | [] => none
  | [digit] => if isDigit digit then some [digit] else none
  | digit :: '_' :: rest =>
      if isDigit digit then
        (ungroup? isDigit rest).map fun digits => digit :: digits
      else
        none
  | digit :: rest =>
      if isDigit digit then
        (ungroup? isDigit rest).map fun digits => digit :: digits
      else
        none

/-- The value of digits of a radix with underscores between them. -/
def radixValue? (radix : Nat) (chars : List Char) : Option Nat :=
  let value? := fun char =>
    (Text.Percent.hexValue? char).filter fun digit => digit < radix
  (ungroup? (fun char => (value? char).isSome) chars).map fun digits =>
    digits.foldl (fun value char => radix * value + (value? char).getD 0) 0

/-- The value of decimal digits, which start with a zero only for zero. -/
def decimalValue? (chars : List Char) : Option Nat :=
  if chars.head? = some '0' ∧ chars ≠ ['0'] then none else radixValue? 10 chars

/-- The sign and the rest of a word. -/
def splitSign : List Char → Bool × List Char
  | '-' :: rest => (true, rest)
  | '+' :: rest => (false, rest)
  | chars => (false, chars)

/-- The value of an integer, before it is held against the limits. -/
def anyInteger? : List Char → Option Int
  | '0' :: 'x' :: digits => (radixValue? 16 digits).map Int.ofNat
  | '0' :: 'o' :: digits => (radixValue? 8 digits).map Int.ofNat
  | '0' :: 'b' :: digits => (radixValue? 2 digits).map Int.ofNat
  | word =>
      let (negative, digits) := splitSign word
      (decimalValue? digits).map fun value =>
        if negative then -(value : Int) else value

/-- The value of an integer of sixty-four bits. -/
def integer? (word : List Char) : Option Int :=
  (anyInteger? word).filter fun value =>
    -(Text.signedLimit64 : Int) ≤ value && value < Text.signedLimit64

/-- Whether a word is a number with a fraction, an exponent or both. -/
def isFloat (word : List Char) : Bool :=
  let isMark := fun char => char == 'e' || char == 'E'
  let unsigned := (splitSign word).2
  let mantissa := unsigned.takeWhile fun char => !isMark char
  let power := unsigned.dropWhile fun char => !isMark char
  let fraction := mantissa.dropWhile (· != '.')
  let areDigits := fun chars => (radixValue? 10 chars).isSome
  (decimalValue? (mantissa.takeWhile (· != '.'))).isSome &&
    (fraction.isEmpty || areDigits (fraction.drop 1)) &&
    (power.isEmpty || areDigits (splitSign (power.drop 1)).2) &&
    !(fraction.isEmpty && power.isEmpty)

/--
The value of a floating-point number.

One that is too great must be negative, or written as infinity.
-/
def float? (word : List Char) : Option (Binary .double) :=
  let unsigned := String.ofList (splitSign word).2
  if unsigned = "inf" ∨ unsigned = "nan" then
    Binary.numeral? (String.ofList word)
  else if isFloat word then
    (Binary.numeral? (String.ofList (word.filter (· != '_')))).filter fun value =>
      value.negative || value.isFinite
  else
    none

/-- Whether digits are as many as they should be and lie between bounds. -/
def isPart (width low high : Nat) (chars : List Char) : Bool :=
  chars.length == width &&
    ((Text.digits? chars).filter fun value => low ≤ value && value ≤ high).isSome

/-- How many days a month has. -/
def daysIn (year month : Nat) : Nat :=
  if month = 2 then
    if year % 4 = 0 ∧ (year % 100 ≠ 0 ∨ year % 400 = 0) then 29 else 28
  else if month = 4 ∨ month = 6 ∨ month = 9 ∨ month = 11 then
    30
  else
    31

/-- Whether a word is a date. -/
def isDate (word : List Char) : Bool :=
  match word.splitOn '-' with
  | [year, month, day] =>
      isPart 4 0 9999 year && isPart 2 1 12 month &&
        isPart 2 1
          (daysIn ((Text.digits? year).getD 0) ((Text.digits? month).getD 0)) day
  | _ => false

/-- Whether a word is a time of a day. -/
def isTime (word : List Char) : Bool :=
  match word.splitOn ':' with
  | [hour, minute, second] =>
      isPart 2 0 23 hour && isPart 2 0 59 minute &&
        isPart 2 0 60 (second.takeWhile (· != '.')) &&
        (match second.dropWhile (· != '.') with
          | [] => true
          | _ :: fraction => (Text.digits? fraction).isSome)
  | _ => false

/-- Whether a word is a distance from universal time, or nothing. -/
def isOffset (word : List Char) : Bool :=
  let isDistance := fun (chars : List Char) =>
    match chars.splitOn ':' with
    | [hour, minute] => isPart 2 0 23 hour && isPart 2 0 59 minute
    | _ => false
  match word with
  | [] => true
  | '+' :: distance => isDistance distance
  | '-' :: distance => isDistance distance
  | mark => mark == ['Z'] || mark == ['z']

/-- Whether a word is a time with or without an offset. -/
def isOffsetTime (word : List Char) : Bool :=
  let isTimeChar := fun char => char.isDigit || char == ':' || char == '.'
  isTime (word.takeWhile isTimeChar) && isOffset (word.dropWhile isTimeChar)

/-- Whether a word is a date, a time or both. -/
def isMoment (word : List Char) : Bool :=
  isTime word || isDate word ||
    (isDate (word.take 10) &&
      match word.drop 10 with
      | 'T' :: time => isOffsetTime time
      | 't' :: time => isOffsetTime time
      | _ => false)

/-- What a date or a time becomes. -/
def ofMoment (word : List Char) : Json :=
  Json.ofMembers [("$moment", .string (String.ofList word))]

/-- The value of a scalar. -/
def scalar? (word : List Char) : Option Json :=
  if word = ['t', 'r', 'u', 'e'] then some (.bool true)
  else if word = ['f', 'a', 'l', 's', 'e'] then some (.bool false)
  else if isMoment word then some (ofMoment word)
  else
    match integer? word with
    | some value => some (Json.ofInt value)
    | none => (float? word).map fun value => .number (.float value)

/-- The word of a scalar; one space may stand between a date and a time. -/
def takeScalar (chars : List Char) : List Char × List Char :=
  let word := chars.takeWhile isScalarChar
  let rest := chars.dropWhile isScalarChar
  match rest with
  | ' ' :: after =>
      match after.takeWhile isScalarChar with
      | [] => (word, rest)
      | time =>
          if isDate word then
            (word ++ 'T' :: time, after.dropWhile isScalarChar)
          else
            (word, rest)
  | _ => (word, rest)

end ResourceServer.Toml
