import ResourceServer.Number.Binary
import ResourceServer.Text.Digits
import ResourceServer.Text.Fold

namespace ResourceServer

/-!
# Decimal numerals as binary numbers

A numeral in scientific notation is read as the binary number nearest to it.
Besides numerals, the words for infinity and for no number are accepted.
-/

namespace Binary

variable {format : BinaryFormat}

/--
The number nearest to `digits * 10 ^ exponent`.

Exponents far outside the format are settled without computing the power.
-/
def ofDecimal (digits : Nat) (exponent : Int) : Binary format :=
  let bound : Int := Nat.pow 2 format.width
  if digits = 0 then
    zero
  else if bound < exponent then
    infinite
  else if exponent < -(bound + digits.log2) then
    zero
  else
    ⟨false,
      format.round
        (digits * Nat.pow 10 exponent.toNat)
        (Nat.pow 10 (-exponent).toNat)⟩

/-- Read an exponent, the part of a numeral after its letter. -/
def exponent? : List Char → Option Int
  | '+' :: rest => (Text.digits? rest).map Int.ofNat
  | '-' :: rest => (Text.digits? rest).map fun value => -(value : Int)
  | chars => (Text.digits? chars).map Int.ofNat

/--
Read an unsigned numeral.

Digits may be missing on one side of the point, and an exponent may follow.
-/
def unsignedNumeral? (chars : List Char) : Option (Binary format) :=
  let isMark := fun char => char = 'e' || char = 'E'
  let mantissa := chars.takeWhile fun char => !isMark char
  let power :=
    match chars.dropWhile fun char => !isMark char with
    | [] => some 0
    | _ :: rest => exponent? rest
  let whole := mantissa.takeWhile (· != '.')
  let fraction := (mantissa.dropWhile (· != '.')).drop 1
  match Text.digits? (whole ++ fraction), power with
  | some digits, some power =>
      some (ofDecimal digits (power - fraction.length))
  | _, _ => none

/-- Read a numeral, or a word for infinity or for no number, with its sign. -/
def numeral? (text : String) : Option (Binary format) :=
  let (negative, chars) :=
    match text.toList with
    | '-' :: rest => (true, rest)
    | '+' :: rest => (false, rest)
    | chars => (false, chars)
  let word := Text.fold (String.ofList chars)
  let magnitude : Option (Binary format) :=
    if word = "inf" ∨ word = "infinity" then
      some infinite
    else if word = "nan" then
      some notANumber
    else
      unsignedNumeral? chars
  magnitude.map fun value => { value with negative := negative }

end Binary

end ResourceServer
