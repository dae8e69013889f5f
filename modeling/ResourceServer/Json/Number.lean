import ResourceServer.Number.Shortest
import ResourceServer.Text.Digits

namespace ResourceServer.Json

/-!
# Numbers of JSON texts

A number is an integer where its text has neither point nor exponent and it
fits sixty-four bits, signed or unsigned. Every other number is binary
floating-point.

The digits of a literal are kept while their value fits sixty-four bits
unsigned. The value is that integer, rounded, and then multiplied or divided
once by the rounded power of ten, so a long literal may be read as a neighbour
of the number nearest to it.
-/

/-- A number of a JSON text. -/
inductive Number where
  | integer (value : Int)
  | float (value : Binary .double)
deriving Repr, DecidableEq

namespace Number

/-- The floating-point number nearest to a number. -/
def toDouble : Number → Binary .double
  | .integer value => Binary.ofInt value
  | .float value => value

/-- The nearest floating-point number to a power of ten. -/
def powerOfTen (exponent : Nat) : Binary .double :=
  ⟨false, BinaryFormat.double.round (Nat.pow 10 exponent) 1⟩

/-- The greatest exponent of a finite power of ten. -/
def greatestPower : Nat := 308

/--
Scale a number by a power of ten with one rounding, or refuse an infinite
result.

An exponent below the least power of ten is taken in steps.
-/
def scale? (value : Binary .double) (exponent : Int) : Option (Binary .double) :=
  if exponent.natAbs ≤ greatestPower then
    if 0 ≤ exponent then
      let product := value.mul (powerOfTen exponent.natAbs)
      if product.isInfinite then none else some product
    else
      some (value.div (powerOfTen exponent.natAbs))
  else if value.magnitude = 0 then
    some value
  else if 0 ≤ exponent then
    none
  else
    scale? (value.div (powerOfTen greatestPower)) (exponent + greatestPower)
termination_by exponent.natAbs
decreasing_by
  simp only [greatestPower] at *
  omega

/-- The digits of a literal that are kept, as an integer and a power of ten. -/
structure Kept where
  significand : Nat
  exponent : Int
deriving Repr, DecidableEq

/-- Keep the digits before the point; after the first that does not fit, none. -/
def Kept.ofWhole (digits : List Nat) : Kept :=
  digits.foldl
    (fun kept digit =>
      let next := 10 * kept.significand + digit
      if kept.exponent = 0 ∧ next < Text.limit64 then
        { kept with significand := next }
      else
        { kept with exponent := kept.exponent + 1 })
    ⟨0, 0⟩

/-- Keep the digits after the point, up to the first that does not fit. -/
def Kept.withFraction (kept : Kept) : List Nat → Kept
  | [] => kept
  | digit :: rest =>
      let next := 10 * kept.significand + digit
      if next < Text.limit64 then
        Kept.withFraction ⟨next, kept.exponent - 1⟩ rest
      else
        kept

/-- The parts of a number literal. -/
structure Literal where
  negative : Bool
  whole : List Nat
  /-- The digits after the point, none where there is no point. -/
  fraction : List Nat
  /-- The sign and the digits of the exponent. -/
  power : Option (Bool × List Nat)
  /-- Whether the literal has a point. -/
  hasPoint : Bool
deriving Repr, DecidableEq

/-- The value of decimal digits. -/
def ofDigits (digits : List Nat) : Nat :=
  digits.foldl (fun value digit => 10 * value + digit) 0

/-- Exponents are kept in thirty-two bits, signed. -/
def exponentLimit : Nat := Nat.pow 2 31

/-- The floating-point value of a literal, unless it is too large. -/
def Literal.toDouble? (literal : Literal) : Option (Binary .double) :=
  let kept := (Kept.ofWhole literal.whole).withFraction literal.fraction
  let magnitude :=
    match literal.power with
    | none => scale? (Binary.ofNat kept.significand) kept.exponent
    | some (negative, digits) =>
        let power := ofDigits digits
        if power < exponentLimit then
          scale?
            (Binary.ofNat kept.significand)
            (if negative then kept.exponent - power else kept.exponent + power)
        else if kept.significand ≠ 0 ∧ !negative then
          none
        else
          some Binary.zero
  magnitude.map fun value => { value with negative := literal.negative }

/-- The number that a literal stands for, unless it is too large. -/
def Literal.toNumber? (literal : Literal) : Option Number :=
  let whole := ofDigits literal.whole
  let isInteger := literal.power.isNone && !literal.hasPoint
  if isInteger ∧ !literal.negative ∧ whole < Text.limit64 then
    some (.integer whole)
  else if isInteger ∧ literal.negative ∧ 0 < whole ∧ whole ≤ Text.signedLimit64 then
    some (.integer (-whole))
  else
    literal.toDouble?.map .float

/-- The digits at the start of a text, and what follows them. -/
def takeDigits : List Char → List Nat × List Char
  | [] => ([], [])
  | char :: rest =>
      match Text.digitValue? char with
      | some digit =>
          let (digits, after) := takeDigits rest
          (digit :: digits, after)
      | none => ([], char :: rest)

/-- Split the exponent of a literal, which ends it. -/
def power? : List Char → Option (Option (Bool × List Nat))
  | [] => some none
  | mark :: rest =>
      if mark = 'e' ∨ mark = 'E' then
        let (negative, rest) :=
          match rest with
          | '-' :: rest => (true, rest)
          | '+' :: rest => (false, rest)
          | rest => (false, rest)
        match takeDigits rest with
        | ([], _) => none
        | (digits, []) => some (some (negative, digits))
        | _ => none
      else
        none

/-- Split a text into the parts of a literal, if the grammar allows it. -/
def Literal.ofChars? (chars : List Char) : Option Literal :=
  let (negative, chars) :=
    match chars with
    | '-' :: rest => (true, rest)
    | chars => (false, chars)
  match takeDigits chars with
  | ([], _) => none
  | (0 :: _ :: _, _) => none
  | (whole, '.' :: rest) =>
      match takeDigits rest with
      | ([], _) => none
      | (fraction, rest) =>
          (power? rest).map fun power =>
            ⟨negative, whole, fraction, power, true⟩
  | (whole, rest) =>
      (power? rest).map fun power => ⟨negative, whole, [], power, false⟩

/-- Read the whole text as a number. -/
def read? (chars : List Char) : Option Number :=
  (Literal.ofChars? chars).bind Literal.toNumber?

/-- The decimal exponents written without an exponent part. -/
def isPlain (exponent : Int) : Bool :=
  -5 ≤ exponent && exponent ≤ 15

/-- A positive decimal, with at least one digit after the point or an exponent. -/
def decimalText (decimal : Decimal) : String :=
  let digits := (Nat.repr decimal.digits).toList
  let exponent := decimal.exponent + digits.length - 1
  let chars :=
    if isPlain exponent then
      if 0 ≤ decimal.exponent then
        digits ++ List.replicate decimal.exponent.toNat '0' ++ ['.', '0']
      else if 0 ≤ exponent then
        digits.take (exponent.toNat + 1) ++
          '.' :: digits.drop (exponent.toNat + 1)
      else
        '0' :: '.' :: List.replicate (-exponent - 1).toNat '0' ++ digits
    else
      let significand :=
        match digits with
        | first :: second :: rest => first :: '.' :: second :: rest
        | digits => digits
      let sign := if exponent < 0 then '-' else '+'
      significand ++ 'e' :: sign :: (Nat.repr exponent.natAbs).toList
  String.ofList chars

/-- The text of a number. -/
def text : Number → String
  | .integer value => toString value
  | .float value =>
      (if value.negative then "-" else "") ++ decimalText value.shortest

end Number

end ResourceServer.Json
