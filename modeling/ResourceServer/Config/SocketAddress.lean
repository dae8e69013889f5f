import ResourceServer.Text.Digits
import ResourceServer.Text.Percent

namespace ResourceServer

/-!
# Socket addresses

An address is a host in numbers and the number of a service on it. A host is
four octets with dots between them, or eight groups of sixteen bits in
brackets. One run of groups that are zero may be left out, and the last two
groups may be written as octets.
-/

/-- A host in numbers. -/
inductive Host where
  | octets (values : List Nat)
  | groups (values : List Nat) (scope : Nat)
deriving Repr, DecidableEq

/-- A host and the number of a service on it. -/
structure SocketAddress where
  host : Host
  service : Nat
deriving Repr, DecidableEq

namespace SocketAddress

/-- How a number in an address may be written. -/
structure NumberForm where
  radix : Nat
  maxDigits : Option Nat
  limit : Nat
  /-- Whether a number of several digits may start with a zero. -/
  leadingZeros : Bool
deriving Repr, DecidableEq

/-- The value of a digit of a radix. -/
def digit? (radix : Nat) (char : Char) : Option Nat :=
  (Text.Percent.hexValue? char).filter fun digit => digit < radix

/-- Read a number. -/
def number? (form : NumberForm) (chars : List Char) : Option (Nat × List Char) :=
  let isDigit := fun char => (digit? form.radix char).isSome
  let digits := chars.takeWhile isDigit
  let value :=
    digits.foldl
      (fun value char => form.radix * value + (digit? form.radix char).getD 0) 0
  let fits := form.maxDigits.all fun most => digits.length ≤ most
  let startsWell :=
    form.leadingZeros || digits.length ≤ 1 || digits.head? != some '0'
  if digits ≠ [] ∧ fits ∧ startsWell ∧ value < form.limit then
    some (value, chars.dropWhile isDigit)
  else
    none

/-- Numbers between dots. -/
def octetForm : NumberForm := ⟨10, some 3, Nat.pow 2 8, false⟩

/-- Numbers between colons. -/
def groupForm : NumberForm := ⟨16, some 4, Nat.pow 2 16, true⟩

/-- The number of a service. -/
def serviceForm : NumberForm := ⟨10, none, Nat.pow 2 16, true⟩

/-- The number of a scope. -/
def scopeForm : NumberForm := ⟨10, none, Text.limit32, true⟩

/-- The text after one character, if it starts with that. -/
def skip? (mark : Char) : List Char → Option (List Char)
  | char :: rest => if char = mark then some rest else none
  | [] => none

/-- Read some octets with dots between them. -/
def readOctets? : Nat → List Char → Option (List Nat × List Char)
  | 0, chars => some ([], chars)
  | missing + 1, chars => do
      let (octet, rest) ← number? octetForm chars
      let rest ← if missing = 0 then some rest else skip? '.' rest
      let (octets, rest) ← readOctets? missing rest
      return (octet :: octets, rest)

/-- Groups that were read. -/
structure Groups where
  values : List Nat
  /-- Whether the last two were written as octets. -/
  endsInOctets : Bool
  rest : List Char
deriving Repr, DecidableEq

/-- Read as many groups as there are, up to `slots`, with colons between them. -/
def readGroups (slots : Nat) (isFirst : Bool) (chars : List Char) : Groups :=
  match slots with
  | 0 => ⟨[], false, chars⟩
  | slots + 1 =>
      match if isFirst then some chars else skip? ':' chars with
      | none => ⟨[], false, chars⟩
      | some start =>
          match if slots = 0 then none else readOctets? 4 start with
          | some ([first, second, third, fourth], rest) =>
              ⟨[256 * first + second, 256 * third + fourth], true, rest⟩
          | _ =>
              match number? groupForm start with
              | none => ⟨[], false, chars⟩
              | some (group, rest) =>
                  let others := readGroups slots false rest
                  { others with values := group :: others.values }

/-- Read eight groups, of which a run of zeros may be left out. -/
def readHost? (chars : List Char) : Option (List Nat × List Char) :=
  let head := readGroups 8 true chars
  if head.values.length = 8 then
    some (head.values, head.rest)
  else if head.endsInOctets then
    none
  else do
    let rest ← skip? ':' head.rest
    let rest ← skip? ':' rest
    let tail := readGroups (7 - head.values.length) true rest
    let zeros :=
      List.replicate (8 - head.values.length - tail.values.length) 0
    return (head.values ++ zeros ++ tail.values, tail.rest)

/-- Read a scope, zero where there is none. -/
def readScope (chars : List Char) : Nat × List Char :=
  ((skip? '%' chars).bind (number? scopeForm)).getD (0, chars)

/-- Read a host. -/
def host? (chars : List Char) : Option (Host × List Char) :=
  match chars with
  | '[' :: rest => do
      let (groups, rest) ← readHost? rest
      let (scope, rest) := readScope rest
      let rest ← skip? ']' rest
      return (.groups groups scope, rest)
  | _ => do
      let (octets, rest) ← readOctets? 4 chars
      return (.octets octets, rest)

/-- The address that a text writes. -/
def parse? (text : String) : Option SocketAddress := do
  let (host, rest) ← host? text.toList
  let rest ← skip? ':' rest
  let (service, rest) ← number? serviceForm rest
  if rest = [] then some ⟨host, service⟩ else none

end SocketAddress

end ResourceServer
