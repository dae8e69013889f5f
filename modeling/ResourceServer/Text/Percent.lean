import ResourceServer.Text.Utf8

namespace ResourceServer.Text.Percent

/-!
# Percent encoding

An element of a path is written byte by byte over its UTF-8 form. The bytes
that RFC 3986 allows in a path segment stand for themselves; every other byte,
the slash included, is a percent sign and two capital hexadecimal digits.
-/

/-- Whether a byte stands for itself in a path segment. -/
def isPathByte (byte : UInt8) : Bool :=
  let char := Char.ofNat byte.toNat
  char.isAlphanum || "-._~!$&'()*+,;=:@".toList.contains char

/-- The capital hexadecimal digit of a number below sixteen. -/
def hexDigit (value : Nat) : Char :=
  Char.ofNat (if value < 10 then 48 + value else 55 + value)

/-- The value of a hexadecimal digit in either case. -/
def hexValue? (char : Char) : Option Nat :=
  if '0' ≤ char ∧ char ≤ '9' then
    some (char.toNat - 48)
  else if 'a' ≤ char ∧ char ≤ 'f' then
    some (char.toNat - 87)
  else if 'A' ≤ char ∧ char ≤ 'F' then
    some (char.toNat - 55)
  else
    none

/-- One byte as it is written in a path segment. -/
def encodeByte (byte : UInt8) : List Char :=
  if isPathByte byte then
    [Char.ofNat byte.toNat]
  else
    ['%', hexDigit (byte.toNat / 16), hexDigit (byte.toNat % 16)]

/-- A text as it is written in a path segment. -/
def encode (text : String) : String :=
  String.ofList ((bytes text).flatMap encodeByte)

/-- One byte as it is written when the case of letters does not count. -/
def encodeByteFolded (byte : UInt8) : List Char :=
  if isPathByte byte then
    [(Char.ofNat byte.toNat).toLower]
  else
    ['%', hexDigit (byte.toNat / 16), hexDigit (byte.toNat % 16)]

/-- A text as it is written when the case of its letters does not count. -/
def encodeFolded (text : String) : String :=
  String.ofList ((bytes text).flatMap encodeByteFolded)

/-- Why a text is no percent encoding. -/
inductive Fault where
  /-- Fewer than two characters follow the percent sign at this byte. -/
  | truncated (offset : Nat)
  /-- What follows the percent sign at this byte is no pair of digits. -/
  | notHexadecimal (offset : Nat)
  /-- The bytes that result are not UTF-8. -/
  | notUtf8
deriving Repr, DecidableEq

namespace Fault

/-- The fault of a text, in words. -/
def message (text : String) : Fault → String
  | .truncated offset =>
      s!"incomplete percent escape at offset {offset} in '{text}'"
  | .notHexadecimal offset =>
      s!"invalid percent escape at offset {offset} in '{text}'"
  | .notUtf8 =>
      s!"percent escapes in '{text}' are not valid UTF-8"

end Fault

/-- The value of a byte that is a hexadecimal digit. -/
def hexByte? (byte : UInt8) : Option Nat :=
  hexValue? (Char.ofNat byte.toNat)

/-- Replace each escape by its byte; `offset` counts the bytes read so far. -/
def unescape
    (offset : Nat)
    (encoded : List UInt8) :
    Except Fault (List UInt8) :=
  match encoded with
  | [] => .ok []
  | byte :: rest =>
      if byte = 0x25 then
        match rest with
        | high :: low :: rest =>
            match hexByte? high, hexByte? low with
            | some high, some low =>
                (unescape (offset + 3) rest).map
                  (UInt8.ofNat (16 * high + low) :: ·)
            | _, _ => .error (.notHexadecimal offset)
        | _ => .error (.truncated offset)
      else
        (unescape (offset + 1) rest).map (byte :: ·)

/--
Read a percent-encoded text.

Characters outside escapes stand for themselves; escapes next to each other
form one run of bytes, so that a character of several bytes reads whole.
-/
def decode (text : String) : Except Fault String :=
  match unescape 0 (bytes text) with
  | .error fault => .error fault
  | .ok encoded =>
      match ofBytes? encoded with
      | some decoded => .ok decoded
      | none => .error .notUtf8

end ResourceServer.Text.Percent
