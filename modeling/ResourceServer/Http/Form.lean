import ResourceServer.Text.Percent

namespace ResourceServer.Form

/-!
# Query strings

The query of a target is a sequence of parameters between ampersands. A plus
stands for a space. Escapes that make no sense stand for themselves, and bytes
that are not UTF-8 become replacement characters, so every query can be read.
-/

/-- Replace plus signs by spaces and escapes by their bytes. -/
def decodeBytes (encoded : List UInt8) : List UInt8 :=
  match encoded with
  | [] => []
  | byte :: rest =>
      if byte = 0x2B then
        0x20 :: decodeBytes rest
      else if byte = 0x25 then
        match rest with
        | high :: low :: after =>
            match Text.Percent.hexByte? high, Text.Percent.hexByte? low with
            | some highValue, some lowValue =>
                UInt8.ofNat (16 * highValue + lowValue) :: decodeBytes after
            | _, _ => byte :: decodeBytes (high :: low :: after)
        | rest => byte :: decodeBytes rest
      else
        byte :: decodeBytes rest

/-- The text that a part of a query stands for. -/
def decode (encoded : List UInt8) : String :=
  String.ofList (Text.decodeLossy (decodeBytes encoded))

/-- The name and the value of a parameter, around its first equals sign. -/
def parameter (encoded : List UInt8) : String × String :=
  (decode (encoded.takeWhile (· != 0x3D)),
    decode ((encoded.dropWhile (· != 0x3D)).drop 1))

/-- The parameters of a query, in order; empty ones do not count. -/
def parameters (query : String) : List (String × String) :=
  (((Text.bytes query).splitOn 0x26).filter (· != [])).map parameter

end ResourceServer.Form
