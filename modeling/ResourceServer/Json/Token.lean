import ResourceServer.Json.Basic
import ResourceServer.Text.Percent

namespace ResourceServer.Json

/-!
# Tokens of JSON texts

A JSON text is a sequence of tokens with white space between them. White space
here is the space, the tab and the two line ends; strings admit no raw control
character, and their escapes must stand for Unicode characters.
-/

/-- A token of a JSON text. -/
inductive Token where
  | openArray
  | closeArray
  | openObject
  | closeObject
  | comma
  | colon
  /-- A string; it may be a value or the key of a member. -/
  | text (value : String)
  /-- A number, a truth value or null. -/
  | scalar (value : Json)
deriving Repr, DecidableEq

/-- Whether a character may stand between tokens. -/
def isSpace (char : Char) : Bool :=
  char == ' ' || char == '\t' || char == '\n' || char == '\r'

/-- The character that a one-letter escape stands for. -/
def shortEscape? (char : Char) : Option Char :=
  match char with
  | '"' => some '"'
  | '\\' => some '\\'
  | '/' => some '/'
  | 'b' => some (Char.ofNat 0x08)
  | 'f' => some (Char.ofNat 0x0C)
  | 'n' => some '\n'
  | 'r' => some '\r'
  | 't' => some '\t'
  | _ => none

/-- Where the reading of a string stands. -/
inductive StringState where
  /-- Outside escapes. -/
  | plain
  /-- After a backslash. -/
  | escape
  /-- Among four hexadecimal digits, perhaps after a high surrogate. -/
  | digits (high : Option Nat) (count value : Nat)
  /-- After a high surrogate. -/
  | backslash (high : Nat)
  /-- After a high surrogate and a backslash. -/
  | letter (high : Nat)
deriving Repr, DecidableEq

/-- The state after a character, and the character of the string it completes. -/
def StringState.step?
    (state : StringState)
    (char : Char) :
    Option (StringState × Option Char) :=
  match state with
  | .plain =>
      if char = '\\' then some (.escape, none)
      else if char.toNat < 0x20 then none
      else some (.plain, some char)
  | .escape =>
      if char = 'u' then some (.digits none 0 0, none)
      else (shortEscape? char).map fun meant => (.plain, some meant)
  | .digits high count value =>
      match Text.Percent.hexValue? char with
      | none => none
      | some digit =>
          let value := 16 * value + digit
          if count < 3 then
            some (.digits high (count + 1) value, none)
          else
            match high with
            | none =>
                if 0xD800 ≤ value ∧ value ≤ 0xDBFF then
                  some (.backslash value, none)
                else if 0xDC00 ≤ value ∧ value ≤ 0xDFFF then
                  none
                else
                  some (.plain, some (Char.ofNat value))
            | some high =>
                if 0xDC00 ≤ value ∧ value ≤ 0xDFFF then
                  some
                    (.plain,
                      some
                        (Char.ofNat
                          (0x10000 + 0x400 * (high - 0xD800) +
                            (value - 0xDC00))))
                else
                  none
  | .backslash high => if char = '\\' then some (.letter high, none) else none
  | .letter high => if char = 'u' then some (.digits (some high) 0 0, none) else none

/--
Read a string after its opening quote.

`done` holds the characters read so far, the last one first.
-/
def scanString
    (state : StringState)
    (done : List Char)
    (chars : List Char) :
    Option (String × List Char) :=
  match chars with
  | [] => none
  | char :: rest =>
      if state = .plain ∧ char = '"' then
        some (String.ofList done.reverse, rest)
      else
        match state.step? char with
        | none => none
        | some (next, some read) => scanString next (read :: done) rest
        | some (next, none) => scanString next done rest

/-- What follows a string is shorter than what it was read from. -/
theorem length_of_scanString
    {state : StringState}
    {done chars rest : List Char}
    {text : String}
    (scanned : scanString state done chars = some (text, rest)) :
    rest.length < chars.length := by
  induction chars generalizing state done with
  | nil =>
      simp [scanString] at scanned
  | cons char remaining inductionHypothesis =>
      simp only [scanString] at scanned
      split at scanned
      · simp only [Option.some.injEq, Prod.mk.injEq] at scanned
        simp [scanned.2]
      · split at scanned
        · simp at scanned
        · have shorter := inductionHypothesis scanned
          simp only [List.length_cons]
          omega
        · have shorter := inductionHypothesis scanned
          simp only [List.length_cons]
          omega

/-- Whether a character may belong to a number or to a word. -/
def isScalarChar (char : Char) : Bool :=
  char.isAlphanum || char == '-' || char == '+' || char == '.'

/-- The value that a number or a word stands for. -/
def scalar? (chars : List Char) : Option Json :=
  if chars = ['n', 'u', 'l', 'l'] then some .null
  else if chars = ['t', 'r', 'u', 'e'] then some (.bool true)
  else if chars = ['f', 'a', 'l', 's', 'e'] then some (.bool false)
  else (Number.read? chars).map .number

/-- The token of one character. -/
def punctuation? (char : Char) : Option Token :=
  match char with
  | '[' => some .openArray
  | ']' => some .closeArray
  | '\x7b' => some .openObject
  | '\x7d' => some .closeObject
  | ',' => some .comma
  | ':' => some .colon
  | _ => none

/--
Split a text into tokens.

`done` holds the tokens read so far, the last one first.
-/
def tokens? (done : List Token) (chars : List Char) : Option (List Token) :=
  match chars with
  | [] => some done.reverse
  | char :: rest =>
      if isSpace char then
        tokens? done rest
      else if char = '"' then
        match scanned : scanString .plain [] rest with
        | none => none
        | some (text, after) =>
            have _shorter := length_of_scanString scanned
            tokens? (.text text :: done) after
      else
        match punctuation? char with
        | some token => tokens? (token :: done) rest
        | none =>
            match scalar? (char :: rest.takeWhile isScalarChar) with
            | none => none
            | some value =>
                have _shorter :=
                  (List.dropWhile_sublist (l := rest) isScalarChar).length_le
                tokens? (.scalar value :: done) (rest.dropWhile isScalarChar)
termination_by chars.length
decreasing_by
  all_goals simp only [List.length_cons]
  all_goals omega

end ResourceServer.Json
