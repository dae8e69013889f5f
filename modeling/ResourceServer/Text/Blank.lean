namespace ResourceServer.Text

/-!
# Blank characters

Blanks around a text are those of the Unicode property `White_Space`. What
counts as an empty request body is a smaller set, and white space between the
parts of a JSON text is smaller again.
-/

/-- Whether a character has the Unicode property `White_Space`. -/
def isBlank (char : Char) : Bool :=
  let code := char.toNat
  (0x09 ≤ code && code ≤ 0x0D) || code == 0x20 || code == 0x85 ||
    code == 0xA0 || code == 0x1680 || (0x2000 ≤ code && code ≤ 0x200A) ||
    code == 0x2028 || code == 0x2029 || code == 0x202F || code == 0x205F ||
    code == 0x3000

/-- The characters with those at both ends that satisfy `drops` removed. -/
def trimChars
    (drops : Char → Bool)
    (chars : List Char) :
    List Char :=
  ((chars.dropWhile drops).reverse.dropWhile drops).reverse

/-- The text without the blanks at its two ends. -/
def trim (text : String) : String :=
  String.ofList (trimChars isBlank text.toList)

/-- The text cut at each `separator`; a text without one is a single piece. -/
def pieces (separator : Char) (text : String) : List String :=
  (text.toList.splitOn separator).map String.ofList

/-- The two parts of a text around the first `separator`. -/
def splitFirst? (separator : Char) (text : String) : Option (String × String) :=
  match text.toList.dropWhile (· != separator) with
  | [] => none
  | _ :: rest =>
      some
        (String.ofList (text.toList.takeWhile (· != separator)),
          String.ofList rest)

end ResourceServer.Text
