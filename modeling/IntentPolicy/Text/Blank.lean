namespace IntentPolicy

/-!
# White space

The characters of Unicode's `White_Space` property, and trimming by them.  The
property holds two characters that look like controls (U+0085 and the range from
U+0009 to U+000D) and leaves out U+200B and U+FEFF, which only look blank.
-/

/-- The character has Unicode's `White_Space` property. -/
def isBlank (character : Char) : Bool :=
  let code := character.toNat
  (0x09 ≤ code && code ≤ 0x0D) || code == 0x20 || code == 0x85 || code == 0xA0 ||
    code == 0x1680 || (0x2000 ≤ code && code ≤ 0x200A) || code == 0x2028 ||
    code == 0x2029 || code == 0x202F || code == 0x205F || code == 0x3000

/-- Drop the blanks at the end of a list of characters. -/
def dropBlankEnd (characters : List Char) : List Char :=
  (characters.reverse.dropWhile isBlank).reverse

/-- Drop the blanks at both ends of a list of characters. -/
def trimBlanks (characters : List Char) : List Char :=
  dropBlankEnd (characters.dropWhile isBlank)

/-- The text without the blanks at its ends. -/
def trimmed (text : String) : String :=
  String.ofList (trimBlanks text.toList)

/-- The text holds nothing but blanks. -/
def isAllBlank (text : String) : Bool :=
  text.toList.all isBlank

end IntentPolicy
