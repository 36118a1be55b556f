namespace IntentPolicy

/-!
# Percent-encoding

A character that may not stand in a part of a URL is written as the bytes of its UTF-8
form, each as a percent sign and two hexadecimal digits.
-/

/-- One hexadecimal digit in upper case. -/
def upperHexDigit (value : Nat) : Char :=
  (Nat.digitChar value).toUpper

/-- One byte as a percent sign and two digits. -/
def percentByte (byte : UInt8) : List Char :=
  ['%', upperHexDigit (byte.toNat / 16), upperHexDigit (byte.toNat % 16)]

/-- The character is a control, or no ASCII character. -/
def isControlOrForeign (character : Char) : Bool :=
  character.toNat < 0x20 || 0x7F ≤ character.toNat

/-- The characters that cannot stand in a fragment. -/
def escapedInFragment (character : Char) : Bool :=
  isControlOrForeign character || " \"<>`".toList.contains character

/-- The characters that cannot stand in a path. -/
def escapedInPath (character : Char) : Bool :=
  escapedInFragment character || "#?\x7b\x7d".toList.contains character

/-- The characters that cannot stand in one segment of a path. -/
def escapedInSegment (character : Char) : Bool :=
  escapedInPath character || character == '/' || character == '%'

/-- The characters that cannot stand in a user name or a password. -/
def escapedInUserInfo (character : Char) : Bool :=
  escapedInPath character || "/:;=@[\\]^|".toList.contains character

/-- The characters that cannot stand in a query. -/
def escapedInQuery (character : Char) : Bool :=
  isControlOrForeign character || " \"#<>".toList.contains character

/-- Encode the characters that a test names. -/
def percentEncode (escapes : Char → Bool) (characters : List Char) : List Char :=
  characters.flatMap fun character =>
    if escapes character then (String.utf8EncodeChar character).flatMap percentByte
    else [character]

/-- The value of a hexadecimal digit in any case. -/
def hexDigitValue? (digit : Char) : Option Nat :=
  if digit.isDigit then some (digit.toNat - '0'.toNat)
  else if 'a' ≤ digit.toLower ∧ digit.toLower ≤ 'f' then
    some (digit.toLower.toNat - 'a'.toNat + 10)
  else none

/-- The bytes that a text stands for; a percent sign without two digits stands for itself. -/
def percentBytes : List Char → List UInt8
  | '%' :: high :: low :: rest =>
      match hexDigitValue? high, hexDigitValue? low with
      | some highValue, some lowValue =>
          UInt8.ofNat (16 * highValue + lowValue) :: percentBytes rest
      | _, _ => String.utf8EncodeChar '%' ++ percentBytes (high :: low :: rest)
  | character :: rest => String.utf8EncodeChar character ++ percentBytes rest
  | [] => []

/-- The text that a percent-encoded text stands for, if its bytes are UTF-8. -/
def percentDecode? (characters : List Char) : Option String :=
  String.fromUTF8? (ByteArray.mk (percentBytes characters).toArray)

end IntentPolicy
