import IntentPolicy.Character.Mark
import IntentPolicy.Character.Printable

namespace IntentPolicy

/-!
# Texts in quotes

A text in quotes shows every character that it holds: what prints nothing, or would
change the character before it, is written by its number.
-/

/-- A character by its number. -/
def numberedCharacter (character : Char) : List Char :=
  ['\\', 'u', '\x7b'] ++ Nat.toDigits 16 character.toNat ++ ['\x7d']

/-- A character as it stands in quotes. -/
def quotedCharacter (character : Char) : List Char :=
  match character with
  | '"' => ['\\', '"']
  | '\\' => ['\\', '\\']
  | '\x00' => ['\\', '0']
  | '\t' => ['\\', 't']
  | '\n' => ['\\', 'n']
  | '\r' => ['\\', 'r']
  | _ =>
      if isExtending character || !isPrintable character then numberedCharacter character
      else [character]

/-- A text in quotes. -/
def quoted (text : String) : String :=
  "\"" ++ String.ofList (text.toList.flatMap quotedCharacter) ++ "\""

end IntentPolicy
