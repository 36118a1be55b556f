import IntentPolicy.Text.Blank
import IntentPolicy.Text.LowerCase

namespace IntentPolicy

/-!
# Tokens

A sentence is cut into lower-case words at blanks; a comma is a token of its own,
wherever it stands.
-/

/-- The word read so far as a list of tokens, left out when it is empty. -/
def flushWord (word : List Char) : List (List Char) :=
  if word.isEmpty then [] else [word]

/-- Cut characters into tokens, behind a word that has been begun. -/
def cutTokens (word : List Char) : List Char → List (List Char)
  | [] => flushWord word
  | character :: rest =>
      if isBlank character then flushWord word ++ cutTokens [] rest
      else if character = ',' then flushWord word ++ [','] :: cutTokens [] rest
      else cutTokens (word ++ lowerCase character) rest

/-- The tokens of a text. -/
def tokenize (text : String) : List String :=
  (cutTokens [] text.toList).map String.ofList

end IntentPolicy
