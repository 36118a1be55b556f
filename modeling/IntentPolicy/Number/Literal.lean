import IntentPolicy.Number.Digits

namespace IntentPolicy

/-!
# Decimal literals

The grammar of floating-point literals: an optional sign, digits with an optional
point (a digit on at least one side of it), and an optional exponent.  Reading a
literal keeps the exact number that it denotes.
-/

/-- The number `± digits * 10 ^ exponent`. -/
structure DecimalLiteral where
  negative : Bool
  digits : Nat
  exponent : Int
  deriving Repr, DecidableEq

/-- A literal as it is written: the digits on both sides of the point, and the exponent. -/
structure LiteralParts where
  negative : Bool
  whole : List Char
  fraction : List Char
  exponent : Int
  deriving Repr, DecidableEq

/-- Take a leading sign off, with `true` for a minus. -/
def splitSign : List Char → Bool × List Char
  | '-' :: rest => (true, rest)
  | '+' :: rest => (false, rest)
  | rest => (false, rest)

/-- The exponent part of a literal, zero when there is none. -/
def exponentPart? : List Char → Option Int
  | [] => some 0
  | marker :: rest =>
      if marker = 'e' ∨ marker = 'E' then
        let (negative, digits) := splitSign rest
        if digits.isEmpty || !digits.all Char.isDigit then none
        else if negative then some (-(digitsValue digits : Int))
        else some (digitsValue digits)
      else none

namespace DecimalLiteral

/-- Split off the digits of the fraction, if a point opens one. -/
def splitFraction : List Char → List Char × List Char
  | '.' :: rest => (rest.takeWhile Char.isDigit, rest.dropWhile Char.isDigit)
  | rest => ([], rest)

end DecimalLiteral

/-- Read a whole text as the parts of one literal. -/
def LiteralParts.read? (characters : List Char) : Option LiteralParts :=
  let (negative, unsigned) := splitSign characters
  let whole := unsigned.takeWhile Char.isDigit
  let (fraction, rest) := DecimalLiteral.splitFraction (unsigned.dropWhile Char.isDigit)
  if whole.isEmpty && fraction.isEmpty then none
  else (exponentPart? rest).map fun exponent => ⟨negative, whole, fraction, exponent⟩

namespace DecimalLiteral

/-- The number that the parts of a literal denote. -/
def ofParts (parts : LiteralParts) : DecimalLiteral :=
  ⟨parts.negative, digitsValue (parts.whole ++ parts.fraction),
    parts.exponent - parts.fraction.length⟩

/-- Read a whole text as one literal. -/
def read? (characters : List Char) : Option DecimalLiteral :=
  (LiteralParts.read? characters).map ofParts

/-- The rational number that the literal denotes. -/
def value (literal : DecimalLiteral) : Rat :=
  let magnitude := match literal.exponent with
    | .ofNat power => mkRat (literal.digits * tenTo power) 1
    | .negSucc power => mkRat literal.digits (tenTo (power + 1))
  if literal.negative then -magnitude else magnitude

end DecimalLiteral

end IntentPolicy
