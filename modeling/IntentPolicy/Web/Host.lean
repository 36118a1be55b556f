import IntentPolicy.Number.Digits
import IntentPolicy.Web.Domain
import IntentPolicy.Web.Percent

namespace IntentPolicy

/-!
# Hosts of URLs

A host is a domain, an address of four bytes or one of eight pieces in square brackets.
Addresses are written in one form only, whatever form they were given in.
-/

/-- Why a text is not a URL. -/
inductive UrlError where
  | relativeWithoutBase
  | emptyHost
  | invalidPort
  | invalidFourByteAddress
  | invalidEightPieceAddress
  | invalidDomain
  | invalidDomainCharacter
  deriving Repr, DecidableEq

/-- The wording of the error. -/
def UrlError.message : UrlError → String
  | .relativeWithoutBase => "relative URL without a base"
  | .emptyHost => "empty host"
  | .invalidPort => "invalid port number"
  | .invalidFourByteAddress => "invalid IPv4 address"
  | .invalidEightPieceAddress => "invalid IPv6 address"
  | .invalidDomain => "invalid international domain name"
  | .invalidDomainCharacter => "invalid domain character"

/-- The value of a run of hexadecimal digits. -/
def hexDigitsValue? (digits : List Char) : Option Nat :=
  digits.foldlM (fun value digit => (hexDigitValue? digit).map (16 * value + ·)) 0

namespace Host

/-- The value of a part of an address of four bytes: octal after a zero, hexadecimal after `0x`. -/
def addressPart? : List Char → Option Nat
  | [] => none
  | ['0'] => some 0
  | '0' :: mark :: digits =>
      if mark = 'x' ∨ mark = 'X' then hexDigitsValue? digits
      else if (mark :: digits).all (fun digit => '0' ≤ digit ∧ digit ≤ '7') then
        some ((mark :: digits).foldl (fun value digit => 8 * value + digitValue digit) 0)
      else none
  | digits => if digits.all Char.isDigit then some (digitsValue digits) else none

/-- The parts of a domain, without the empty one behind a last point. -/
def domainParts (domain : List Char) : List (List Char) :=
  let parts := splitAtEach '.' domain
  if parts.length > 1 && parts.getLast? == some [] then parts.dropLast else parts

/-- The last part of the domain is a number, so the domain has to be an address. -/
def endsInNumber (domain : List Char) : Bool :=
  match (domainParts domain).getLast? with
  | none => false
  | some last =>
      (!last.isEmpty && last.all Char.isDigit) || (addressPart? last).isSome

/-- Four bytes with points between them. -/
def fourByteText (address : Nat) : List Char :=
  decimalDigits (address / twoTo 24 % 256) ++ '.' :: decimalDigits (address / twoTo 16 % 256)
    ++ '.' :: decimalDigits (address / twoTo 8 % 256) ++ '.' :: decimalDigits (address % 256)

/-- Read an address of up to four parts, the last of which fills the bytes that are left. -/
def fourByteAddress? (domain : List Char) : Option Nat := do
  let numbers ← (domainParts domain).mapM addressPart?
  let last ← numbers.getLast?
  let leading := numbers.dropLast
  if numbers.length ≤ 4 ∧ leading.all (· ≤ 255) ∧ last < twoTo (8 * (4 - leading.length)) then
    let high := leading.foldl (fun value number => 256 * value + number) 0
    return high * twoTo (8 * (4 - leading.length)) + last
  else none

/-- One piece of an address in brackets: one to four hexadecimal digits. -/
def addressPiece? (digits : List Char) : Option Nat :=
  if digits.isEmpty ∨ 4 < digits.length then none else hexDigitsValue? digits

/-- One byte in decimal digits without a leading zero. -/
def decimalByte? (digits : List Char) : Option Nat :=
  if digits.isEmpty ∨ !digits.all Char.isDigit ∨ (digits.head? = some '0' ∧ digits.length ≠ 1)
      ∨ 255 < digitsValue digits then none
  else some (digitsValue digits)

/-- The pieces of one side of an address in brackets; the last may be four bytes. -/
def addressPieces? (allowsBytes : Bool) (characters : List Char) : Option (List Nat) :=
  if characters.isEmpty then some []
  else do
    let parts := splitAtEach ':' characters
    let last := parts.getLast?.getD []
    if allowsBytes && last.contains '.' then
      let pieces ← parts.dropLast.mapM addressPiece?
      match ← (splitAtEach '.' last).mapM decimalByte? with
      | [a, b, c, d] => return pieces ++ [256 * a + b, 256 * c + d]
      | _ => none
    else parts.mapM addressPiece?

/-- Split at the first double colon. -/
def splitAtDoubleColon : List Char → Option (List Char × List Char)
  | ':' :: ':' :: rest => some ([], rest)
  | character :: rest =>
      (splitAtDoubleColon rest).map fun (before, behind) => (character :: before, behind)
  | [] => none

/-- Read the eight pieces of an address in brackets; a double colon stands for zeros. -/
def eightPieces? (characters : List Char) : Option (List Nat) := do
  match splitAtDoubleColon characters with
  | none =>
      let pieces ← addressPieces? true characters
      if pieces.length = 8 then return pieces else none
  | some (before, behind) =>
      let leading ← addressPieces? false before
      let trailing ← addressPieces? true behind
      if leading.length + trailing.length ≤ 7 then
        return leading ++ List.replicate (8 - leading.length - trailing.length) 0 ++ trailing
      else none

/-- The length of the run of zeros at the front. -/
def zeroRun (pieces : List Nat) : Nat :=
  (pieces.takeWhile (· = 0)).length

/-- The longest run of at least two zeros, the first of several: its place and its length. -/
def longestZeroRun (pieces : List Nat) : Option (Nat × Nat) :=
  (List.range pieces.length).foldl (fun best start =>
    let length := zeroRun (pieces.drop start)
    match best with
    | some (_, longest) => if longest < length then some (start, length) else best
    | none => if 2 ≤ length then some (start, length) else none) none

/-- Pieces in hexadecimal digits with colons between them. -/
def piecesText (pieces : List Nat) : List Char :=
  (":".intercalate (pieces.map fun piece => String.ofList (Nat.toDigits 16 piece))).toList

/-- An address in brackets, its longest run of zeros left out. -/
def eightPieceText (pieces : List Nat) : List Char :=
  match longestZeroRun pieces with
  | none => '[' :: piecesText pieces ++ [']']
  | some (start, length) =>
      '[' :: piecesText (pieces.take start) ++ ':' :: ':' ::
        piecesText (pieces.drop (start + length)) ++ [']']

/-- Read an address in brackets, the opening one first. -/
def readBracketed (characters : List Char) : Except UrlError (List Char) :=
  if characters.getLast? ≠ some ']' then .error .invalidEightPieceAddress
  else
    match eightPieces? (characters.drop 1).dropLast with
    | some pieces => .ok (eightPieceText pieces)
    | none => .error .invalidEightPieceAddress

/-- The character cannot stand in a domain. -/
def isDomainBreaker (character : Char) : Bool :=
  character.toNat ≤ 0x20 || 0x7F ≤ character.toNat
    || "%#/:<>?@[\\]^|".toList.contains character

/-- Read the host of a web address; a domain is in ASCII and in lower case. -/
def readWeb (characters : List Char) : Except UrlError (List Char) :=
  if characters.isEmpty then .error .emptyHost
  else if characters.head? = some '[' then readBracketed characters
  else
    match percentDecode? characters with
    | none => .error .invalidDomain
    | some decoded =>
        match Domain.ascii? decoded.toList with
        | none => .error .invalidDomain
        | some domain =>
            if domain.isEmpty then .error .emptyHost
            else if domain.any isDomainBreaker then .error .invalidDomain
            else if endsInNumber domain then
              match fourByteAddress? domain with
              | some address => .ok (fourByteText address)
              | none => .error .invalidFourByteAddress
            else .ok domain

/-- The character cannot stand in the host of a scheme without rules of its own. -/
def isOpaqueBreaker (character : Char) : Bool :=
  character == '\x00' || " #/:<>?@[\\]^|".toList.contains character

/-- Read the host of a scheme without rules of its own; it may be empty. -/
def readOpaque (characters : List Char) : Except UrlError (List Char) :=
  if characters.head? = some '[' then readBracketed characters
  else if characters.any isOpaqueBreaker then .error .invalidDomainCharacter
  else .ok (percentEncode isControlOrForeign characters)

end Host

end IntentPolicy
