namespace IntentPolicy

/-!
# Bytes as text

How bytes that need not be UTF-8 are read: where the first fault lies, and what text is
left when every fault gives way to one mark.
-/

/-- What stands at the front of bytes. -/
inductive Utf8Front where
  /-- A character of some bytes. -/
  | character (value : Char) (length : Nat)
  /-- Some bytes that no character begins with. -/
  | fault (length : Nat)
  /-- A character that the end of the bytes cuts off. -/
  | cutOff
  deriving Repr, DecidableEq

/-- A fault of bytes: where it begins, and how many bytes it has unless it is cut off. -/
structure Utf8Fault where
  index : Nat
  length : Option Nat
  deriving Repr, DecidableEq

/-- The wording of a fault. -/
def Utf8Fault.message (fault : Utf8Fault) : String :=
  match fault.length with
  | some length => s!"invalid utf-8 sequence of {length} bytes from index {fault.index}"
  | none => s!"incomplete utf-8 byte sequence from index {fault.index}"

namespace Utf8

/-- The bounds of a byte behind the first one. -/
def follower : UInt8 × UInt8 := (0x80, 0xBF)

/-- The bounds of the bytes that follow a first byte, if it is one.  No character has two
forms, is half of a surrogate pair, or lies beyond the last code point. -/
def followers? (first : UInt8) : Option (List (UInt8 × UInt8)) :=
  if first < 0x80 then some []
  else if first < 0xC2 then none
  else if first < 0xE0 then some [follower]
  else if first = 0xE0 then some [(0xA0, 0xBF), follower]
  else if first = 0xED then some [(0x80, 0x9F), follower]
  else if first < 0xF0 then some [follower, follower]
  else if first = 0xF0 then some [(0x90, 0xBF), follower, follower]
  else if first < 0xF4 then some [follower, follower, follower]
  else if first = 0xF4 then some [(0x80, 0x8F), follower, follower]
  else none

/-- Read the bytes behind those that have been read, whose value and number are given. -/
def readFollowers (value length : Nat) : List (UInt8 × UInt8) → List UInt8 → Utf8Front
  | [], _ => .character (Char.ofNat value) length
  | _ :: _, [] => .cutOff
  | (least, greatest) :: bounds, byte :: rest =>
      if least ≤ byte ∧ byte ≤ greatest then
        readFollowers (64 * value + byte.toNat % 64) (length + 1) bounds rest
      else .fault length

/-- What stands at the front of a byte and those behind it. -/
def front (first : UInt8) (rest : List UInt8) : Utf8Front :=
  match followers? first with
  | none => .fault 1
  | some bounds =>
      let value := if bounds.isEmpty then first.toNat else first.toNat % (64 >>> bounds.length)
      readFollowers value 1 bounds rest

/-- The text of bytes, with one mark for every fault. -/
def lossyText : List UInt8 → List Char
  | [] => []
  | first :: rest =>
      match front first rest with
      | .character value length => value :: lossyText (rest.drop (length - 1))
      | .fault length => '\uFFFD' :: lossyText (rest.drop (length - 1))
      | .cutOff => ['\uFFFD']
termination_by bytes => bytes.length
decreasing_by all_goals simp only [List.length_drop, List.length_cons]; omega

/-- The first fault of bytes, the first of which has an index. -/
def fault? (index : Nat) : List UInt8 → Option Utf8Fault
  | [] => none
  | first :: rest =>
      match front first rest with
      | .character _ length => fault? (index + length) (rest.drop (length - 1))
      | .fault length => some ⟨index, some length⟩
      | .cutOff => some ⟨index, none⟩
termination_by bytes => bytes.length
decreasing_by simp only [List.length_drop, List.length_cons]; omega

/-- The text of bytes, or their first fault. -/
def text (bytes : List UInt8) : Except Utf8Fault String :=
  match fault? 0 bytes with
  | some fault => .error fault
  | none => .ok (String.ofList (lossyText bytes))

end Utf8

end IntentPolicy
