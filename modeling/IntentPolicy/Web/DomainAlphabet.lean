import IntentPolicy.Character.Printable

namespace IntentPolicy

/-!
# The alphabet of domains

Which characters beyond ASCII cannot stand in a domain, and which leave no trace in one.
-/

namespace Domain

/-- The printable characters that would put a full stop or the like into a domain. -/
def refusedRanges : List CodeRange :=
  [ ⟨0x2024, 0x2026⟩, ⟨0x2488, 0x249B⟩, ⟨0x2FF0, 0x2FFB⟩, ⟨0x33C2, 0x33C2⟩, ⟨0x33C7, 0x33C7⟩,
    ⟨0x33D8, 0x33D8⟩, ⟨0xFE12, 0xFE12⟩, ⟨0xFE19, 0xFE19⟩, ⟨0xFE30, 0xFE30⟩, ⟨0xFE52, 0xFE52⟩,
    ⟨0xFFFC, 0xFFFD⟩, ⟨0x1F100, 0x1F100⟩ ]

/-- The characters that leave no trace in a domain. -/
def ignoredRanges : List CodeRange :=
  [ ⟨0x00AD, 0x00AD⟩, ⟨0x034F, 0x034F⟩, ⟨0x115F, 0x1160⟩, ⟨0x17B4, 0x17B5⟩, ⟨0x180B, 0x180F⟩,
    ⟨0x200B, 0x200B⟩, ⟨0x2060, 0x2064⟩, ⟨0x206A, 0x206F⟩, ⟨0x3164, 0x3164⟩, ⟨0xFE00, 0xFE0F⟩,
    ⟨0xFEFF, 0xFEFF⟩, ⟨0xFFA0, 0xFFA0⟩, ⟨0x1BCA0, 0x1BCA3⟩, ⟨0x1D173, 0x1D17A⟩,
    ⟨0xE0100, 0xE01EF⟩ ]

/-- The character that keeps letters apart. -/
def nonJoiner : Char := '\u200C'

/-- The character that joins letters. -/
def joiner : Char := '\u200D'

/-- The character cannot stand in a domain, where characters that are taken for others
have given way to these. -/
def isRefused (character : Char) : Bool :=
  CodeRange.anyHolds refusedRanges character
    || (!isPrintable character && character ≠ nonJoiner && character ≠ joiner)

/-- The character leaves no trace in a domain. -/
def isIgnored (character : Char) : Bool :=
  CodeRange.anyHolds ignoredRanges character

end Domain

end IntentPolicy
