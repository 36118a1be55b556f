import IntentPolicy.Character.Mark

namespace IntentPolicy

/-!
# Directions

In which direction a character is written, or how it follows those around it.
-/

/-- How a character behaves in a line of text. -/
inductive Direction where
  | leftToRight
  | rightToLeft
  | arabicLetter
  | arabicNumber
  | europeanNumber
  | europeanSeparator
  | europeanTerminator
  | commonSeparator
  | nonspacingMark
  | boundaryNeutral
  | otherNeutral
  deriving Repr, DecidableEq

/-- The characters that are neither written from left to right nor marks, and the marks
that are written from left to right. -/
def directionRanges : List (Direction × List CodeRange) :=
  [ (.leftToRight, [⟨0x0CBF, 0x0CBF⟩, ⟨0x0CC6, 0x0CC6⟩, ⟨0x11A07, 0x11A08⟩, ⟨0x11C3F, 0x11C3F⟩]),
    (.rightToLeft, [⟨0x05BE, 0x05BE⟩, ⟨0x05C0, 0x05C0⟩, ⟨0x05C3, 0x05C3⟩, ⟨0x05C6, 0x05C6⟩,
      ⟨0x05D0, 0x05F4⟩, ⟨0x07C0, 0x07EA⟩, ⟨0x07F4, 0x07F5⟩, ⟨0x07FA, 0x07FA⟩, ⟨0x07FE, 0x0815⟩,
      ⟨0x081A, 0x081A⟩, ⟨0x0824, 0x0824⟩, ⟨0x0828, 0x0828⟩, ⟨0x0830, 0x0858⟩, ⟨0x085E, 0x085E⟩,
      ⟨0x10800, 0x1091B⟩, ⟨0x10920, 0x10A00⟩, ⟨0x10A10, 0x10A35⟩, ⟨0x10A40, 0x10AE4⟩,
      ⟨0x10AEB, 0x10B35⟩, ⟨0x10B40, 0x10CFF⟩, ⟨0x10D40, 0x10D4F⟩, ⟨0x10D6E, 0x10D8F⟩,
      ⟨0x10E80, 0x10EA9⟩, ⟨0x10EAD, 0x10EB1⟩, ⟨0x10F00, 0x10F27⟩, ⟨0x10F70, 0x10F81⟩,
      ⟨0x10F86, 0x10FF6⟩, ⟨0x1E800, 0x1E8CF⟩, ⟨0x1E922, 0x1E943⟩, ⟨0x1E94B, 0x1E95F⟩]),
    (.arabicLetter, [⟨0x0608, 0x0608⟩, ⟨0x060B, 0x060B⟩, ⟨0x060D, 0x060D⟩, ⟨0x061B, 0x064A⟩,
      ⟨0x066D, 0x066F⟩, ⟨0x0671, 0x06D5⟩, ⟨0x06E5, 0x06E6⟩, ⟨0x06EE, 0x06EF⟩, ⟨0x06FA, 0x0710⟩,
      ⟨0x0712, 0x072F⟩, ⟨0x074D, 0x07A5⟩, ⟨0x07B1, 0x07B1⟩, ⟨0x0860, 0x088F⟩, ⟨0x08A0, 0x08C9⟩,
      ⟨0xFBB2, 0xFBD2⟩, ⟨0xFD90, 0xFDCE⟩, ⟨0xFE73, 0xFE73⟩, ⟨0x10D00, 0x10D23⟩,
      ⟨0x10EC2, 0x10ED8⟩, ⟨0x10F30, 0x10F45⟩, ⟨0x10F51, 0x10F59⟩, ⟨0x1EC71, 0x1ED3D⟩]),
    (.arabicNumber, [⟨0x0660, 0x0669⟩, ⟨0x066B, 0x066C⟩, ⟨0x10D30, 0x10D39⟩, ⟨0x10E60, 0x10E7E⟩]),
    (.europeanNumber, [⟨0x0030, 0x0039⟩, ⟨0x06F0, 0x06F9⟩, ⟨0x102E1, 0x102FB⟩]),
    (.europeanSeparator, [⟨0x002B, 0x002B⟩, ⟨0x002D, 0x002D⟩, ⟨0x2212, 0x2212⟩]),
    (.europeanTerminator, [⟨0x0023, 0x0025⟩, ⟨0x00A2, 0x00A5⟩, ⟨0x00B0, 0x00B1⟩, ⟨0x058F, 0x058F⟩,
      ⟨0x0609, 0x060A⟩, ⟨0x066A, 0x066A⟩, ⟨0x09F2, 0x09F3⟩, ⟨0x09FB, 0x09FB⟩, ⟨0x0AF1, 0x0AF1⟩,
      ⟨0x0BF9, 0x0BF9⟩, ⟨0x0E3F, 0x0E3F⟩, ⟨0x17DB, 0x17DB⟩, ⟨0x2030, 0x2032⟩, ⟨0x20A0, 0x20C1⟩,
      ⟨0x212E, 0x212E⟩, ⟨0x2213, 0x2213⟩, ⟨0xA838, 0xA839⟩, ⟨0x11FDD, 0x11FE0⟩,
      ⟨0x1E2FF, 0x1E2FF⟩]),
    (.commonSeparator, [⟨0x002C, 0x002C⟩, ⟨0x002E, 0x002F⟩, ⟨0x003A, 0x003A⟩, ⟨0x060C, 0x060C⟩,
      ⟨0x2044, 0x2044⟩]),
    (.boundaryNeutral, [⟨0x200C, 0x200D⟩]),
    (.otherNeutral, [⟨0x0021, 0x0022⟩, ⟨0x0026, 0x002A⟩, ⟨0x003B, 0x0060⟩, ⟨0x007B, 0x00A1⟩,
      ⟨0x00A6, 0x00AE⟩, ⟨0x00B6, 0x00D7⟩, ⟨0x00F7, 0x00F7⟩, ⟨0x02B9, 0x02BA⟩, ⟨0x02C2, 0x02CF⟩,
      ⟨0x02D2, 0x02ED⟩, ⟨0x02EF, 0x02FF⟩, ⟨0x0375, 0x0375⟩, ⟨0x03F6, 0x03F6⟩, ⟨0x058A, 0x058E⟩,
      ⟨0x0606, 0x0607⟩, ⟨0x060E, 0x060F⟩, ⟨0x06DE, 0x06DE⟩, ⟨0x06E9, 0x06E9⟩, ⟨0x07F6, 0x07F9⟩,
      ⟨0x0BF3, 0x0BF8⟩, ⟨0x0BFA, 0x0BFA⟩, ⟨0x0C78, 0x0C7E⟩, ⟨0x0F3A, 0x0F3D⟩, ⟨0x1390, 0x1399⟩,
      ⟨0x1400, 0x1400⟩, ⟨0x169B, 0x169C⟩, ⟨0x17F0, 0x180A⟩, ⟨0x1940, 0x1945⟩, ⟨0x19DE, 0x19FF⟩,
      ⟨0x2010, 0x2027⟩, ⟨0x2035, 0x2043⟩, ⟨0x2045, 0x205E⟩, ⟨0x2104, 0x2129⟩, ⟨0x213A, 0x214D⟩,
      ⟨0x218A, 0x2211⟩, ⟨0x2214, 0x2335⟩, ⟨0x237B, 0x2394⟩, ⟨0x2396, 0x2426⟩, ⟨0x2440, 0x26AB⟩,
      ⟨0x26AD, 0x27FF⟩, ⟨0x2900, 0x2B95⟩, ⟨0x2B97, 0x2BFF⟩, ⟨0x2CE5, 0x2CEA⟩, ⟨0x2CF9, 0x2CFF⟩,
      ⟨0x2E00, 0x3004⟩, ⟨0x3008, 0x3020⟩, ⟨0x3030, 0x3030⟩, ⟨0x3037, 0x3037⟩, ⟨0x303D, 0x303F⟩,
      ⟨0x30A0, 0x30A0⟩, ⟨0x30FB, 0x30FB⟩, ⟨0x31C0, 0x31E3⟩, ⟨0x4DC0, 0x4DFF⟩, ⟨0xA490, 0xA4C6⟩,
      ⟨0xA60D, 0xA60F⟩, ⟨0xA673, 0xA673⟩, ⟨0xA67E, 0xA67F⟩, ⟨0xA700, 0xA721⟩, ⟨0xA788, 0xA788⟩,
      ⟨0xA828, 0xA82B⟩, ⟨0xA874, 0xA877⟩, ⟨0xAB6A, 0xAB6B⟩, ⟨0xFD3E, 0xFD4F⟩, ⟨0xFDCF, 0xFDFF⟩,
      ⟨0xFE45, 0xFE46⟩, ⟨0x10101, 0x10101⟩, ⟨0x10140, 0x1018C⟩, ⟨0x10190, 0x101A0⟩,
      ⟨0x1091F, 0x1091F⟩, ⟨0x10B39, 0x10B3F⟩, ⟨0x11052, 0x11065⟩, ⟨0x11660, 0x1166C⟩,
      ⟨0x11FD5, 0x11FDC⟩, ⟨0x11FE1, 0x11FF1⟩, ⟨0x16FE2, 0x16FE2⟩, ⟨0x1D1E9, 0x1D241⟩,
      ⟨0x1D245, 0x1D245⟩, ⟨0x1D300, 0x1D356⟩, ⟨0x1EEF0, 0x1F12F⟩, ⟨0x1F16D, 0x1F16F⟩,
      ⟨0x1F1AD, 0x1F1AD⟩, ⟨0x1F260, 0x1F6D7⟩, ⟨0x1F6DC, 0x1F776⟩, ⟨0x1F77B, 0x1F8B1⟩,
      ⟨0x1F900, 0x1FA53⟩, ⟨0x1FA60, 0x1FA88⟩, ⟨0x1FA90, 0x1FABD⟩, ⟨0x1FABF, 0x1FAC5⟩,
      ⟨0x1FACE, 0x1FADB⟩, ⟨0x1FAE0, 0x1FAE8⟩, ⟨0x1FAF0, 0x1FBCA⟩]) ]

/-- The direction of a character. -/
def direction (character : Char) : Direction :=
  match directionRanges.find? fun entry => CodeRange.anyHolds entry.2 character with
  | some (value, _) => value
  | none => if isNonspacingMark character then .nonspacingMark else .leftToRight

end IntentPolicy
