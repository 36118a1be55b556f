import IntentPolicy.Intent.Vocabulary
import IntentPolicy.Time.Clock

namespace IntentPolicy

/-!
# Parts of the day

When the parts of the day begin, and the clock time of each marker of a policy.
-/

/-- When the parts of the day begin. -/
structure TimeWindows where
  dayStart : ClockTime := ⟨6, 0, 0⟩
  afternoonStart : ClockTime := ⟨12, 0, 0⟩
  nightStart : ClockTime := ⟨18, 0, 0⟩
  deriving Repr, DecidableEq

namespace TimeWindows

/-- The clock time of a marker, midnight for a policy that holds all day. -/
def resolve (windows : TimeWindows) : TimeMarker → ClockTime
  | .anyTime => ⟨0, 0, 0⟩
  | .dayStart => windows.dayStart
  | .afternoonStart => windows.afternoonStart
  | .nightStart => windows.nightStart

/-- The parts of the day begin one after another. -/
def isOrdered (windows : TimeWindows) : Bool :=
  windows.dayStart.lt windows.afternoonStart && windows.afternoonStart.lt windows.nightStart

end TimeWindows

end IntentPolicy
