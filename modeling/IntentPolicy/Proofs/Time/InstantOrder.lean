import IntentPolicy.Time.Instant

namespace IntentPolicy.Instant

/-!
# The order of instants

Instants are ordered by seconds and then nanoseconds, and adding microseconds goes on in
that order, through leap seconds as well.
-/

variable {left middle right : Instant}

/-- Earlier by the second, or by the nanosecond in one second. -/
theorem lt_iff :
    left.lt right = true ↔
      left.second < right.second ∨
        left.second = right.second ∧ left.nanosecond < right.nanosecond := by
  simp [lt]

theorem not_lt_iff :
    left.lt right = false ↔
      right.second < left.second ∨
        right.second = left.second ∧ right.nanosecond ≤ left.nanosecond := by
  rw [← Bool.not_eq_true, lt_iff]
  omega

theorem lt_of_lt_of_not_lt
    (before : left.lt middle = true)
    (notAfter : right.lt middle = false) :
    left.lt right = true := by
  rw [lt_iff] at before ⊢
  rw [not_lt_iff] at notAfter
  omega

theorem lt_of_not_lt_of_lt
    (notAfter : middle.lt left = false)
    (behind : middle.lt right = true) :
    left.lt right = true := by
  rw [lt_iff] at behind ⊢
  rw [not_lt_iff] at notAfter
  omega

theorem not_lt_trans
    (notBehind : right.lt middle = false)
    (notAfter : middle.lt left = false) :
    right.lt left = false := by
  rw [not_lt_iff] at notBehind notAfter ⊢
  omega

theorem lt_trans
    (before : left.lt middle = true)
    (behind : middle.lt right = true) :
    left.lt right = true := by
  rw [lt_iff] at before behind ⊢
  omega

theorem not_lt_of_lt
    (before : left.lt right = true) :
    right.lt left = false := by
  rw [lt_iff] at before
  rw [not_lt_iff]
  omega

/-- Of two different instants one is earlier. -/
theorem eq_of_not_lt
    (notBefore : left.lt right = false)
    (notAfter : right.lt left = false) :
    left = right := by
  rw [not_lt_iff] at notBefore notAfter
  have sameSecond : left.second = right.second := by omega
  have sameNanosecond : left.nanosecond = right.nanosecond := by omega
  cases left
  cases right
  cases sameSecond
  cases sameNanosecond
  rfl

/--
Adding microseconds stays in a leap second, or counts on from the instant, and then from
the end of a leap second.
-/
theorem addMicroseconds_parts
    (instant : Instant)
    (microseconds : Nat) :
    (1000000000 ≤ instant.nanosecond ∧ instant.nanosecond + 1000 * microseconds < 2000000000 ∧
      (instant.addMicroseconds microseconds).second = instant.second ∧
      (instant.addMicroseconds microseconds).nanosecond =
        instant.nanosecond + 1000 * microseconds) ∨
    ((instant.nanosecond < 1000000000 ∨
        2000000000 ≤ instant.nanosecond + 1000 * microseconds) ∧
      (instant.addMicroseconds microseconds).nanosecond < 1000000000 ∧
      1000000000 * (instant.addMicroseconds microseconds).second +
          (instant.addMicroseconds microseconds).nanosecond =
        1000000000 * instant.second + instant.nanosecond + 1000 * microseconds -
          if 1000000000 ≤ instant.nanosecond then 1000000000 else 0) := by
  have value : billion = 1000000000 := rfl
  simp only [addMicroseconds]
  by_cases leap :
      billion ≤ instant.nanosecond ∧ microseconds / 1000000 = 0 ∧
        instant.nanosecond + microseconds % 1000000 * 1000 < 2 * billion
  · simp only [if_pos leap]
    rw [value] at leap
    have sameNanosecond :
        instant.nanosecond + microseconds % 1000000 * 1000 =
          instant.nanosecond + 1000 * microseconds := by
      omega
    exact Or.inl ⟨leap.1, by omega, trivial, sameNanosecond⟩
  · simp only [if_neg leap]
    rw [value] at leap
    right
    by_cases late : billion ≤ instant.nanosecond
    · simp only [if_pos late]
      rw [value] at late ⊢
      rw [if_pos late]
      omega
    · simp only [if_neg late]
      rw [value] at late ⊢
      rw [if_neg late]
      omega

/-- More microseconds lead to a later instant. -/
theorem addMicroseconds_lt
    (instant : Instant)
    {fewer more : Nat}
    (ordered : fewer < more) :
    (instant.addMicroseconds fewer).lt (instant.addMicroseconds more) = true := by
  have fewerParts := instant.addMicroseconds_parts fewer
  have moreParts := instant.addMicroseconds_parts more
  rw [lt_iff]
  split at fewerParts <;> omega

theorem addMicroseconds_not_lt
    (instant : Instant)
    (microseconds : Nat) :
    (instant.addMicroseconds microseconds).lt instant = false := by
  have parts := instant.addMicroseconds_parts microseconds
  rw [not_lt_iff]
  split at parts <;> omega

end IntentPolicy.Instant
