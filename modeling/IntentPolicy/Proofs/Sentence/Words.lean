import IntentPolicy.Intent.Vocabulary

namespace IntentPolicy

/-!
# Reading words back

The values of a vocabulary have distinct words, so a word is read as a value exactly when
it is the word of that value.
-/

/-- A vocabulary no two values of which are written alike. -/
class DistinctWords (Value : Type) [Vocabulary Value] : Prop where
  ofWord?_wordOf : ∀ value : Value, Vocabulary.ofWord? (wordOf value) = some value

instance : DistinctWords Timeframe where
  ofWord?_wordOf value := by cases value <;> decide

instance : DistinctWords Blockchain where
  ofWord?_wordOf value := by cases value <;> decide

instance : DistinctWords Profile where
  ofWord?_wordOf value := by cases value <;> decide

instance : DistinctWords Filter where
  ofWord?_wordOf value := by cases value <;> decide

instance : DistinctWords Modifier where
  ofWord?_wordOf value := by cases value <;> decide

instance : DistinctWords Interval where
  ofWord?_wordOf value := by cases value <;> decide

instance : DistinctWords Currency where
  ofWord?_wordOf value := by cases value <;> decide

namespace Vocabulary

variable {Value : Type} [Vocabulary Value]

theorem eq_wordOf_of_ofWord?
    {text : String}
    {value : Value}
    (read : ofWord? text = some value) :
    text = wordOf value := by
  unfold ofWord? at read
  have sameWord := List.find?_some read
  exact (beq_iff_eq.mp sameWord).symm

end Vocabulary

end IntentPolicy
