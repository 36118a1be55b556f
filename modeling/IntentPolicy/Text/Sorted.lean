namespace IntentPolicy

/-!
# Sorted texts

Lists of texts in the order of their bytes, which for UTF-8 is the order of their code
points, each text once.
-/

/-- Insert a text into a sorted list without repetition. -/
def insertSorted (text : String) : List String → List String
  | [] => [text]
  | first :: rest =>
      if text < first then text :: first :: rest
      else if text = first then first :: rest
      else first :: insertSorted text rest

/-- The texts of a list in order, each once. -/
def sortedTexts (texts : List String) : List String :=
  texts.foldr insertSorted []

/-- Inserting adds exactly one member. -/
theorem mem_insertSorted {text member : String} {texts : List String} :
    member ∈ insertSorted text texts ↔ member = text ∨ member ∈ texts := by
  induction texts with
  | nil => simp [insertSorted]
  | cons first rest inductionHypothesis =>
      rw [insertSorted]
      split
      · simp
      · split
        · next same =>
            subst same
            simp
        · simp only [List.mem_cons, inductionHypothesis]
          exact or_left_comm

/-- Sorting keeps the members. -/
@[simp]
theorem mem_sortedTexts {member : String} {texts : List String} :
    member ∈ sortedTexts texts ↔ member ∈ texts := by
  induction texts with
  | nil => simp [sortedTexts]
  | cons first rest inductionHypothesis =>
      rw [sortedTexts, List.foldr_cons, mem_insertSorted, List.mem_cons]
      exact or_congr_right inductionHypothesis

end IntentPolicy
