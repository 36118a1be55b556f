namespace IntentPolicy

/-!
# Splitting

Lists of characters split at characters that pass a test.
-/

/-- Split a list at every occurrence of a character. -/
def splitAtEach (separator : Char) : List Char → List (List Char)
  | [] => [[]]
  | character :: rest =>
      if character = separator then [] :: splitAtEach separator rest
      else
        match splitAtEach separator rest with
        | first :: others => (character :: first) :: others
        | [] => [[character]]

/-- Split at the first character that passes a test, which goes with the second part. -/
def splitBefore (test : Char → Bool) (characters : List Char) : List Char × List Char :=
  (characters.takeWhile (!test ·), characters.dropWhile (!test ·))

/-- A list is cut at the first item that fails a test. -/
theorem cut_at_first
    {Item : Type}
    {test : Item → Bool}
    {front : List Item}
    {mark : Item}
    (behind : List Item)
    (passed : ∀ item ∈ front, test item = true)
    (failed : ¬ test mark = true) :
    (front ++ mark :: behind).takeWhile test = front ∧
      (front ++ mark :: behind).dropWhile test = mark :: behind := by
  constructor
  · rw [List.takeWhile_append_of_pos passed, List.takeWhile_cons_of_neg failed, List.append_nil]
  · rw [List.dropWhile_append_of_pos passed, List.dropWhile_cons_of_neg failed]

end IntentPolicy
