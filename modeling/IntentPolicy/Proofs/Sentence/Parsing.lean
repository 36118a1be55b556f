import IntentPolicy.Proofs.Sentence.Meaning

namespace IntentPolicy

/-!
# Parsing accepts the grammar

A parser accepts the tokens of exactly those sentences whose filters do not conflict, and
releases what they mean.
-/

/-- A fresh parser releases the meaning of every sentence, and accepts nothing else. -/
theorem Parser.run_eq_ok_iff_sentence
    {tokens : List String}
    {released : Intent} :
    ({} : Parser).run tokens = .ok released ↔
      ∃ sentence : Sentence, tokens = sentence.tokens ∧
        AreCompatible sentence.selection.namedFilters ∧ released = sentence.meaning := by
  have acceptedFromStart :
      ({} : Parser).run tokens = .ok released ↔ Accepts .start {} tokens released := by
    apply run_eq_ok_iff_accepts
    decide
  rw [acceptedFromStart, Accepts.start_iff]
  simp only [Sentence.record?_eq_some_iff]

/--
A text is parsed exactly when its tokens are those of a sentence whose filters do not name
both a private and a public blockchain, and the released intent is what it means.
-/
theorem parseSentence_eq_ok_iff
    (text : String)
    (released : Intent) :
    parseSentence text = .ok released ↔
      ∃ sentence : Sentence, tokenize text = sentence.tokens ∧
        AreCompatible sentence.selection.namedFilters ∧ released = sentence.meaning := by
  rw [parseSentence]
  exact Parser.run_eq_ok_iff_sentence

end IntentPolicy
