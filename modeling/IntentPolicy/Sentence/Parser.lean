import IntentPolicy.Sentence.Token
import IntentPolicy.Sentence.Validation

namespace IntentPolicy

/-!
# Parsing sentences

The parser takes one token at a time and remembers the first failure, behind which it
swallows every token.  Parsing a text feeds its tokens until one is refused.
-/

/-- Why a sentence is not accepted. -/
inductive SentenceError where
  | transition (position : Position) (index : Nat) (token : String)
  | validation (position : Position) (index : Nat) (token : String) (reason : TokenError)
  | incomplete (position : Position)
  deriving Repr, DecidableEq

namespace SentenceError

/-- The position at which the sentence failed. -/
def position : SentenceError → Position
  | .transition position _ _ => position
  | .validation position _ _ _ => position
  | .incomplete position => position

/-- The number of tokens before the refused one; none when the sentence ran out. -/
def index? : SentenceError → Option Nat
  | .transition _ index _ => some index
  | .validation _ index _ _ => some index
  | .incomplete _ => none

/-- The words that would have been admitted instead. -/
def expected (error : SentenceError) : List String :=
  error.position.expected

/-- The wording of the error. -/
def message : SentenceError → String
  | .transition position index token =>
      let listed := ", ".intercalate position.expected
      s!"{position.name}: illegal transition at token {index}: " ++
        s!"expected one of [{listed}], got '{token}'"
  | .validation position index token reason =>
      s!"{position.name}: invalid token '{token}' at position {index}: {reason.message}"
  | .incomplete _ => "intent is incomplete"

end SentenceError

/-- A parser part way through a sentence. -/
structure Parser where
  position : Position := .start
  intent : Intent := {}
  consumed : Nat := 0
  failure : Option SentenceError := none
  deriving DecidableEq

namespace Parser

/-- The words that would be admitted next, or would have been at the failure. -/
def expected (parser : Parser) : List String :=
  match parser.failure with
  | some failure => failure.expected
  | none => parser.position.expected

/--
Where a token leads and at which position it is recorded.  A user and a threshold are
free, and a token that names no currency stands for the threshold behind it.
-/
def route? (position : Position) (token : String) : Option (Position × Position) :=
  match position with
  | .user => some (.user, .afterUser)
  | .threshold => some (.threshold, .costBounded)
  | .currency =>
      if (Currency.ofText? token).isNone then some (.threshold, .costBounded)
      else (position.next? token).map fun next => (.currency, next)
  | _ => (position.next? token).map fun next => (position, next)

/-- Read one token at a position: the next position and the intent with the token recorded. -/
def step (position : Position) (intent : Intent) (index : Nat) (token : String) :
    Except SentenceError (Position × Intent) :=
  match route? position token with
  | none => .error (.transition position index token)
  | some (recorded, next) =>
      match intent.record recorded token with
      | .ok intent => .ok (next, intent)
      | .error reason => .error (.validation position index token reason)

/-- Feed one token: the position behind it, or why it is refused; and the parser behind it. -/
def feed (parser : Parser) (token : String) : Except SentenceError Position × Parser :=
  if parser.position = .error then
    (.ok .error, { parser with consumed := parser.consumed + 1 })
  else
    match step parser.position parser.intent parser.consumed token with
    | .ok (next, intent) =>
        (.ok next, ⟨next, intent, parser.consumed + 1, parser.failure⟩)
    | .error failure =>
        (.error failure, ⟨.error, parser.intent, parser.consumed + 1, some failure⟩)

/-- Release the intent if the sentence may end here. -/
def finish (parser : Parser) : Except SentenceError Intent :=
  match parser.failure with
  | some failure => .error failure
  | none =>
      if parser.position.isAccepting then .ok parser.intent
      else .error (.incomplete parser.position)

/-- Feed tokens until one is refused, then release the intent. -/
def run (parser : Parser) : List String → Except SentenceError Intent
  | [] => parser.finish
  | token :: rest =>
      match parser.feed token with
      | (.ok _, next) => next.run rest
      | (.error failure, _) => .error failure

end Parser

/-- Parse a whole sentence. -/
def parseSentence (text : String) : Except SentenceError Intent :=
  ({} : Parser).run (tokenize text)

end IntentPolicy
