import PocketCalculator.Event
import PocketCalculator.Expression.Assembly
import PocketCalculator.Postfix.Yard
import PocketCalculator.Token.Lexer

/-!
# Evaluation

## From a text to an outcome

A blank text has no value and no error.  Any other text is read into tokens, put
into a postfix list and assembled into an arena, whose value is the outcome when
it is finite.  Only the final value is tested: an infinity on the way may still
lead to a finite value.
-/

namespace PocketCalculator

inductive Outcome where
  | blank
  | number (x : Binary64)
  | refused (cause : EvaluationError)
deriving DecidableEq

namespace Outcome

def text : Outcome -> Text
  | blank => []
  | number x => x.display
  | refused cause => cause.display

end Outcome

/-- An outcome with the events on the way to it, in order. -/
structure Evaluation where
  outcome : Outcome
  events : List Event

namespace Evaluation

def refuse (expression : Text) (cause : EvaluationError) (events : List Event) :
    Evaluation :=
  ⟨.refused cause, events ++ [.evaluationRefused expression cause]⟩

def finishedBy (expression : Text) (value : Option Binary64) (events : List Event) :
    Evaluation :=
  match value with
  | some x =>
      if x.isFinite then ⟨.number x, events⟩
      else refuse expression .divisionByZero events
  | none => refuse expression (.malformed .invalidExpression) events

def run (expression : Text) : Evaluation :=
  if expression.all Text.isBlank then ⟨.blank, []⟩
  else
    match Token.read expression with
    | .error cause => refuse expression (.malformed cause) []
    | .ok tokens =>
        match Postfix.ofTokens tokens with
        | .error cause => refuse expression (.malformed cause) []
        | .ok items =>
            match Arena.ofPostfix items with
            | .error cause =>
                refuse expression (.malformed cause) [.reading tokens items]
            | .ok arena =>
                finishedBy expression arena.value?
                  [.reading tokens items, .assembled arena]

end Evaluation

def evaluate (expression : Text) : Outcome :=
  (Evaluation.run expression).outcome

def answer (expression : Text) : Text :=
  (evaluate expression).text

end PocketCalculator
