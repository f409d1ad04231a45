import PocketCalculator.Expression.Arena
import PocketCalculator.Error
import PocketCalculator.Postfix.Basic

/-!
# Events

## What is reported

The calculator reports what it does as events.  An event holds the things it is
about; its texts are made only when it is written, so that reporting costs
nothing as long as nobody listens.
-/

namespace PocketCalculator

/-- How detailed an event is, from the gravest to the finest. -/
inductive Level where
  | error
  | warn
  | info
  | debug
  | trace
deriving DecidableEq

namespace Level

def rank : Level -> Nat
  | error => 1
  | warn => 2
  | info => 3
  | debug => 4
  | trace => 5

end Level

/-- The finest level that is shown; `none` shows nothing. -/
abbrev Threshold :=
  Option Level

inductive Event where
  /-- The command line was read. -/
  | arguments (expression : Option Text) (verbose : Bool)
  | windowStart
  | keyIgnored (key buffer : Text)
  | evaluationRefused (expression : Text) (cause : EvaluationError)
  | reading (tokens : List Token) (items : List Postfix.Item)
  | assembled (arena : Arena)
  /-- The screen was rendered; the count includes this rendering. -/
  | rendered (text : Text) (count : Nat)

namespace Event

/-- A named piece of an event; a quoted one is written between quotes in a line. -/
structure Field where
  name : Text
  value : Text
  isQuoted : Bool

def level : Event -> Level
  | arguments .. => .debug
  | windowStart => .info
  | keyIgnored .. => .debug
  | evaluationRefused .. => .debug
  | reading .. => .trace
  | assembled _ => .trace
  | rendered .. => .trace

def programSource : Text :=
  "calculatrice_web".toList

def entrySource : Text :=
  programSource ++ "::noyau::saisie".toList

def evaluationSource : Text :=
  programSource ++ "::noyau::eval".toList

def screenSource : Text :=
  programSource ++ "::app::etat".toList

/-- The part of the program that an event comes from, by which filters select it. -/
def source : Event -> Text
  | arguments .. => programSource
  | windowStart => programSource
  | keyIgnored .. => entrySource
  | evaluationRefused .. => evaluationSource
  | reading .. => evaluationSource
  | assembled _ => evaluationSource
  | rendered .. => screenSource

def message : Event -> Text
  | arguments .. => "arguments".toList
  | windowStart => "démarrage de la fenêtre".toList
  | keyIgnored .. => "jeton refusé".toList
  | evaluationRefused .. => "évaluation refusée".toList
  | reading .. => "lecture".toList
  | assembled _ => "AST".toList
  | rendered .. => "rendu".toList

def argumentsText (expression : Option Text) (verbose : Bool) : Text :=
  "Args \x7b eval: ".toList ++
    (match expression with
      | some t => "Some(".toList ++ t.quoted ++ [')']
      | none => "None".toList) ++
    ", verbeux: ".toList ++
    (if verbose then "true" else "false").toList ++ " \x7d".toList

def fields : Event -> List Field
  | arguments expression verbose =>
      [⟨"args".toList, argumentsText expression verbose, false⟩]
  | windowStart => []
  | keyIgnored key buffer =>
      [⟨"jeton".toList, key, true⟩, ⟨"tampon".toList, buffer, true⟩]
  | evaluationRefused expression cause =>
      [⟨"expr".toList, expression, true⟩, ⟨"erreur".toList, cause.logText, false⟩]
  | reading tokens items =>
      [⟨"jetons".toList, Token.listText tokens, false⟩,
       ⟨"rpn".toList, Postfix.Item.listText items, false⟩]
  | assembled arena =>
      [⟨"noeuds".toList, Text.ofNat arena.size, false⟩,
       ⟨"arbre".toList, arena.text, false⟩]
  | rendered text count =>
      [⟨"texte".toList, text, false⟩, ⟨"rendus".toList, Text.ofNat count, false⟩]

end Event

end PocketCalculator
