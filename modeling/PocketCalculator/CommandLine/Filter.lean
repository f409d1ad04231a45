import PocketCalculator.CommandLine.Pattern
import PocketCalculator.Event

/-!
# Filters

## Which events are shown

A filter is a list of rules, each giving the finest level that is shown for the
sources whose names begin with the rule's source.  A rule may also ask for an
event to have certain fields.  Of the rules that apply to an event the most
specific one decides: the one with the longest source, and among those the one
that asks for more fields; of two equal rules the later one.  An event to which
no rule applies is not shown.
-/

namespace PocketCalculator

def Event.fieldNames (e : Event) : List Text :=
  "message".toList :: e.fields.map Field.name

namespace CommandLine

structure Rule where
  /-- Empty for a rule that applies to every source. -/
  source : Text
  /-- The names of the fields that an event must have. -/
  fields : List Text
  /-- Whether the rule is about events inside a span; this program opens none. -/
  isForSpans : Bool
  threshold : Threshold
deriving DecidableEq

abbrev Filter :=
  List Rule

namespace Rule

def forSource (source : Text) (threshold : Threshold) : Rule :=
  ⟨source, [], false, threshold⟩

def appliesTo (r : Rule) (e : Event) : Bool :=
  !r.isForSpans && r.source.isPrefixOf e.source &&
    r.fields.all fun name => e.fieldNames.contains name

def allows (r : Rule) (level : Level) : Bool :=
  r.threshold.any fun finest => level.rank ≤ finest.rank

def isAtLeastAsSpecificAs (r s : Rule) : Bool :=
  if r.source.length ≠ s.source.length then s.source.length < r.source.length
  else if r.fields.length ≠ s.fields.length then s.fields.length < r.fields.length
  else
    !r.fields.lex s.fields fun name other =>
      name.lex other fun c d => c.toNat < d.toNat

end Rule

namespace Filter

def better (best : Option Rule) (r : Rule) : Option Rule :=
  match best with
  | none => some r
  | some b => if r.isAtLeastAsSpecificAs b then some r else some b

/-- The rule that decides: the last of the most specific rules that apply. -/
def rule? (f : Filter) (e : Event) : Option Rule :=
  (f.filter fun r => r.appliesTo e).foldl better none

def shows (f : Filter) (e : Event) : Bool :=
  (f.rule? e).any fun r => r.allows e.level

end Filter

/-!
## Written levels

A level is written as its name in any case, or as a number from zero, for
nothing, to five.  A number may have a plus sign and leading zeros.
-/

def number? (t : Text) : Option Nat :=
  let digits := if t.head? = some '+' then t.drop 1 else t
  if !digits.isEmpty && digits.all Char.isDigit then some (Nat.ofDigitChars 10 digits 0)
  else none

def thresholdOfNumber? : Nat -> Option Threshold
  | 0 => some none
  | 1 => some (some .error)
  | 2 => some (some .warn)
  | 3 => some (some .info)
  | 4 => some (some .debug)
  | 5 => some (some .trace)
  | _ => none

def thresholdOfName? (name : Text) : Option Threshold :=
  if name = "off".toList then some none
  else if name = "error".toList then some (some .error)
  else if name = "warn".toList then some (some .warn)
  else if name = "info".toList then some (some .info)
  else if name = "debug".toList then some (some .debug)
  else if name = "trace".toList then some (some .trace)
  else none

def threshold? (t : Text) : Option Threshold :=
  match number? t with
  | some n => thresholdOfNumber? n
  | none => thresholdOfName? (t.map Char.toLower)

/-!
## Written rules

A rule is written as a level alone, or as a source, after it perhaps a condition
in brackets, and after that perhaps an equals sign and a level; either of source
and condition may be missing.  Without a level everything is shown.  A condition
names a span, or a field in braces, or both; a field with a value can only be
asked of a span.

Blanks at the two ends of a rule are looked past to find its parts.  The parts
themselves are taken from the rule as it is written and counted from its first
character, so a rule with blanks in front of it names a source that no event
has.
-/

namespace Rule

def opens (c : Char) : Bool :=
  c = '-' || c = ':' || c = '_' || Text.isAlphanumeric c

def part (t : Text) (start stop : Nat) : Text :=
  (t.drop start).take (stop - start)

/--
The threshold that a written rule ends in.  The rest is what follows the other
parts, and the place is where it begins.
-/
def lastThreshold? (written : Text) (place : Nat) (rest : Text) : Option Threshold :=
  match rest with
  | [] => some (some .trace)
  | '=' :: _ =>
      let level := written.drop (place + 1)
      if level = [] then some (some .trace) else threshold? level
  | _ => none

/--
The field in a condition: its name, and whether a value is asked for.  The value
ends at a second equals sign.
-/
def fieldCondition? (t : Text) : Option (Text × Bool) :=
  let name := t.takeWhile (· != '=')
  match t.drop name.length with
  | [] => some (name, false)
  | _ :: rest =>
      if Pattern.isValue (rest.takeWhile (· != '=')) then some (name, true) else none

/-- The rule whose condition begins at the given place, after the bracket. -/
def ofCondition? (written source : Text) (place : Nat) (rest : Text) : Option Rule :=
  let span := rest.takeWhile fun c => c != ']' && c != '\x7b'
  let afterSpan := place + span.length + 1
  match rest.drop span.length with
  | ']' :: tail =>
      (lastThreshold? written afterSpan tail).map fun threshold =>
        ⟨source, [], true, threshold⟩
  | '\x7b' :: tail =>
      let field := tail.takeWhile (· != '\x7d')
      let afterField := afterSpan + field.length
      match tail.drop field.length with
      | '\x7d' :: ']' :: last =>
          if field = [] then none
          else
            (fieldCondition? (part written afterSpan afterField)).bind fun condition =>
              (lastThreshold? written (afterField + 2) last).map fun threshold =>
                ⟨source, [condition.1], condition.2 || !span.isEmpty, threshold⟩
      | _ => none
  | _ => none

def ofSource? (written trimmed : Text) : Option Rule :=
  let source := trimmed.takeWhile fun c => c != '=' && c != '['
  match trimmed.drop source.length with
  | [] =>
      match threshold? written with
      | some threshold => some (.forSource [] threshold)
      | none => some (.forSource written (some .trace))
  | '[' :: rest =>
      ofCondition? written (written.take source.length) (source.length + 1) rest
  | rest =>
      (lastThreshold? written source.length rest).map fun threshold =>
        .forSource (written.take source.length) threshold

def ofText? (written : Text) : Option Rule :=
  match Text.trim written with
  | [] => none
  | c :: rest =>
      if c = '[' then ofCondition? written [] 1 rest
      else if opens c then ofSource? written (c :: rest)
      else none

end Rule

namespace Filter

def parts (t : Text) : List Text :=
  (t.splitOn ',').filter fun part => !part.isEmpty

/-- A filter without rules shows errors only. -/
def ofRules (rules : List Rule) : Filter :=
  if rules.isEmpty then [.forSource [] (some .error)] else rules

def ofText? (t : Text) : Option Filter :=
  ((parts t).mapM Rule.ofText?).map ofRules

/-- The filter of those rules in a text that can be read. -/
def ofText (t : Text) : Filter :=
  ofRules ((parts t).filterMap Rule.ofText?)

end Filter

end CommandLine

end PocketCalculator
