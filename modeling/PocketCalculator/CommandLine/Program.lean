import PocketCalculator.CommandLine.Platform
import PocketCalculator.Evaluation

/-!
# The program

## What a run prints

A run with an expression prints its answer after the log lines that the filter
shows.  A run without one opens the window and lasts until it is closed.
-/

namespace PocketCalculator

namespace CommandLine

/-- The filter in force when none can be read in the environment. -/
def standardFilter (isVerbose : Bool) : Text :=
  if isVerbose then "calculatrice_web=debug,warn".toList
  else "calculatrice_web=info,warn".toList

namespace Platform

/-- Whether an event is shown; a filter asked for in the environment comes first. -/
def shows (p : Platform) (isVerbose : Bool) (asked : Option Text) : Event -> Bool :=
  (asked.bind p.filter?).getD (p.filter (standardFilter isVerbose))

def logLines (p : Platform) (isShown : Event -> Bool) (events : List Event) : List Text :=
  (events.filter isShown).map p.line

end Platform

def runWith (p : Platform) (options : Options) (asked : Option Text) : Run :=
  let isShown := p.shows options.isVerbose asked
  let opening := Event.arguments options.expression options.isVerbose
  match options.expression with
  | some expression =>
      let evaluation := Evaluation.run expression
      ⟨0, p.logLines isShown (opening :: evaluation.events) ++ [evaluation.outcome.text],
        none⟩
  | none =>
      let lines := p.logLines isShown (opening :: .windowStart :: p.windowEvents)
      match p.windowError with
      | none => ⟨0, lines, none⟩
      | some e => ⟨1, lines, some ("Error: ".toList ++ e)⟩

def run (p : Platform) (arguments : List Text) (asked : Option Text) : Run :=
  match p.options arguments with
  | .ok options => runWith p options asked
  | .error stopped => stopped

end CommandLine

end PocketCalculator
