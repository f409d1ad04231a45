import Mathlib.Data.List.Nodup
import PocketCalculator.CommandLine.Program
import PocketCalculator.Text.Alphanumeric

/-!
# Conventional platforms

## Directives

A filter is written as directives between commas.  A directive gives the finest
level that is shown of the sources that begin with its path.  Of the directives
that a source falls under, the one with the longest path decides, and a source
that falls under none is not shown.
-/

namespace PocketCalculator

namespace CommandLine

def finestRank (threshold : Threshold) : Nat :=
  (threshold.map Level.rank).getD 0

def thresholdName : Threshold -> Text
  | none => "off".toList
  | some .error => "error".toList
  | some .warn => "warn".toList
  | some .info => "info".toList
  | some .debug => "debug".toList
  | some .trace => "trace".toList

def isPathCharacter (c : Char) : Bool :=
  Text.isAlphanumeric c || c = '_' || c = ':' || c = '-'

structure IsPath (path : Text) : Prop where
  ne_nil : path ≠ []
  characters : path.all isPathCharacter = true

structure Directive where
  /-- Empty for the directive about all sources. -/
  path : Text
  threshold : Threshold
deriving DecidableEq

namespace Directive

def text (d : Directive) : Text :=
  if d.path = [] then thresholdName d.threshold
  else d.path ++ '=' :: thresholdName d.threshold

def filterText (directives : List Directive) : Text :=
  Text.join [','] (directives.map text)

/-- Whether some directives can be written and no two of them are about the same sources. -/
structure AreWritable (directives : List Directive) : Prop where
  ne_nil : directives ≠ []
  paths : forall d, d ∈ directives -> d.path = [] ∨ IsPath d.path
  distinct : (directives.map path).Nodup

/-- Whether a directive decides about a source. -/
structure Decides (directives : List Directive) (d : Directive) (source : Text) : Prop where
  mem : d ∈ directives
  applies : d.path <+: source
  longest : forall other, other ∈ directives -> other.path <+: source ->
    other.path.length ≤ d.path.length

theorem decides_singleton {d d' : Directive} {source : Text} :
    Decides [d] d' source <-> d' = d ∧ d.path <+: source := by
  constructor
  · intro h
    have hsame := List.mem_singleton.mp h.mem
    exact ⟨hsame, hsame ▸ h.applies⟩
  · intro h
    rcases h with ⟨rfl, happlies⟩
    refine ⟨List.mem_singleton_self d', happlies, ?_⟩
    intro other hother _
    exact Nat.le_of_eq (congrArg (fun d => d.path.length) (List.mem_singleton.mp hother))

end Directive

/-!
## Asking for an answer

The expression is attached to its option or follows it; then it must not look like
an option itself.  The verbose flag may stand on one side of the two.
-/

def evaluationArgument (x : Text) : Text :=
  "--eval=".toList ++ x

inductive Asks (x : Text) : List Text -> Prop where
  | attached : Asks x [evaluationArgument x]
  | separate : x.head? ≠ some '-' ∨ x = ['-'] -> Asks x ["--eval".toList, x]

def IsVerboseFlag (argument : Text) : Prop :=
  argument = "-v".toList ∨ argument = "--verbeux".toList

/-- The arguments that ask for the answer to an expression, verbosely or not. -/
inductive Calls (x : Text) : Bool -> List Text -> Prop where
  | quiet {arguments : List Text} : Asks x arguments -> Calls x false arguments
  | before {flag : Text} {arguments : List Text} : IsVerboseFlag flag ->
      Asks x arguments -> Calls x true (flag :: arguments)
  | after {flag : Text} {arguments : List Text} : IsVerboseFlag flag ->
      Asks x arguments -> Calls x true (arguments ++ [flag])

/-!
## Conventions

What is relied on is what the packages of a platform document: the long and the
short form of options, the directives of a filter, and that leaving out what cannot
be read changes nothing where all can be read.
-/

structure Platform.IsConventional (p : Platform) : Prop where
  options_of_calls : forall {x : Text} {isVerbose : Bool} {arguments : List Text},
    Calls x isVerbose arguments -> p.options arguments = .ok ⟨some x, isVerbose⟩
  filter?_filterText : forall {directives : List Directive},
    Directive.AreWritable directives ->
    exists isShown, p.filter? (Directive.filterText directives) = some isShown ∧
      forall e : Event, isShown e = true <->
        exists d, Directive.Decides directives d e.source ∧
          e.level.rank ≤ finestRank d.threshold
  filter_of_filter? : forall {t : Text} {isShown : Event -> Bool},
    p.filter? t = some isShown -> p.filter t = isShown

namespace Platform.IsConventional

variable {p : Platform} (hp : p.IsConventional)

include hp

theorem filter?_directive {d : Directive} (h : d.path = [] ∨ IsPath d.path) :
    exists isShown, p.filter? d.text = some isShown ∧
      forall e : Event, isShown e =
        (d.path.isPrefixOf e.source && decide (e.level.rank ≤ finestRank d.threshold)) := by
  have hwritable : Directive.AreWritable [d] := by
    refine ⟨List.cons_ne_nil d [], ?_, List.nodup_singleton d.path⟩
    intro other hother
    rw [List.mem_singleton.mp hother]
    exact h
  have htext : Directive.filterText [d] = d.text := by
    rw [Directive.filterText, List.map_singleton, Text.join, List.intercalate_singleton]
  rcases hp.filter?_filterText hwritable with ⟨isShown, hread, hshown⟩
  rw [htext] at hread
  refine ⟨isShown, hread, ?_⟩
  intro e
  rw [Bool.eq_iff_iff, hshown, Bool.and_eq_true, List.isPrefixOf_iff_prefix,
    decide_eq_true_iff]
  constructor
  · intro h
    rcases h with ⟨d', hdecides, hlevel⟩
    rcases Directive.decides_singleton.mp hdecides with ⟨rfl, happlies⟩
    exact ⟨happlies, hlevel⟩
  · intro h
    rcases h with ⟨happlies, hlevel⟩
    exact ⟨d, Directive.decides_singleton.mpr ⟨rfl, happlies⟩, hlevel⟩

end Platform.IsConventional

/-!
## The standard filter

The standard filter has a directive for the program, from which every event comes,
and one for all other sources.
-/

def programDirective (isVerbose : Bool) : Directive :=
  ⟨Event.programSource, some (if isVerbose then .debug else .info)⟩

def otherDirective : Directive :=
  ⟨[], some .warn⟩

theorem filterText_standard (isVerbose : Bool) :
    Directive.filterText [programDirective isVerbose, otherDirective] =
      standardFilter isVerbose := by
  cases isVerbose <;> rfl

theorem isPath_programSource : IsPath Event.programSource :=
  ⟨by decide, by decide +kernel⟩

theorem areWritable_standard (isVerbose : Bool) :
    Directive.AreWritable [programDirective isVerbose, otherDirective] := by
  refine ⟨List.cons_ne_nil _ _, ?_, ?_⟩
  · intro d hd
    rcases List.mem_pair.mp hd with rfl | rfl
    · exact .inr isPath_programSource
    · exact .inl rfl
  · change [Event.programSource, []].Nodup
    decide

theorem programSource_prefix_source (e : Event) : Event.programSource <+: e.source := by
  cases e with
  | arguments expression verbose => exact List.prefix_rfl
  | windowStart => exact List.prefix_rfl
  | keyIgnored key buffer => exact List.prefix_append ..
  | evaluationRefused expression cause => exact List.prefix_append ..
  | reading tokens items => exact List.prefix_append ..
  | assembled arena => exact List.prefix_append ..
  | rendered text count => exact List.prefix_append ..

theorem decides_standard {isVerbose : Bool} {d : Directive} {e : Event} :
    Directive.Decides [programDirective isVerbose, otherDirective] d e.source <->
      d = programDirective isVerbose := by
  have hprogram := programSource_prefix_source e
  constructor
  · intro h
    rcases List.mem_pair.mp h.mem with hd | rfl
    · exact hd
    · have hlonger : Event.programSource.length ≤ [].length :=
        h.longest _ (List.mem_cons_self ..) hprogram
      exact absurd hlonger (by decide)
  · intro hd
    subst hd
    refine ⟨List.mem_cons_self .., hprogram, ?_⟩
    intro other hother _
    rcases List.mem_pair.mp hother with rfl | rfl
    · exact Nat.le_refl _
    · exact Nat.zero_le _

namespace Platform.IsConventional

variable {p : Platform} (hp : p.IsConventional)

include hp

theorem shows_none (isVerbose : Bool) (e : Event) :
    p.shows isVerbose none e =
      decide (e.level.rank ≤ (if isVerbose then Level.debug else Level.info).rank) := by
  rcases hp.filter?_filterText (areWritable_standard isVerbose) with ⟨isShown, hread, hshown⟩
  rw [filterText_standard] at hread
  have hstandard : p.shows isVerbose none = isShown := hp.filter_of_filter? hread
  rw [hstandard, Bool.eq_iff_iff, hshown, decide_eq_true_iff]
  constructor
  · intro h
    rcases h with ⟨d, hdecides, hlevel⟩
    rw [decides_standard.mp hdecides] at hlevel
    exact hlevel
  · intro hlevel
    exact ⟨programDirective isVerbose, decides_standard.mpr rfl, hlevel⟩

end Platform.IsConventional

def reported (x : Text) (isVerbose : Bool) : List Event :=
  .arguments (some x) isVerbose :: (Evaluation.run x).events

theorem run_of_calls {p : Platform} (hp : p.IsConventional) {x : Text} {isVerbose : Bool}
    {arguments : List Text} (h : Calls x isVerbose arguments) (asked : Option Text) :
    run p arguments asked =
      ⟨0, p.logLines (p.shows isVerbose asked) (reported x isVerbose) ++ [answer x],
        none⟩ := by
  rw [run, hp.options_of_calls h]
  rfl

end CommandLine

end PocketCalculator
