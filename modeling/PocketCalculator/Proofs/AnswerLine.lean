import PocketCalculator.Proofs.Platforms

/-!
# The line of an answer

## What evaluations report

An evaluation reports nothing but details, which are finer than what a filter
shows unless it is asked to.
-/

namespace PocketCalculator

def Event.IsDetail (e : Event) : Prop :=
  Level.info.rank < e.level.rank

namespace Evaluation

def ReportsDetails (evaluation : Evaluation) : Prop :=
  forall e, e ∈ evaluation.events -> e.IsDetail

theorem isDetail_reading (tokens : List Token) (items : List Postfix.Item) :
    (Event.reading tokens items).IsDetail :=
  show Level.info.rank < Level.trace.rank by decide

theorem isDetail_assembled (arena : Arena) : (Event.assembled arena).IsDetail :=
  show Level.info.rank < Level.trace.rank by decide

section

variable {s : Text} {events : List Event}

theorem reportsDetails_refuse (h : forall e, e ∈ events -> e.IsDetail)
    (cause : EvaluationError) : ReportsDetails (refuse s cause events) := by
  intro e he
  rcases List.mem_append.mp he with he | he
  · exact h e he
  · rw [List.mem_singleton.mp he]
    exact show Level.info.rank < Level.debug.rank by decide

theorem reportsDetails_finishedBy (h : forall e, e ∈ events -> e.IsDetail)
    (value : Option Binary64) : ReportsDetails (finishedBy s value events) := by
  unfold finishedBy
  cases value with
  | none => exact reportsDetails_refuse h _
  | some x =>
      by_cases hfinite : x.isFinite = true
      · simp only [hfinite, if_true]
        exact h
      · simp only [hfinite]
        exact reportsDetails_refuse h _

end

theorem reportsDetails_run (s : Text) : ReportsDetails (run s) := by
  unfold run
  split
  · intro e he
    cases he
  · split
    · exact reportsDetails_refuse (by simp) _
    · split
      · exact reportsDetails_refuse (by simp) _
      · split
        · exact reportsDetails_refuse (by simp [isDetail_reading]) _
        · exact reportsDetails_finishedBy (by simp [isDetail_reading, isDetail_assembled]) _

end Evaluation

/-!
## An attached expression

One argument asks for the answer to an expression.  The answer is the last line
that is printed, and the only one unless a filter is asked for.
-/

namespace CommandLine

variable {p : Platform} (hp : p.IsConventional) (x : Text)

include hp

theorem run_evaluationArgument (asked : Option Text) :
    run p [evaluationArgument x] asked =
      ⟨0, p.logLines (p.shows false asked) (reported x false) ++ [answer x], none⟩ :=
  run_of_calls hp (Calls.quiet Asks.attached) asked

theorem logLines_reported_none :
    p.logLines (p.shows false none) (reported x false) = [] := by
  have hdetail : forall e, e ∈ reported x false -> e.IsDetail := by
    intro e he
    cases he with
    | head => exact show Level.info.rank < Level.debug.rank by decide
    | tail _ he => exact Evaluation.reportsDetails_run x e he
  have hnone : (reported x false).filter (p.shows false none) = [] := by
    apply List.filter_eq_nil_iff.mpr
    intro e he hshown
    rw [hp.shows_none, decide_eq_true_iff] at hshown
    exact Nat.not_le_of_lt (hdetail e he) hshown
  rw [Platform.logLines, hnone]
  rfl

theorem run_evaluationArgument_none :
    run p [evaluationArgument x] none = ⟨0, [answer x], none⟩ := by
  rw [run_evaluationArgument hp, logLines_reported_none hp]
  rfl

end CommandLine

end PocketCalculator
