import PocketCalculator.Proofs.AnswerLine
import PocketCalculator.Proofs.LogTexts
import PocketCalculator.Proofs.Neighbours
import PocketCalculator.Proofs.TerminalPlatform

/-!
# Logged runs

## Requests

The environment may ask for events up to a level, from all sources or from those
whose names begin with a path.  Without a request the program's own events are
shown, up to a level that depends on its verbosity.
-/

namespace PocketCalculator

namespace CommandLine

/-- What the environment asks of the log. -/
inductive Request where
  | unset
  | level (threshold : Threshold)
  | source (path : Text) (threshold : Threshold)

namespace Request

def IsReadable : Request -> Prop
  | unset => True
  | level _ => True
  | source path _ => IsPath path

def written : Request -> Option Text
  | unset => none
  | level threshold => some (thresholdName threshold)
  | source path threshold => some (path ++ '=' :: thresholdName threshold)

/-- Whether an event is let through; verbosity counts only when nothing is asked for. -/
def admits : Request -> Bool -> Event -> Bool
  | unset, isVerbose, e =>
      e.level.rank ≤ (if isVerbose then Level.debug else Level.info).rank
  | level threshold, _, e => e.level.rank ≤ finestRank threshold
  | source path threshold, _, e =>
      path.isPrefixOf e.source && decide (e.level.rank ≤ finestRank threshold)

theorem exists_directive {request : Request} (h : request.IsReadable) {t : Text}
    (ht : request.written = some t) :
    exists d : Directive, (d.path = [] ∨ IsPath d.path) ∧ d.text = t ∧
      forall isVerbose e, request.admits isVerbose e =
        (d.path.isPrefixOf e.source && decide (e.level.rank ≤ finestRank d.threshold)) := by
  cases request with
  | unset => cases ht
  | level threshold =>
      cases ht
      exact ⟨⟨[], threshold⟩, .inl rfl, rfl, fun _ _ => rfl⟩
  | source path threshold =>
      cases ht
      refine ⟨⟨path, threshold⟩, .inr h, ?_, fun _ _ => rfl⟩
      rw [Directive.text, if_neg h.ne_nil]

end Request

section

variable {p : Platform} (hp : p.IsConventional) {request : Request} (h : request.IsReadable)

include hp h

/-- What is shown is what the request admits. -/
theorem shows_written (isVerbose : Bool) :
    p.shows isVerbose request.written = request.admits isVerbose := by
  funext e
  cases hwritten : request.written with
  | none =>
      cases request with
      | unset => exact hp.shows_none isVerbose e
      | level threshold => cases hwritten
      | source path threshold => cases hwritten
  | some t =>
      rcases request.exists_directive h hwritten with ⟨d, hpath, rfl, hadmits⟩
      rcases hp.filter?_directive hpath with ⟨isShown, hread, hshown⟩
      rw [hadmits, ← hshown, Platform.shows, Option.bind_some, hread]
      rfl

theorem run_of_request {x : Text} {isVerbose : Bool} {arguments : List Text}
    (hcalls : Calls x isVerbose arguments) :
    run p arguments request.written =
      ⟨0, ((reported x isVerbose).filter (request.admits isVerbose)).map p.line ++
        [answer x], none⟩ := by
  rw [run_of_calls hp hcalls, Platform.logLines, shows_written hp h]

end

theorem outputLines_sublist {p : Platform} (hp : p.IsConventional) {x : Text}
    {isVerbose : Bool} {arguments : List Text} (h : Calls x isVerbose arguments)
    {coarse fine : Threshold} (hrank : finestRank coarse ≤ finestRank fine) :
    (run p arguments (Request.level coarse).written).outputLines.Sublist
      (run p arguments (Request.level fine).written).outputLines := by
  have hevents : ((reported x isVerbose).filter
      ((Request.level coarse).admits isVerbose)).Sublist
      ((reported x isVerbose).filter ((Request.level fine).admits isVerbose)) := by
    apply List.monotone_filter_right
    intro e he
    exact decide_eq_true (Nat.le_trans (of_decide_eq_true he) hrank)
  have hreadable : forall threshold, (Request.level threshold).IsReadable :=
    fun _ => trivial
  rw [run_of_request hp (hreadable coarse) h, run_of_request hp (hreadable fine) h]
  exact (hevents.map p.line).append_right [answer x]

theorem Request.admits_of_written {request : Request} (hset : request.written ≠ none)
    (isVerbose other : Bool) : request.admits isVerbose = request.admits other := by
  cases request with
  | unset => exact absurd rfl hset
  | level threshold => rfl
  | source path threshold => rfl

/-- The verbose flag changes what an event says, but neither its source nor its level. -/
theorem map_admits_reported (request : Request) (x : Text) (asked isVerbose other : Bool) :
    (reported x isVerbose).map (request.admits asked) =
      (reported x other).map (request.admits asked) := by
  cases request <;> rfl

end CommandLine

theorem newline_not_mem_answer (x : Text) : '\n' ∉ answer x := by
  have hblank : Text.isBlank '\n' = true := by
    decide
  intro hnewline
  rcases answer_cases x with ⟨_, hnil⟩ | ⟨negative, l, hl, hanswer⟩ | ⟨cause, hanswer⟩
  · rw [hnil] at hnewline
    cases hnewline
  · rw [hanswer] at hnewline
    have hvisible := Text.isBlank_of_mem_signed
      (fun c hc => Literal.isBlank_of_mem_text hl hc) negative '\n' hnewline
    rw [hblank] at hvisible
    cases hvisible
  · rw [hanswer] at hnewline
    cases cause with
    | malformed _ =>
        change '\n' ∈ "Error".toList at hnewline
        exact absurd hnewline (by decide)
    | divisionByZero => exact absurd hnewline (by decide)

namespace CommandLine

/--
However an expression is asked for and whatever is asked of the log, the run ends
well and its last line is the answer, behind those lines of its events that the
request lets through.  A finer level only adds lines, and when something is asked
for, the verbose flag does not decide which events are shown.
-/
theorem answers_do_not_depend_on_the_log {p : Platform} (hp : p.IsConventional) (x : Text) :
    '\n' ∉ answer x ∧
    (forall (isVerbose : Bool) (arguments : List Text), Calls x isVerbose arguments ->
      (forall asked : Option Text, exists shown : List Event,
        shown.Sublist (reported x isVerbose) ∧
        run p arguments asked = ⟨0, shown.map p.line ++ [answer x], none⟩) ∧
      (forall request : Request, request.IsReadable ->
        run p arguments request.written =
          ⟨0, ((reported x isVerbose).filter (request.admits isVerbose)).map p.line ++
            [answer x], none⟩) ∧
      (forall coarse fine : Threshold, finestRank coarse ≤ finestRank fine ->
        (run p arguments (Request.level coarse).written).outputLines.Sublist
          (run p arguments (Request.level fine).written).outputLines)) ∧
    (forall request : Request, request.IsReadable -> request.written ≠ none ->
      (reported x true).map (p.shows true request.written) =
        (reported x false).map (p.shows false request.written)) := by
  refine ⟨newline_not_mem_answer x, ?_, ?_⟩
  · intro isVerbose arguments h
    refine ⟨?_, ?_, ?_⟩
    · intro asked
      exact ⟨_, List.filter_sublist, run_of_calls hp h asked⟩
    · intro request hrequest
      exact run_of_request hp hrequest h
    · intro coarse fine hrank
      exact outputLines_sublist hp h hrank
  · intro request hrequest hset
    rw [shows_written hp hrequest, shows_written hp hrequest,
      Request.admits_of_written hset true false]
    exact map_admits_reported request x false true false

/-- A malformed text is evaluated verbosely while only evaluations are logged. -/
theorem answers_do_not_depend_on_the_log_malformed :
    Calls "2+".toList true ["--eval".toList, "2+".toList, "-v".toList] ∧
    (Request.source "calculatrice_web::noyau".toList (some .trace)).IsReadable ∧
    run .terminal ["--eval".toList, "2+".toList, "-v".toList]
        (some "calculatrice_web::noyau=trace".toList) =
      ⟨0, ["DEBUG évaluation refusée expr=\"2+\" erreur=Malforme(OperandeManquant)".toList,
        "Error".toList], none⟩ ∧
    (run .terminal ["--eval".toList, "2+".toList, "-v".toList]
      (some "off".toList)).outputLines.Sublist
        (run .terminal ["--eval".toList, "2+".toList, "-v".toList]
          (some "debug".toList)).outputLines ∧
    (reported "2+".toList true).map (Platform.terminal.shows true (some "debug".toList)) =
      (reported "2+".toList false).map
        (Platform.terminal.shows false (some "debug".toList)) := by
  have hcalls : Calls "2+".toList true ["--eval".toList, "2+".toList, "-v".toList] :=
    Calls.after (.inl rfl) (Asks.separate (.inl (by decide)))
  have hpath : (Request.source "calculatrice_web::noyau".toList (some .trace)).IsReadable :=
    ⟨by decide, by decide +kernel⟩
  rcases answers_do_not_depend_on_the_log Platform.terminal_isConventional "2+".toList with
    ⟨_, hruns, hflag⟩
  rcases hruns true _ hcalls with ⟨_, hrequest, hlevels⟩
  refine ⟨hcalls, hpath, ?_, hlevels none (some .debug) (by decide),
    hflag (.level (some .debug)) trivial (by decide)⟩
  have hrun := hrequest _ hpath
  have hlines : ((reported "2+".toList true).filter
      ((Request.source "calculatrice_web::noyau".toList (some .trace)).admits true)).map
        Platform.terminal.line ++ [answer "2+".toList] =
      ["DEBUG évaluation refusée expr=\"2+\" erreur=Malforme(OperandeManquant)".toList,
        "Error".toList] := by
    decide +kernel
  rw [hlines] at hrun
  exact hrun

end CommandLine

end PocketCalculator
