import PocketCalculator.Proofs.Descent
import PocketCalculator.Proofs.KeySteps
import PocketCalculator.Proofs.LogTexts
import PocketCalculator.Proofs.Rendering

/-!
# Reports

## What an evaluation reports

A reading is reported once the tokens of a text are in postfix form, and from
there on nothing but a value that is not finite can fail.  Every reading is
therefore followed by an assembly, and each token has given one item and one node.
-/

namespace PocketCalculator

namespace Event

def value? (e : Event) (name : Text) : Option Text :=
  (e.fields.find? fun f => f.name = name).map Field.value

/-- Whether the nodes of an assembly are as many as the items in each text of a reading. -/
def Counts (assembly reading : Event) : Prop :=
  exists n : Nat, assembly.value? "noeuds".toList = some (Text.ofNat n) ∧
    (exists t, reading.value? "jetons".toList = some t ∧ (t.splitOn ' ').length = n) ∧
    (exists t, reading.value? "rpn".toList = some t ∧ (t.splitOn ' ').length = n)

theorem counts_of_length {tokens : List Token} {items : List Postfix.Item} {arena : Arena}
    (hne : tokens ≠ []) (hnodes : arena.size = tokens.length)
    (hitems : items.length = tokens.length) :
    (assembled arena).Counts (reading tokens items) := by
  have hitemsNe : items ≠ [] := by
    intro hnil
    rw [hnil] at hitems
    exact hne (List.length_eq_zero_iff.mp hitems.symm)
  refine ⟨tokens.length, ?_, ⟨Token.listText tokens, rfl, ?_⟩,
    ⟨Postfix.Item.listText items, rfl, ?_⟩⟩
  · rw [← hnodes]
    rfl
  · rw [Token.splitOn_listText hne, List.length_map]
  · rw [Postfix.Item.splitOn_listText hitemsNe, List.length_map, hitems]

end Event

/-- Tokens that can be ordered are an expression, and their arena is that of its tree. -/
theorem Postfix.exists_arena_of_ofTokens {tokens : List Token} {items : List Item}
    (h : ofTokens tokens = .ok items) :
    exists t arena, Sum tokens t ∧ items = t.listing ∧ Arena.ofPostfix items = .ok arena ∧
      arena.size = items.length ∧ arena.Represents t := by
  rcases exists_sum_of_ofTokens h with ⟨t, hsum⟩
  rcases Arena.ofPostfix_listing t with ⟨arena, harena, hsize, htree⟩
  rw [ofTokens_of_sum hsum] at h
  cases h
  exact ⟨t, arena, hsum, rfl, harena, hsize, htree⟩

namespace Evaluation

structure Stages (s : Text) (tokens : List Token) (items : List Postfix.Item)
    (arena : Arena) : Prop where
  read : Token.read s = .ok tokens
  ordered : Postfix.ofTokens tokens = .ok items
  assembled : Arena.ofPostfix items = .ok arena

/-- The outcomes of a text with the events on the way to each. -/
inductive Reports (s : Text) : Evaluation -> Prop where
  | blank : Text.strip s = [] -> Reports s ⟨.blank, []⟩
  | malformed {cause : SyntaxError} :
      Reports s ⟨.refused (.malformed cause), [.evaluationRefused s (.malformed cause)]⟩
  | divisionByZero {tokens : List Token} {items : List Postfix.Item} {arena : Arena} :
      Stages s tokens items arena ->
      Reports s ⟨.refused .divisionByZero,
        [.reading tokens items, .assembled arena, .evaluationRefused s .divisionByZero]⟩
  | number {tokens : List Token} {items : List Postfix.Item} {arena : Arena}
      {x : Binary64} : Stages s tokens items arena ->
      Reports s ⟨.number x, [.reading tokens items, .assembled arena]⟩

theorem reports_finishedBy {s : Text} {tokens : List Token} {items : List Postfix.Item}
    {arena : Arena} (h : Stages s tokens items arena) (x : Binary64) :
    Reports s (finishedBy s (some x) [.reading tokens items, .assembled arena]) := by
  unfold finishedBy
  by_cases hfinite : x.isFinite = true
  · simp only [if_pos hfinite]
    exact Reports.number h
  · simp only [if_neg hfinite]
    exact Reports.divisionByZero h

theorem reports_run (s : Text) : Reports s (run s) := by
  unfold run
  split
  · rename_i hblank
    exact Reports.blank (Text.strip_eq_nil.mpr hblank)
  · cases hread : Token.read s with
    | error cause => exact Reports.malformed
    | ok tokens =>
        simp only
        cases hitems : Postfix.ofTokens tokens with
        | error cause => exact Reports.malformed
        | ok items =>
            -- The items list a tree, so they can be assembled and have a value.
            rcases Postfix.exists_arena_of_ofTokens hitems with
              ⟨t, arena, _, _, harena, _, htree⟩
            simp only [harena, Arena.value?_of_represents htree]
            exact reports_finishedBy ⟨hread, hitems, harena⟩ t.value

theorem Stages.counts {s : Text} {tokens : List Token} {items : List Postfix.Item}
    {arena : Arena} (h : Stages s tokens items arena) :
    (Event.assembled arena).Counts (.reading tokens items) := by
  rcases Postfix.exists_arena_of_ofTokens h.ordered with
    ⟨t, a, hsum, hlisting, harena, hsize, _⟩
  have hsame : a = arena := by
    rw [h.assembled] at harena
    cases harena
    rfl
  have hlength : items.length = tokens.length := by
    rw [hlisting]
    exact Postfix.sum_length_listing hsum
  apply Event.counts_of_length (hsum.ne_nil Postfix.not_isNumber_nil) _ hlength
  rw [← hsame, hsize, hlength]

end Evaluation

/-!
## What a key reports

An ignored key is reported with the buffer.  Every other key reports what it
evaluates and then the screen that it leaves.
-/

namespace Calculator

/-- What a calculator with a screen becomes and reports under a key. -/
inductive KeyReport (c : Calculator Screen) :
    Text -> Calculator Screen × List Event -> Prop where
  | ignored {key : Text} : (Entry.press c.buffer key).isApplied = false ->
      KeyReport c key (c, [.keyIgnored key c.buffer])
  | entered {key : Text} {c' : Calculator Screen} :
      (Entry.press c.buffer key).isApplied = true -> key ≠ ['='] ->
      KeyReport c key (c', [.rendered c'.display.text c'.display.renders])
  | blank {c' : Calculator Screen} : Text.strip c.buffer = [] ->
      KeyReport c ['='] (c', [.rendered c'.display.text c'.display.renders])
  | malformed {c' : Calculator Screen} {cause : SyntaxError} :
      evaluate c.buffer = .refused (.malformed cause) ->
      KeyReport c ['='] (c', [.evaluationRefused c.buffer (.malformed cause),
        .rendered c'.display.text c'.display.renders])
  | divisionByZero {c' : Calculator Screen} {tokens : List Token}
      {items : List Postfix.Item} {arena : Arena} :
      evaluate c.buffer = .refused .divisionByZero ->
      Evaluation.Stages c.buffer tokens items arena ->
      KeyReport c ['='] (c', [.reading tokens items, .assembled arena,
        .evaluationRefused c.buffer .divisionByZero,
        .rendered c'.display.text c'.display.renders])
  | number {c' : Calculator Screen} {tokens : List Token} {items : List Postfix.Item}
      {arena : Arena} {x : Binary64} : evaluate c.buffer = .number x ->
      Evaluation.Stages c.buffer tokens items arena ->
      KeyReport c ['='] (c', [.reading tokens items, .assembled arena,
        .rendered c'.display.text c'.display.renders])

def messagesOf (c : Calculator Screen) (key : Text) : List Text :=
  if (Entry.press c.buffer key).isApplied = false then ["jeton refusé".toList]
  else if key = ['='] then
    match evaluate c.buffer with
    | .blank => ["rendu".toList]
    | .number _ => ["lecture".toList, "AST".toList, "rendu".toList]
    | .refused (.malformed _) => ["évaluation refusée".toList, "rendu".toList]
    | .refused .divisionByZero =>
        ["lecture".toList, "AST".toList, "évaluation refusée".toList, "rendu".toList]
  else ["rendu".toList]

/-- What the fields of an event tell about a key, and the calculator before and after it. -/
structure FieldsTell (c : Calculator Screen) (key : Text) (c' : Calculator Screen)
    (e : Event) : Prop where
  ignored : e.message = "jeton refusé".toList ->
    e.value? "jeton".toList = some key ∧ e.value? "tampon".toList = some c.buffer ∧
      e.value? "tampon".toList = some c'.buffer
  refused : e.message = "évaluation refusée".toList ->
    e.value? "expr".toList = some c.buffer
  rendered : e.message = "rendu".toList ->
    e.value? "texte".toList = some c'.display.text ∧
      e.value? "rendus".toList = some (Text.ofNat c'.display.renders)

variable (c : Calculator Screen)

theorem press_screen_of_ignored {key : Text} (h : Entry.press c.buffer key = .ignored) :
    c.press key = (c, [.keyIgnored key c.buffer]) := by
  rw [press, h]

theorem press_screen_of_applied {key buffer : Text} {events : List Event}
    (h : Entry.press c.buffer key = .applied buffer events) :
    c.press key = (⟨buffer, c.display.render buffer⟩,
      events ++ [.rendered (c.display.render buffer).text (c.display.renders + 1)]) := by
  rw [press, h]
  rfl

theorem keyReport_answered {c' : Calculator Screen} {evaluation : Evaluation}
    (houtcome : evaluate c.buffer = evaluation.outcome)
    (h : Evaluation.Reports c.buffer evaluation) :
    KeyReport c ['=']
      (c', evaluation.events ++ [.rendered c'.display.text c'.display.renders]) := by
  cases h with
  | blank hblank => exact KeyReport.blank hblank
  | malformed => exact KeyReport.malformed houtcome
  | divisionByZero hstages => exact KeyReport.divisionByZero houtcome hstages
  | number hstages => exact KeyReport.number houtcome hstages

theorem keyReport_press (key : Text) : KeyReport c key (c.press key) := by
  have hstep := Entry.keyStep_press c.buffer key
  cases hpress : Entry.press c.buffer key with
  | ignored =>
      rw [press_screen_of_ignored c hpress]
      apply KeyReport.ignored
      rw [hpress]
      rfl
  | applied buffer events =>
      have happlied : (Entry.press c.buffer key).isApplied = true := by
        rw [hpress]
        rfl
      rw [press_screen_of_applied c hpress]
      rw [hpress] at hstep
      cases hstep with
      | cleared => exact KeyReport.entered happlied (by decide)
      | answered => exact keyReport_answered c rfl (Evaluation.reports_run c.buffer)
      | replaced o _ =>
          apply KeyReport.entered happlied
          cases o <;> decide
      | added _ _ hequals => exact KeyReport.entered happlied hequals

variable {c} {key : Text} {result : Calculator Screen × List Event}

theorem KeyReport.messages (h : KeyReport c key result) :
    result.2.map Event.message = messagesOf c key := by
  unfold messagesOf
  cases h with
  | ignored hignored =>
      rw [if_pos hignored]
      rfl
  | entered happlied hequals =>
      rw [if_neg (by rw [happlied]; decide), if_neg hequals]
      rfl
  | blank hblank =>
      rw [Evaluation.evaluate_of_blank hblank]
      rfl
  | malformed houtcome =>
      rw [houtcome]
      rfl
  | divisionByZero houtcome _ =>
      rw [houtcome]
      rfl
  | number houtcome _ =>
      rw [houtcome]
      rfl

theorem fieldsTell_keyIgnored (c : Calculator Screen) (key : Text) :
    FieldsTell c key c (.keyIgnored key c.buffer) where
  ignored _ := ⟨rfl, rfl, rfl⟩
  refused h := absurd h (show "jeton refusé".toList ≠ "évaluation refusée".toList by decide)
  rendered h := absurd h (show "jeton refusé".toList ≠ "rendu".toList by decide)

section

variable (c c' : Calculator Screen) (key : Text)

theorem fieldsTell_evaluationRefused (cause : EvaluationError) :
    FieldsTell c key c' (.evaluationRefused c.buffer cause) where
  ignored h := absurd h (show "évaluation refusée".toList ≠ "jeton refusé".toList by decide)
  refused _ := rfl
  rendered h := absurd h (show "évaluation refusée".toList ≠ "rendu".toList by decide)

theorem fieldsTell_reading (tokens : List Token) (items : List Postfix.Item) :
    FieldsTell c key c' (.reading tokens items) where
  ignored h := absurd h (show "lecture".toList ≠ "jeton refusé".toList by decide)
  refused h := absurd h (show "lecture".toList ≠ "évaluation refusée".toList by decide)
  rendered h := absurd h (show "lecture".toList ≠ "rendu".toList by decide)

theorem fieldsTell_assembled (arena : Arena) : FieldsTell c key c' (.assembled arena) where
  ignored h := absurd h (show "AST".toList ≠ "jeton refusé".toList by decide)
  refused h := absurd h (show "AST".toList ≠ "évaluation refusée".toList by decide)
  rendered h := absurd h (show "AST".toList ≠ "rendu".toList by decide)

theorem fieldsTell_rendered :
    FieldsTell c key c' (.rendered c'.display.text c'.display.renders) where
  ignored h := absurd h (show "rendu".toList ≠ "jeton refusé".toList by decide)
  refused h := absurd h (show "rendu".toList ≠ "évaluation refusée".toList by decide)
  rendered _ := ⟨rfl, rfl⟩

end

theorem KeyReport.fieldsTell (h : KeyReport c key result) :
    forall e, e ∈ result.2 -> FieldsTell c key result.1 e := by
  cases h with
  | ignored _ => simp [fieldsTell_keyIgnored]
  | entered _ _ => simp [fieldsTell_rendered]
  | blank _ => simp [fieldsTell_rendered]
  | malformed _ => simp [fieldsTell_evaluationRefused, fieldsTell_rendered]
  | divisionByZero _ _ =>
      simp [fieldsTell_reading, fieldsTell_assembled, fieldsTell_evaluationRefused,
        fieldsTell_rendered]
  | number _ _ => simp [fieldsTell_reading, fieldsTell_assembled, fieldsTell_rendered]

/-!
## What a run reports

The log of a run shows the screen after every accepted key, numbered from one, and
its readings and assemblies come in pairs.
-/

variable (c)

def log : Calculator Screen -> List Text -> List Event
  | _, [] => []
  | c, key :: keys => (c.press key).2 ++ log (c.press key).1 keys

@[simp] theorem log_nil : log c [] = [] := rfl

@[simp] theorem log_cons (key : Text) (keys : List Text) :
    log c (key :: keys) = (c.press key).2 ++ log (c.press key).1 keys := rfl

end Calculator

namespace Event

def screen? : Event -> Option Screen
  | rendered text count => some ⟨text, count⟩
  | _ => none

def IsStage (e : Event) : Prop :=
  e.message = "lecture".toList ∨ e.message = "AST".toList

/-- Every reading is followed at once by an assembly that counts it, and no assembly is alone. -/
inductive Paired : List Event -> Prop where
  | nil : Paired []
  | single {e : Event} {events : List Event} : ¬ e.IsStage -> Paired events ->
      Paired (e :: events)
  | pair {read assembly : Event} {events : List Event} : read.message = "lecture".toList ->
      assembly.message = "AST".toList -> assembly.Counts read -> Paired events ->
      Paired (read :: assembly :: events)

theorem Paired.append {first second : List Event} (hfirst : Paired first)
    (hsecond : Paired second) : Paired (first ++ second) := by
  induction hfirst with
  | nil => exact hsecond
  | single he _ ih => exact Paired.single he ih
  | pair hread hassembly hcounts _ ih => exact Paired.pair hread hassembly hcounts ih

theorem paired_singleton {e : Event} (h : ¬ e.IsStage) : Paired [e] :=
  Paired.single h Paired.nil

theorem not_isStage_keyIgnored (key buffer : Text) : ¬ (keyIgnored key buffer).IsStage :=
  show ¬ ("jeton refusé".toList = "lecture".toList ∨ "jeton refusé".toList = "AST".toList) by
    decide

theorem not_isStage_evaluationRefused (expression : Text) (cause : EvaluationError) :
    ¬ (evaluationRefused expression cause).IsStage :=
  show ¬ ("évaluation refusée".toList = "lecture".toList ∨
    "évaluation refusée".toList = "AST".toList) by decide

theorem not_isStage_rendered (text : Text) (count : Nat) : ¬ (rendered text count).IsStage :=
  show ¬ ("rendu".toList = "lecture".toList ∨ "rendu".toList = "AST".toList) by decide

end Event

namespace Calculator

open Event

variable {c : Calculator Screen} {key : Text} {result : Calculator Screen × List Event}

theorem KeyReport.paired (h : KeyReport c key result) : Paired result.2 := by
  cases h with
  | ignored _ => exact paired_singleton (not_isStage_keyIgnored _ _)
  | entered _ _ => exact paired_singleton (not_isStage_rendered _ _)
  | blank _ => exact paired_singleton (not_isStage_rendered _ _)
  | malformed _ =>
      exact Paired.single (not_isStage_evaluationRefused _ _)
        (paired_singleton (not_isStage_rendered _ _))
  | divisionByZero _ hstages =>
      exact Paired.pair rfl rfl hstages.counts
        (Paired.single (not_isStage_evaluationRefused _ _)
          (paired_singleton (not_isStage_rendered _ _)))
  | number _ hstages =>
      exact Paired.pair rfl rfl hstages.counts (paired_singleton (not_isStage_rendered _ _))

theorem paired_log (c : Calculator Screen) (keys : List Text) : Paired (log c keys) := by
  induction keys generalizing c with
  | nil => exact Paired.nil
  | cons key keys ih =>
      rw [log_cons]
      exact (keyReport_press c key).paired.append (ih (c.press key).1)

theorem KeyReport.screens (h : KeyReport c key result)
    (happlied : (Entry.press c.buffer key).isApplied = true) :
    result.2.filterMap screen? = [result.1.display] := by
  cases h with
  | ignored hignored =>
      rw [happlied] at hignored
      cases hignored
  | entered _ _ => rfl
  | blank _ => rfl
  | malformed _ => rfl
  | divisionByZero _ _ => rfl
  | number _ _ => rfl

theorem screens_log (c : Calculator Screen) (keys : List Text) :
    (log c keys).filterMap screen? =
      ((Entry.renderings c.buffer keys).zipIdx (c.display.renders + 1)).map
        fun shown => ⟨Screen.textFor shown.1, shown.2⟩ := by
  induction keys generalizing c with
  | nil => rfl
  | cons key keys ih =>
      rw [log_cons, List.filterMap_append, ih]
      cases hpress : Entry.press c.buffer key with
      | ignored =>
          rw [press_screen_of_ignored c hpress, Entry.renderings_cons_of_ignored hpress]
          rfl
      | applied buffer events =>
          have happlied : (Entry.press c.buffer key).isApplied = true := by
            rw [hpress]
            rfl
          rw [(keyReport_press c key).screens happlied, press_screen_of_applied c hpress,
            Entry.renderings_cons_of_applied hpress, List.zipIdx_cons]
          rfl

theorem fields_rendered_eq (events : List Event) :
    (events.filter fun e => e.message = "rendu".toList).map
        (fun e => (e.value? "texte".toList, e.value? "rendus".toList)) =
      (events.filterMap screen?).map
        fun screen => (some screen.text, some (Text.ofNat screen.renders)) := by
  induction events with
  | nil => rfl
  | cons e events ih =>
      cases e with
      | rendered text count =>
          rw [List.filter_cons_of_pos (by exact decide_eq_true rfl), List.map_cons, ih]
          rfl
      | arguments expression verbose => exact ih
      | windowStart => exact ih
      | keyIgnored key buffer => exact ih
      | evaluationRefused expression cause => exact ih
      | reading tokens items => exact ih
      | assembled arena => exact ih

end Calculator

/--
Whatever keys came before, a key reports what it does and then the screen that it
leaves, under the messages of its case and with the fields of each message.  Over a
run the screens are those of the rendered buffers, numbered from one without a gap,
and readings and assemblies come in pairs that count the same.
-/
theorem reports_follow_the_keys (keys : List Text) :
    (forall key : Text,
      Calculator.KeyReport ((Calculator.new Screen.initial).pressAll keys) key
        (((Calculator.new Screen.initial).pressAll keys).press key) ∧
      (((Calculator.new Screen.initial).pressAll keys).press key).2.map Event.message =
        ((Calculator.new Screen.initial).pressAll keys).messagesOf key ∧
      forall e, e ∈ (((Calculator.new Screen.initial).pressAll keys).press key).2 ->
        Calculator.FieldsTell ((Calculator.new Screen.initial).pressAll keys) key
          (((Calculator.new Screen.initial).pressAll keys).press key).1 e) ∧
    ((Calculator.new Screen.initial).log keys).filterMap Event.screen? =
      ((Entry.renderings [] keys).zipIdx 1).map
        (fun shown => ⟨Screen.textFor shown.1, shown.2⟩) ∧
    (((Calculator.new Screen.initial).log keys).filter
        fun e => e.message = "rendu".toList).map
          (fun e => (e.value? "texte".toList, e.value? "rendus".toList)) =
      ((Entry.renderings [] keys).zipIdx 1).map
        (fun shown => (some (Screen.textFor shown.1), some (Text.ofNat shown.2))) ∧
    Event.Paired ((Calculator.new Screen.initial).log keys) := by
  have hscreens := Calculator.screens_log (Calculator.new Screen.initial) keys
  refine ⟨?_, hscreens, ?_, Calculator.paired_log _ keys⟩
  · intro key
    have hreport := Calculator.keyReport_press
      ((Calculator.new Screen.initial).pressAll keys) key
    exact ⟨hreport, hreport.messages, hreport.fieldsTell⟩
  · rw [Calculator.fields_rendered_eq, hscreens, List.map_map]
    rfl

example :
    ((Calculator.new Screen.initial).log [['6'], ['='], ['/'], ['='], [], ['C']]).map
        (fun e => String.ofList e.message) =
      ["rendu", "lecture", "AST", "rendu", "rendu", "évaluation refusée", "rendu",
        "jeton refusé", "rendu"] := by
  decide +kernel

end PocketCalculator
