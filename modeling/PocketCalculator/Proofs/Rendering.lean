import PocketCalculator.Proofs.KeyRuns
import PocketCalculator.Window

/-!
# Renderings

## Accepted keys

A key that is not ignored is accepted, and every accepted key renders the buffer
that it leaves.  A display therefore sees the buffers after the accepted keys and
nothing else, and the ignored keys might as well not have been pressed.
-/

namespace PocketCalculator

namespace Entry

theorem pressOperator_isApplied (buffer : Text) (o : Operator) :
    (pressOperator buffer o).isApplied = false <-> buffer = [] ∧ o ≠ .minus := by
  unfold pressOperator
  split
  · rename_i hrefused
    exact ⟨fun _ => hrefused, fun _ => rfl⟩
  · rename_i haccepted
    constructor
    · intro h
      split at h <;> cases h
    · intro hrefused
      exact absurd hrefused haccepted

theorem pressPoint_isApplied (buffer : Text) :
    (pressPoint buffer).isApplied = false <-> buffer.getLast? = some '.' := by
  unfold pressPoint endsWithPoint
  by_cases hpoint : buffer.getLast? = some '.'
  · simp [hpoint, Transition.isApplied]
  · simp [hpoint, Transition.isApplied]

/-- Of the characters that are no signs, only a second point is ignored. -/
theorem pressCharacter_isApplied {c : Char} (hsign : Operator.ofChar? c = none)
    (buffer : Text) :
    (pressCharacter buffer c).isApplied = false <->
      c = '.' ∧ buffer.getLast? = some '.' := by
  unfold pressCharacter
  simp only [hsign]
  by_cases hpoint : c = '.'
  · subst hpoint
    simpa using pressPoint_isApplied buffer
  · split
    · simp [Transition.isApplied, hpoint]
    · split
      · simp [pressEquals, Transition.isApplied, hpoint]
      · simp [Transition.isApplied, hpoint]

theorem press_isApplied (buffer key : Text) :
    (press buffer key).isApplied = false <->
      key = [] ∨ (buffer = [] ∧ (key = ['+'] ∨ key = ['*'] ∨ key = ['/'])) ∨
        (key = ['.'] ∧ buffer.getLast? = some '.') := by
  unfold press
  split
  · simp [Transition.isApplied]
  · rename_i c
    cases hsign : Operator.ofChar? c with
    | some o =>
        rw [← Operator.symbol_of_ofChar? hsign]
        simp only [pressCharacter, Operator.ofChar?_symbol, pressOperator_isApplied]
        cases o <;> simp [Operator.symbol]
    | none =>
        have hplus : c ≠ '+' := by
          rintro rfl
          cases hsign
        have htimes : c ≠ '*' := by
          rintro rfl
          cases hsign
        have hdivide : c ≠ '/' := by
          rintro rfl
          cases hsign
        rw [pressCharacter_isApplied hsign]
        simp [hplus, htimes, hdivide]
  · rename_i hnil hsingle
    have hempty : key ≠ [] := hnil
    have hlong : forall c, key ≠ [c] := hsingle
    simp [Transition.isApplied, hempty, hlong]

/-!
## What a run renders
-/

def accepted : Text -> List Text -> List Text
  | _, [] => []
  | buffer, key :: keys =>
      match press buffer key with
      | .ignored => accepted buffer keys
      | .applied buffer' _ => key :: accepted buffer' keys

/-- The buffers after the accepted keys of a run. -/
def renderings : Text -> List Text -> List Text
  | _, [] => []
  | buffer, key :: keys =>
      match press buffer key with
      | .ignored => renderings buffer keys
      | .applied buffer' _ => buffer' :: renderings buffer' keys

@[simp] theorem accepted_nil (buffer : Text) : accepted buffer [] = [] := rfl

@[simp] theorem renderings_nil (buffer : Text) : renderings buffer [] = [] := rfl

variable {buffer key : Text}

theorem accepted_cons_of_ignored (h : press buffer key = .ignored) (keys : List Text) :
    accepted buffer (key :: keys) = accepted buffer keys := by
  rw [accepted, h]

theorem accepted_cons_of_applied {buffer' : Text} {events : List Event}
    (h : press buffer key = .applied buffer' events) (keys : List Text) :
    accepted buffer (key :: keys) = key :: accepted buffer' keys := by
  rw [accepted, h]

theorem renderings_cons_of_ignored (h : press buffer key = .ignored) (keys : List Text) :
    renderings buffer (key :: keys) = renderings buffer keys := by
  rw [renderings, h]

theorem renderings_cons_of_applied {buffer' : Text} {events : List Event}
    (h : press buffer key = .applied buffer' events) (keys : List Text) :
    renderings buffer (key :: keys) = buffer' :: renderings buffer' keys := by
  rw [renderings, h]

theorem length_renderings (buffer : Text) (keys : List Text) :
    (renderings buffer keys).length = (accepted buffer keys).length := by
  induction keys generalizing buffer with
  | nil => rfl
  | cons key keys ih =>
      cases hpress : press buffer key with
      | ignored =>
          rw [renderings_cons_of_ignored hpress, accepted_cons_of_ignored hpress, ih]
      | applied buffer' events =>
          rw [renderings_cons_of_applied hpress, accepted_cons_of_applied hpress,
            List.length_cons, List.length_cons, ih]

theorem pressAll_eq_getLast (buffer : Text) (keys : List Text) :
    pressAll buffer keys = (renderings buffer keys).getLast?.getD buffer := by
  induction keys generalizing buffer with
  | nil => rfl
  | cons key keys ih =>
      rw [pressAll_cons]
      cases hpress : press buffer key with
      | ignored =>
          rw [renderings_cons_of_ignored hpress]
          exact ih buffer
      | applied buffer' events =>
          rw [renderings_cons_of_applied hpress, List.getLast?_cons]
          exact ih buffer'

theorem renderings_accepted (buffer : Text) (keys : List Text) :
    renderings buffer (accepted buffer keys) = renderings buffer keys := by
  induction keys generalizing buffer with
  | nil => rfl
  | cons key keys ih =>
      cases hpress : press buffer key with
      | ignored =>
          rw [accepted_cons_of_ignored hpress, renderings_cons_of_ignored hpress, ih]
      | applied buffer' events =>
          rw [accepted_cons_of_applied hpress, renderings_cons_of_applied hpress,
            renderings_cons_of_applied hpress, ih]

end Entry

namespace Calculator

variable {σ : Type} [Display σ]

def showAll (display : σ) (buffers : List Text) : σ :=
  buffers.foldl (fun display buffer => (Display.render display buffer).1) display

@[simp] theorem showAll_nil (display : σ) : showAll display [] = display := rfl

theorem showAll_cons (display : σ) (buffer : Text) (buffers : List Text) :
    showAll display (buffer :: buffers) =
      showAll (Display.render display buffer).1 buffers := rfl

theorem press_of_ignored {c : Calculator σ} {key : Text}
    (h : (Entry.press c.buffer key).isApplied = false) : (c.press key).1 = c := by
  unfold press
  cases hpress : Entry.press c.buffer key with
  | ignored => rfl
  | applied buffer events =>
      rw [hpress] at h
      cases h

theorem press_of_applied {c : Calculator σ} {key : Text}
    (h : (Entry.press c.buffer key).isApplied = true) :
    (c.press key).1 =
      ⟨(Entry.press c.buffer key).bufferFrom c.buffer,
        (Display.render c.display ((Entry.press c.buffer key).bufferFrom c.buffer)).1⟩ := by
  unfold press
  cases hpress : Entry.press c.buffer key with
  | ignored =>
      rw [hpress] at h
      cases h
  | applied buffer events => rfl

theorem pressAll_eq (c : Calculator σ) (keys : List Text) :
    c.pressAll keys =
      ⟨Entry.pressAll c.buffer keys, showAll c.display (Entry.renderings c.buffer keys)⟩ := by
  induction keys generalizing c with
  | nil => rfl
  | cons key keys ih =>
      rw [pressAll_cons, ih, Entry.pressAll_cons]
      unfold press
      cases hpress : Entry.press c.buffer key with
      | ignored => rw [Entry.renderings_cons_of_ignored hpress, Transition.bufferFrom]
      | applied buffer' events =>
          rw [Entry.renderings_cons_of_applied hpress, showAll_cons, Transition.bufferFrom]

theorem pressAll_accepted (c : Calculator σ) (keys : List Text) :
    c.pressAll (Entry.accepted c.buffer keys) = c.pressAll keys := by
  rw [pressAll_eq, pressAll_eq, Entry.pressAll_eq_getLast, Entry.renderings_accepted,
    ← Entry.pressAll_eq_getLast]

end Calculator

/-!
## Two displays

A list keeps what is rendered on it.  The screen keeps the last of it and counts.
-/

theorem showAll_list (shown buffers : List Text) :
    Calculator.showAll shown buffers = buffers.reverse ++ shown := by
  induction buffers generalizing shown with
  | nil => rfl
  | cons buffer buffers ih =>
      rw [Calculator.showAll_cons, ih]
      change buffers.reverse ++ buffer :: shown = _
      rw [List.reverse_cons, List.append_assoc, List.singleton_append]

namespace Screen

theorem showAll_eq (buffer : Text) (renders : Nat) (buffers : List Text) :
    Calculator.showAll (⟨textFor buffer, renders⟩ : Screen) buffers =
      ⟨textFor (buffers.getLast?.getD buffer), renders + buffers.length⟩ := by
  induction buffers generalizing buffer renders with
  | nil => rfl
  | cons next buffers ih =>
      change Calculator.showAll (⟨textFor next, renders + 1⟩ : Screen) buffers = _
      rw [ih, List.getLast?_cons, Option.getD_some, List.length_cons, Nat.add_assoc,
        Nat.add_comm 1]

theorem pressAll_display (keys : List Text) :
    ((Calculator.new initial).pressAll keys).display =
      ⟨textFor (Entry.pressAll [] keys), (Entry.accepted [] keys).length⟩ := by
  have hshown := showAll_eq [] 0 (Entry.renderings [] keys)
  rw [← Entry.pressAll_eq_getLast, Nat.zero_add, Entry.length_renderings] at hshown
  rw [Calculator.pressAll_eq]
  exact hshown

end Screen

/--
The screen shows the buffer and counts the accepted keys.  Every accepted key is
rendered once, with the buffer after it, and every other key changes nothing, so
a run without its ignored keys renders the same and ends the same.
-/
theorem screen_follows_accepted_keys :
    (forall (kit : Toolkit) (keys : List Text),
      ((Calculator.new Screen.initial).pressAll keys).display =
        ⟨if Entry.pressAll [] keys = [] then ['0'] else Entry.pressAll [] keys,
          (Entry.accepted [] keys).length⟩ ∧
      ((Calculator.new Screen.initial).pressAll keys).buffer = Entry.pressAll [] keys ∧
      ((Window.initial kit).pressAll keys).calculator =
        (Calculator.new Screen.initial).pressAll keys ∧
      ((Window.initial kit).pressAll keys).shown =
        ((Calculator.new Screen.initial).pressAll keys).display.text) ∧
    (forall buffer key : Text,
      (Entry.press buffer key).isApplied = false <->
        key = [] ∨ (buffer = [] ∧ (key = ['+'] ∨ key = ['*'] ∨ key = ['/'])) ∨
          (key = ['.'] ∧ buffer.getLast? = some '.')) ∧
    (forall (σ : Type) [Display σ] (c : Calculator σ) (key : Text),
      (c.press key).1 =
        if (Entry.press c.buffer key).isApplied then
          ⟨(Entry.press c.buffer key).bufferFrom c.buffer,
            (Display.render c.display
              ((Entry.press c.buffer key).bufferFrom c.buffer)).1⟩
        else c) ∧
    (forall (buffer : Text) (keys : List Text),
      ((⟨buffer, []⟩ : Calculator (List Text)).pressAll keys).display.reverse =
        Entry.renderings buffer keys ∧
      (Entry.renderings buffer keys).length = (Entry.accepted buffer keys).length ∧
      Entry.renderings buffer (Entry.accepted buffer keys) =
        Entry.renderings buffer keys) ∧
    (forall (σ : Type) [Display σ] (c : Calculator σ) (keys : List Text),
      c.pressAll (Entry.accepted c.buffer keys) = c.pressAll keys) := by
  refine ⟨?_, Entry.press_isApplied, ?_, ?_, ?_⟩
  · intro kit keys
    have hwindow := (Window.initial kit).pressAll_eq keys
    refine ⟨Screen.pressAll_display keys, Calculator.pressAll_buffer _ keys, ?_, ?_⟩
    · rw [hwindow]
      rfl
    · rw [hwindow]
      rfl
  · intro σ _ c key
    split
    · rename_i happlied
      exact Calculator.press_of_applied happlied
    · rename_i hignored
      exact Calculator.press_of_ignored (by simpa using hignored)
  · intro buffer keys
    refine ⟨?_, Entry.length_renderings buffer keys, Entry.renderings_accepted buffer keys⟩
    rw [Calculator.pressAll_eq, showAll_list, List.append_nil, List.reverse_reverse]
  · intro σ _ c keys
    exact c.pressAll_accepted keys

end PocketCalculator
