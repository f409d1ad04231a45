import PocketCalculator.Proofs.AdmissibleTexts
import PocketCalculator.Proofs.AnswerLine
import PocketCalculator.Proofs.PadFocus
import PocketCalculator.Proofs.TerminalPlatform

/-!
# Entered texts

## The text of a frame

What is typed and clicked in a frame makes up a text, in which enter counts as an
equals sign and escape as a C.  If the pad has its characters, the keys of the
frame spell it.
-/

namespace PocketCalculator

def InputEvent.text : InputEvent -> Text
  | .typed t => t
  | .named .enter true => ['=']
  | .named .escape true => ['C']
  | _ => []

/-- The text that the events and the click of a frame make up. -/
def Frame.text (f : Frame) : Text :=
  f.events.flatMap InputEvent.text ++ f.click.toList.map Key.character

def Keypad.IsSpellable (t : Text) : Prop :=
  forall c, c ∈ t -> exists k : Key, k.character = c

namespace Keypad

theorem IsSpellable.left {s t : Text} (h : IsSpellable (s ++ t)) : IsSpellable s :=
  fun c hc => h c (List.mem_append_left t hc)

theorem IsSpellable.right {s t : Text} (h : IsSpellable (s ++ t)) : IsSpellable t :=
  fun c hc => h c (List.mem_append_right s hc)

theorem IsSpellable.exists_keys {t : Text} (h : IsSpellable t) :
    exists keys : List Key, keys.map Key.character = t := by
  induction t with
  | nil => exact ⟨[], rfl⟩
  | cons c t ih =>
      rcases h c (List.mem_cons_self ..) with ⟨k, hk⟩
      rcases ih (h.right (s := [c])) with ⟨keys, hkeys⟩
      exact ⟨k :: keys, by rw [List.map_cons, hk, hkeys]⟩

end Keypad

open Keypad

namespace Keyboard

theorem map_character_ofTyped {t : Text} (h : IsSpellable t) :
    (t.filterMap ofChar?).map Key.character = t := by
  rcases h.exists_keys with ⟨keys, rfl⟩
  rw [List.filterMap_map]
  have hsome : (ofChar? ∘ Key.character) = some := by
    funext k
    exact ofChar?_character k
  rw [hsome, List.filterMap_some]

theorem map_character_ofEvent {event : InputEvent} (h : IsSpellable event.text) :
    (ofEvent event).map Key.character = event.text := by
  cases event with
  | typed t => exact map_character_ofTyped h
  | named key isPressed =>
      cases isPressed with
      | false => cases key <;> rfl
      | true => cases key <;> rfl
  | paste t => rfl
  | copy => rfl
  | cut => rfl

theorem map_character_ofEvents {events : List InputEvent}
    (h : IsSpellable (events.flatMap InputEvent.text)) :
    (ofEvents events).map Key.character = events.flatMap InputEvent.text := by
  induction events with
  | nil => rfl
  | cons event events ih =>
      rw [List.flatMap_cons] at h ⊢
      rw [← map_character_ofEvent h.left, ← ih h.right, ← List.map_append]
      rfl

end Keyboard

namespace Frame

theorem map_character_keys {f : Frame} (h : IsSpellable f.text) :
    f.keys.map Key.character = f.text := by
  rw [keys, List.map_append, Keyboard.map_character_ofEvents h.left]
  rfl

theorem map_character_flatMap_keys {frames : List Frame}
    (h : IsSpellable (frames.flatMap text)) :
    (frames.flatMap keys).map Key.character = frames.flatMap text := by
  induction frames with
  | nil => rfl
  | cons f frames ih =>
      rw [List.flatMap_cons] at h ⊢
      rw [List.flatMap_cons, List.map_append, map_character_keys h.left, ih h.right]

end Frame

theorem Key.map_label (keys : List Key) :
    keys.map Key.label = Entry.keysOf (keys.map Key.character) := by
  rw [Entry.keysOf, List.map_map]
  rfl

/-!
## The answer on the screen
-/

namespace Entry

def typableCharacters : Text :=
  "0123456789.+-*/".toList

theorem isTypable_of_subset {x : Text} (h : x ⊆ typableCharacters) : IsTypable x := by
  have hall : typableCharacters.all isTypable = true := by
    decide
  exact fun c hc => List.all_eq_true.mp hall c (h hc)

theorem isSpellable_of_subset {x : Text} (h : x ⊆ typableCharacters) :
    IsSpellable (x ++ ['=']) := by
  have hsigns : typableCharacters ⊆ keys.map Key.character := by
    decide
  have hequals : ['='] ⊆ keys.map Key.character := by
    decide
  have hkeys : x ++ ['='] ⊆ keys.map Key.character :=
    List.append_subset.mpr ⟨List.Subset.trans h hsigns, hequals⟩
  intro c hc
  rcases List.mem_map.mp (hkeys hc) with ⟨k, _, hk⟩
  exact ⟨k, hk⟩

end Entry

theorem Screen.textFor_answer {x : Text} (hx : Entry.IsTypable x) :
    textFor (answer x) = if x = [] then ['0'] else answer x := by
  by_cases hnil : x = []
  · rw [if_pos hnil, hnil]
    rfl
  · rw [if_neg hnil]
    apply textFor_of_ne_nil
    intro hanswer
    have hstrip := strip_of_answer_eq_nil hanswer
    rw [Text.strip_eq_self fun c hc => Entry.isBlank_of_isTypable (hx c hc)] at hstrip
    exact hnil hstrip

namespace Calculator

variable {σ : Type} [Display σ] {c : Calculator σ} {x : Text}

theorem pressAll_keysOf_eq_iff (hc : c.buffer = []) (hx : Entry.IsTypable x) :
    (c.pressAll (Entry.keysOf x)).buffer = x <-> Entry.IsAdmissible x := by
  rw [pressAll_buffer, hc]
  exact Entry.pressAll_keysOf_eq_iff hx

theorem pressAll_keysOf_equals (hc : c.buffer = []) (hx : Entry.IsTypable x)
    (h : Entry.IsAdmissible x) :
    c.pressAll (Entry.keysOf (x ++ ['='])) =
      ⟨answer x, (Display.render (c.pressAll (Entry.keysOf x)).display (answer x)).1⟩ := by
  have hkept := (pressAll_keysOf_eq_iff hc hx).mpr h
  rw [Entry.keysOf, List.map_append, pressAll_append]
  change ((c.pressAll (Entry.keysOf x)).press ['=']).1 = _
  generalize c.pressAll (Entry.keysOf x) = typed at hkept ⊢
  subst hkept
  rfl

end Calculator

namespace Window

variable {kit : Toolkit} {w : Window kit} {x : Text}

/-- Whether the window has the answer to a text in its buffer and on its screen. -/
def ShowsAnswer (w : Window kit) (x : Text) : Prop :=
  w.calculator.buffer = answer x ∧ w.shown = if x = [] then ['0'] else answer x

theorem showsAnswer_of_pressAll {before : Calculator Screen} (hbefore : before.buffer = [])
    (hx : Entry.IsTypable x) (h : Entry.IsAdmissible x)
    (hw : w.calculator = before.pressAll (Entry.keysOf (x ++ ['=']))) : w.ShowsAnswer x := by
  rw [Calculator.pressAll_keysOf_equals hbefore hx h] at hw
  rw [ShowsAnswer, shown, hw]
  exact ⟨rfl, Screen.textFor_answer hx⟩

theorem pressKeys_showsAnswer (hw : w.calculator.buffer = []) (hx : Entry.IsTypable x)
    (h : Entry.IsAdmissible x) {keys : List Key}
    (hkeys : keys.map Key.character = x ++ ['=']) : (w.pressKeys keys).ShowsAnswer x := by
  apply showsAnswer_of_pressAll hw hx h
  rw [← hkeys, ← Key.map_label]
  rfl

theorem afterAll_showsAnswer (hw : w.calculator.buffer = []) (hx : Entry.IsTypable x)
    (h : Entry.IsAdmissible x) {frames : List Frame} (hframes : w.IsMouseDriven frames)
    (hkeys : (frames.flatMap Frame.keys).map Key.character = x ++ ['=']) :
    (w.afterAll frames).ShowsAnswer x := by
  apply showsAnswer_of_pressAll hw hx h
  rw [← hkeys, ← Key.map_label]
  exact afterAll_calculator hframes

end Window

/--
A text of typable characters stays as it is typed just when it is admissible.  An
equals sign or enter after it then gives its answer, in whatever pieces the text
was typed or clicked, and the command line prints the same answer.
-/
theorem admissible_texts_are_answered {x : Text} (hx : x ⊆ Entry.typableCharacters) :
    (forall (σ : Type) [Display σ] (display : σ) (c : Calculator σ),
      (((Calculator.new display).pressAll (Entry.keysOf x)).buffer = x <->
        Entry.IsAdmissible x) ∧
      ((c.pressAll (['C'] :: Entry.keysOf x)).buffer = x <-> Entry.IsAdmissible x)) ∧
    (Entry.IsAdmissible x -> forall (kit : Toolkit) (w : Window kit),
      w.calculator.buffer = [] ->
      (forall events : List InputEvent, events.flatMap InputEvent.text = x ++ ['='] ->
        (w.pressKeys (Keyboard.ofEvents events)).ShowsAnswer x) ∧
      (exists clicks : List Key, clicks.map Key.character = x ++ ['='] ∧
        (w.pressKeys clicks).ShowsAnswer x) ∧
      (forall frames : List Frame, w.IsMouseDriven frames ->
        frames.flatMap Frame.text = x ++ ['='] -> (w.afterAll frames).ShowsAnswer x)) ∧
    (forall p : CommandLine.Platform, p.IsConventional ->
      CommandLine.run p [CommandLine.evaluationArgument x] none = ⟨0, [answer x], none⟩ ∧
      forall asked : Option Text,
        (CommandLine.run p [CommandLine.evaluationArgument x] asked).exitCode = 0 ∧
        (CommandLine.run p [CommandLine.evaluationArgument x] asked).outputLines.getLast? =
          some (answer x)) := by
  have htypable := Entry.isTypable_of_subset hx
  have hspellable := Entry.isSpellable_of_subset hx
  refine ⟨?_, ?_, ?_⟩
  · intro σ _ display c
    exact ⟨Calculator.pressAll_keysOf_eq_iff rfl htypable,
      Calculator.pressAll_keysOf_eq_iff rfl htypable⟩
  · intro h kit w hw
    refine ⟨?_, ?_, ?_⟩
    · intro events hevents
      apply Window.pressKeys_showsAnswer hw htypable h
      rw [Keyboard.map_character_ofEvents (hevents ▸ hspellable), hevents]
    · rcases hspellable.exists_keys with ⟨clicks, hclicks⟩
      exact ⟨clicks, hclicks, Window.pressKeys_showsAnswer hw htypable h hclicks⟩
    · intro frames hframes htext
      apply Window.afterAll_showsAnswer hw htypable h hframes
      rw [Frame.map_character_flatMap_keys (htext ▸ hspellable), htext]
  · intro p hp
    refine ⟨CommandLine.run_evaluationArgument_none hp x, ?_⟩
    intro asked
    rw [CommandLine.run_evaluationArgument hp]
    exact ⟨rfl, List.getLast?_concat ..⟩

/-- A difference that is partly typed and partly clicked, and a text that is not kept. -/
theorem admissible_texts_are_answered_difference :
    ((Calculator.new Screen.initial).pressAll (Entry.keysOf "-3-.5".toList)).buffer =
      "-3-.5".toList ∧
    (Focus.window.afterAll
      [⟨[.typed "-3".toList, .typed "-".toList], some .point⟩,
        ⟨[.typed "5".toList, .named .enter true], none⟩]).ShowsAnswer "-3-.5".toList ∧
    CommandLine.run .terminal [CommandLine.evaluationArgument "-3-.5".toList] none =
      ⟨0, [answer "-3-.5".toList], none⟩ ∧
    ((Calculator.new Screen.initial).pressAll (Entry.keysOf "3--".toList)).buffer ≠
      "3--".toList := by
  have hkept := admissible_texts_are_answered (x := "-3-.5".toList) (by decide)
  have hlost := admissible_texts_are_answered (x := "3--".toList) (by decide)
  refine ⟨?_, ?_, (hkept.2.2 _ CommandLine.Platform.terminal_isConventional).1, ?_⟩
  · apply (hkept.1 Screen Screen.initial (Calculator.new Screen.initial)).1.mpr
    decide
  · apply (hkept.2.1 (by decide) Focus.toolkit Focus.window rfl).2.2
    · exact Window.isMouseDriven_of_free rfl (by decide)
    · decide
  · intro hsame
    have hadmissible := (hlost.1 Screen Screen.initial (Calculator.new Screen.initial)).1.mp hsame
    exact absurd hadmissible (by decide)

end PocketCalculator
