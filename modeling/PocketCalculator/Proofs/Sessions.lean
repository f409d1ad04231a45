import Mathlib.Logic.Relation
import PocketCalculator.Proofs.PadFocus
import PocketCalculator.Proofs.PadKeys

/-!
# Sessions

## Events without keys
-/

namespace PocketCalculator

def InputEvent.IsSilent : InputEvent -> Prop
  | .typed t => forall c, c ∈ t -> c ∉ "0123456789.+-*/=Cc".toList
  | .named key isPressed => isPressed = false ∨ (key ≠ .enter ∧ key ≠ .escape)
  | .paste _ => True
  | .copy => True
  | .cut => True

namespace Keyboard

theorem ofChar?_eq_none {c : Char} (h : c ∉ "0123456789.+-*/=Cc".toList) :
    ofChar? c = none := by
  cases hkey : ofChar? c with
  | none => rfl
  | some k =>
      -- Only the small letter is read as a key with another character.
      have hcharacter : k.character = c := by
        rw [character_of_ofChar? hkey]
        apply if_neg
        intro hsmall
        rw [hsmall] at h
        exact absurd (by decide) h
      have hmem : c ∈ "0123456789.+-*/=C".toList := by
        rcases List.mem_map.mp k.label_mem_characters with ⟨d, hd, hlabel⟩
        rw [← hcharacter, ← List.singleton_inj.mp hlabel]
        exact hd
      have hmore : "0123456789.+-*/=C".toList ⊆ "0123456789.+-*/=Cc".toList := by
        decide
      exact absurd (hmore hmem) h

theorem ofEvent_of_isSilent {event : InputEvent} (h : event.IsSilent) :
    ofEvent event = [] := by
  cases event with
  | typed t =>
      apply List.filterMap_eq_nil_iff.mpr
      intro c hc
      exact ofChar?_eq_none (h c hc)
  | named key isPressed =>
      rcases h with hreleased | ⟨henter, hescape⟩
      · rw [hreleased]
        rfl
      · cases key with
        | enter => exact absurd rfl henter
        | escape => exact absurd rfl hescape
        | _ => cases isPressed <;> rfl
  | paste t => rfl
  | copy => rfl
  | cut => rfl

end Keyboard

/-!
## Rearranged sessions

The same input can be spread differently over frames and events.  None of the
changes below alters the keys of a session or their order.
-/

namespace Frame

/--
A change of some consecutive frames: a frame without input, the events of a frame
divided between two, a typed text cut in two, an event without keys, or a key typed
at the beginning of the next frame instead of clicked.
-/
inductive Change : List Frame -> List Frame -> Prop where
  | idle : Change [] [⟨[], none⟩]
  | divided {first second : List InputEvent} {click : Option Key} :
      Change [⟨first ++ second, click⟩] [⟨first, none⟩, ⟨second, click⟩]
  | cut {first second : List InputEvent} {click : Option Key} (s t : Text) :
      Change [⟨first ++ .typed (s ++ t) :: second, click⟩]
        [⟨first ++ .typed s :: .typed t :: second, click⟩]
  | inserted {first second : List InputEvent} {click : Option Key} {event : InputEvent} :
      event.IsSilent ->
      Change [⟨first ++ second, click⟩] [⟨first ++ event :: second, click⟩]
  | typed {first second : List InputEvent} {click : Option Key} (k : Key) :
      Change [⟨first, some k⟩, ⟨second, click⟩]
        [⟨first, none⟩, ⟨.typed [k.character] :: second, click⟩]

inductive ChangeWithin : List Frame -> List Frame -> Prop where
  | within (before after : List Frame) {old new : List Frame} : Change old new ->
      ChangeWithin (before ++ old ++ after) (before ++ new ++ after)

/-- Any number of changes, made or undone. -/
def Rearranged : List Frame -> List Frame -> Prop :=
  Relation.EqvGen ChangeWithin

theorem Change.keys_eq {old new : List Frame} (h : Change old new) :
    old.flatMap keys = new.flatMap keys := by
  cases h with
  | idle => rfl
  | divided => simp [keys, Keyboard.ofEvents_append]
  | cut s t =>
      simp [keys, Keyboard.ofEvents, Keyboard.ofEvent_typed_append]
  | inserted hsilent =>
      simp [keys, Keyboard.ofEvents, Keyboard.ofEvent_of_isSilent hsilent]
  | typed k =>
      have hkey : Keyboard.ofEvent (.typed [k.character]) = [k] := by
        rw [Keyboard.ofEvent, List.filterMap_cons_some (Keyboard.ofChar?_character k)]
        rfl
      simp [keys, Keyboard.ofEvents, hkey]

variable {frames frames' : List Frame}

theorem Rearranged.keys_eq (h : Rearranged frames frames') :
    frames.flatMap keys = frames'.flatMap keys := by
  induction h with
  | rel _ _ hchange =>
      cases hchange with
      | within before after hchange =>
          simp only [List.flatMap_append, hchange.keys_eq]
  | refl _ => rfl
  | symm _ _ _ ih => exact ih.symm
  | trans _ _ _ _ _ ihfirst ihsecond => exact ihfirst.trans ihsecond

theorem Rearranged.painted_keys_eq {f f' : Frame}
    (h : Rearranged (frames ++ [f]) (frames' ++ [f'])) (hclick : f.click = f'.click) :
    frames.flatMap keys ++ Keyboard.ofEvents f.events =
      frames'.flatMap keys ++ Keyboard.ofEvents f'.events := by
  have hkeys := h.keys_eq
  simp only [List.flatMap_append, List.flatMap_singleton, keys, ← List.append_assoc,
    hclick] at hkeys
  exact List.append_cancel_right hkeys

end Frame

/--
A frame is painted after the keys of all earlier frames and its own keyboard's,
and the clicked key comes last.  What a window shows therefore depends on the keys
alone: sessions with the same keys, and in particular rearranged sessions, show the
same from then on, and also in the last frame that was changed.
-/
theorem displays_depend_on_the_keys_alone {kit : Toolkit} (w : Window kit) :
    (forall (frames : List Frame) (f : Frame), w.IsMouseDriven (frames ++ [f]) ->
      ((w.afterAll frames).painted f).shown =
        (w.calculator.pressAll
          ((frames.flatMap Frame.keys ++ Keyboard.ofEvents f.events).map
            Key.label)).display.text ∧
      (w.afterAll (frames ++ [f])).shown =
        (w.calculator.pressAll
          ((frames.flatMap Frame.keys ++ Keyboard.ofEvents f.events ++ f.click.toList).map
            Key.label)).display.text) ∧
    (forall frames frames' : List Frame, w.IsMouseDriven frames -> w.IsMouseDriven frames' ->
      frames.flatMap Frame.keys = frames'.flatMap Frame.keys ->
      (w.afterAll frames).calculator = (w.afterAll frames').calculator) ∧
    (forall frames frames' later : List Frame, Frame.Rearranged frames frames' ->
      w.IsMouseDriven (frames ++ later) -> w.IsMouseDriven (frames' ++ later) ->
      (w.afterAll (frames ++ later)).calculator =
        (w.afterAll (frames' ++ later)).calculator ∧
      forall f : Frame,
        ((w.afterAll (frames ++ later)).painted f).calculator =
          ((w.afterAll (frames' ++ later)).painted f).calculator) ∧
    (forall (frames frames' : List Frame) (f f' : Frame),
      Frame.Rearranged (frames ++ [f]) (frames' ++ [f']) -> f.click = f'.click ->
      w.IsMouseDriven (frames ++ [f]) -> w.IsMouseDriven (frames' ++ [f']) ->
      ((w.afterAll frames).painted f).calculator =
        ((w.afterAll frames').painted f').calculator) := by
  refine ⟨?_, ?_, ?_, ?_⟩
  · intro frames f h
    have hbefore := (Window.isMouseDriven_append.mp h).1
    constructor
    · exact congrArg (fun c => c.display.text) (Window.painted_calculator hbefore f)
    · have hafter := Window.afterAll_calculator h
      rw [List.flatMap_append, List.flatMap_singleton, Frame.keys, ← List.append_assoc] at hafter
      exact congrArg (fun c => c.display.text) hafter
  · intro frames frames' h h' hkeys
    rw [Window.afterAll_calculator h, Window.afterAll_calculator h', hkeys]
  · intro frames frames' later hchanged h h'
    have hsame : (w.afterAll (frames ++ later)).calculator =
        (w.afterAll (frames' ++ later)).calculator := by
      rw [Window.afterAll_calculator h, Window.afterAll_calculator h', List.flatMap_append,
        List.flatMap_append, hchanged.keys_eq]
    refine ⟨hsame, ?_⟩
    intro f
    exact congrArg (fun c => c.pressAll ((Keyboard.ofEvents f.events).map Key.label)) hsame
  · intro frames frames' f f' hchanged hclick h h'
    have hbefore := (Window.isMouseDriven_append.mp h).1
    have hbefore' := (Window.isMouseDriven_append.mp h').1
    rw [Window.painted_calculator hbefore, Window.painted_calculator hbefore',
      hchanged.painted_keys_eq hclick]

/-- A sum whose last digit is clicked, and the same sum with that digit typed. -/
theorem displays_depend_on_the_keys_alone_click :
    Focus.window.IsMouseDriven
      [⟨[.typed "12+".toList], some (.digit 3)⟩, ⟨[.named .enter true], none⟩] ∧
    Focus.window.IsMouseDriven
      [⟨[.typed "12+".toList], none⟩, ⟨[.typed ['3'], .named .enter true], none⟩] ∧
    Frame.Rearranged
      [⟨[.typed "12+".toList], some (.digit 3)⟩, ⟨[.named .enter true], none⟩]
      [⟨[.typed "12+".toList], none⟩, ⟨[.typed ['3'], .named .enter true], none⟩] ∧
    ((Focus.window.afterAll [⟨[.typed "12+".toList], some (.digit 3)⟩]).painted
      ⟨[.named .enter true], none⟩).shown = "15".toList ∧
    ((Focus.window.afterAll [⟨[.typed "12+".toList], some (.digit 3)⟩]).painted
      ⟨[.named .enter true], none⟩).calculator =
      ((Focus.window.afterAll [⟨[.typed "12+".toList], none⟩]).painted
        ⟨[.typed ['3'], .named .enter true], none⟩).calculator ∧
    (Focus.window.afterAll
      [⟨[.typed "12+".toList], some (.digit 3)⟩, ⟨[.named .enter true], none⟩]).calculator =
      (Focus.window.afterAll
        [⟨[.typed "12+".toList], none⟩, ⟨[.typed ['3'], .named .enter true], none⟩]).calculator ∧
    (Focus.window.afterAll
      [⟨[.typed "12+".toList], some (.digit 3)⟩, ⟨[.named .enter true], none⟩,
        ⟨[.copy], some .clear⟩]).calculator =
      (Focus.window.afterAll
        [⟨[.typed "12+".toList], none⟩, ⟨[.typed ['3'], .named .enter true], none⟩,
          ⟨[.copy], some .clear⟩]).calculator := by
  have hclicked : Focus.window.IsMouseDriven
      [⟨[.typed "12+".toList], some (.digit 3)⟩, ⟨[.named .enter true], none⟩] :=
    Window.isMouseDriven_of_free rfl (by decide)
  have htyped : Focus.window.IsMouseDriven
      [⟨[.typed "12+".toList], none⟩, ⟨[.typed ['3'], .named .enter true], none⟩] :=
    Window.isMouseDriven_of_free rfl (by decide)
  have hchanged : Frame.Rearranged
      [⟨[.typed "12+".toList], some (.digit 3)⟩, ⟨[.named .enter true], none⟩]
      [⟨[.typed "12+".toList], none⟩, ⟨[.typed ['3'], .named .enter true], none⟩] :=
    Relation.EqvGen.rel _ _ (Frame.ChangeWithin.within [] [] (Frame.Change.typed (.digit 3)))
  rcases displays_depend_on_the_keys_alone Focus.window with ⟨hshown, hkeys, hlater, hpainted⟩
  refine ⟨hclicked, htyped, hchanged, ?_, ?_, ?_, ?_⟩
  · rw [(hshown [_] _ hclicked).1]
    decide +kernel
  · exact hpainted [_] [_] _ _ hchanged rfl hclicked htyped
  · exact hkeys _ _ hclicked htyped (Frame.Rearranged.keys_eq hchanged)
  · exact (hlater _ _ [_] hchanged (Window.isMouseDriven_of_free rfl (by decide))
      (Window.isMouseDriven_of_free rfl (by decide))).1

end PocketCalculator
