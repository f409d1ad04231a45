import PocketCalculator.Focus
import PocketCalculator.Proofs.Frames

/-!
# The focus of the pad

## Without the tab key

The tab key is the only one that gives the focus to a key.  Until it is used, the
keys of the pad are pressed by the mouse alone.
-/

namespace PocketCalculator

namespace Focus

def isTab : InputEvent -> Bool
  | .named .tab true => true
  | _ => false

theorem note_free {m : Move} {event : InputEvent} (h : isTab event = false)
    (stays : m ≠ .next) : exists n, note (free, m) event = (free, n) ∧ n ≠ .next := by
  unfold note
  split
  · simp [isTab] at h
  · exact ⟨_, rfl, by simp⟩
  · exact ⟨_, rfl, by simp⟩
  · exact ⟨m, rfl, stays⟩

theorem foldl_note_free {events : List InputEvent} {m : Move}
    (h : forall event, event ∈ events -> isTab event = false) (stays : m ≠ .next) :
    exists n, events.foldl note (free, m) = (free, n) ∧ n ≠ .next := by
  induction events generalizing m with
  | nil => exact ⟨m, rfl, stays⟩
  | cons event rest ih =>
      rcases note_free (h event List.mem_cons_self) stays with ⟨n, noted, nStays⟩
      rw [List.foldl_cons, noted]
      exact ih (fun e member => h e (List.mem_cons_of_mem event member)) nStays

theorem handOn_free {m : Move} (stays : m ≠ .next) : free.handOn m = free := by
  cases m with
  | stay => rfl
  | next => exact absurd rfl stays
  | toward d => rfl

theorem during_free {events : List InputEvent}
    (h : forall event, event ∈ events -> isTab event = false) :
    free.during events = free := by
  rcases foldl_note_free (m := .stay) h (by decide) with ⟨n, noted, stays⟩
  unfold during noteAll
  rw [noted]
  exact handOn_free stays

theorem after_free {events : List InputEvent}
    (h : forall event, event ∈ events -> isTab event = false) :
    free.after events = free := by
  unfold after
  rw [during_free h]
  cases (free.noteAll events).2 with
  | stay => rfl
  | next => rfl
  | toward d => rfl

end Focus

def Frame.HasNoTab (f : Frame) : Prop :=
  forall event, event ∈ f.events -> Focus.isTab event = false

instance (f : Frame) : Decidable f.HasNoTab :=
  inferInstanceAs (Decidable (forall event, event ∈ f.events -> Focus.isTab event = false))

namespace Focus

theorem beforeClick_free (f : Frame) : free.beforeClick f = free := by
  unfold beforeClick
  cases f.click with
  | none => rfl
  | some k => rfl

theorem presses_free {f : Frame} (h : f.HasNoTab) (k : Key) :
    free.presses f k = decide (f.click = some k) := by
  rw [presses, beforeClick_free, during_free h]
  simp [free]

theorem toolkit_after_free {f : Frame} (h : f.HasNoTab) : toolkit.after free f = free := by
  change (free.beforeClick f).after f.events = free
  rw [beforeClick_free, after_free h]

end Focus

namespace Window

theorem isMouseDriven_of_free {w : Window Focus.toolkit} (hfocus : w.state = Focus.free)
    {frames : List Frame} (h : forall f, f ∈ frames -> f.HasNoTab) :
    w.IsMouseDriven frames := by
  induction frames generalizing w with
  | nil => trivial
  | cons f frames ih =>
      have hf := h f (List.mem_cons_self ..)
      constructor
      · intro k
        change Focus.presses w.state f k = true <-> _
        rw [hfocus, Focus.presses_free hf, decide_eq_true_iff]
      · apply ih _ fun g hg => h g (List.mem_cons_of_mem f hg)
        change Focus.toolkit.after w.state f = Focus.free
        rw [hfocus, Focus.toolkit_after_free hf]

end Window

end PocketCalculator
