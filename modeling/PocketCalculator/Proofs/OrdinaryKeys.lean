import PocketCalculator.Proofs.BufferLength
import PocketCalculator.Proofs.CheckedRuns
import PocketCalculator.Proofs.KeySteps
import PocketCalculator.Proofs.Rendering

/-!
# Ordinary keys

## Keys without a meaning of their own

Apart from the empty key and seven keys of one character, a key is only added to
the buffer.  An addition keeps the first thirty characters of what it gives, so
additions one after another keep the same as one addition of all their texts.
-/

namespace PocketCalculator

namespace Entry

def namedKeys : List Text :=
  [['C'], ['='], ['.'], ['+'], ['-'], ['*'], ['/']]

/-- Whether a key does nothing but add its text. -/
def IsOrdinary (key : Text) : Prop :=
  key ≠ [] ∧ key ∉ namedKeys

instance (key : Text) : Decidable (IsOrdinary key) :=
  inferInstanceAs (Decidable (key ≠ [] ∧ key ∉ namedKeys))

theorem symbol_mem_namedKeys (o : Operator) : [o.symbol] ∈ namedKeys := by
  cases o <;> decide

theorem press_of_isOrdinary {key : Text} (h : IsOrdinary key) (buffer : Text) :
    press buffer key = .applied (append buffer key) [] := by
  have hstep := keyStep_press buffer key
  generalize press buffer key = transition at hstep
  cases hstep with
  | ignored hcause =>
      rcases hcause with hnil | ⟨_, o, _, rfl⟩ | ⟨_, rfl⟩
      · exact absurd hnil h.1
      · exact absurd (symbol_mem_namedKeys o) h.2
      · exact absurd (by decide) h.2
  | cleared => exact absurd (by decide) h.2
  | answered => exact absurd (by decide) h.2
  | replaced o _ => exact absurd (symbol_mem_namedKeys o) h.2
  | added => rfl

/-!
## Additions one after another
-/

theorem append_nil_of_length_le {buffer : Text} (h : buffer.length ≤ capacity) :
    append buffer [] = buffer := by
  rw [append, List.append_nil, List.take_of_length_le h]

/-- What is cut off before an addition would be cut off after it as well. -/
theorem append_take (buffer next : Text) :
    append (buffer.take capacity) next = append buffer next := by
  have hroom : capacity - (buffer.take capacity).length = capacity - buffer.length := by
    rw [List.length_take]
    omega
  rw [append, append, List.take_append, List.take_append, List.take_take, Nat.min_self, hroom]

theorem append_append (buffer key next : Text) :
    append (append buffer key) next = append buffer (key ++ next) :=
  calc append (append buffer key) next
    _ = append (buffer ++ key) next := append_take (buffer ++ key) next
    _ = append buffer (key ++ next) := congrArg (List.take capacity) (List.append_assoc ..)

variable {keys : List Text}

theorem pressAll_of_isOrdinary (hkeys : forall key, key ∈ keys -> IsOrdinary key)
    {buffer : Text} (h : buffer.length ≤ capacity) :
    pressAll buffer keys = append buffer keys.flatten := by
  induction keys generalizing buffer with
  | nil => exact (append_nil_of_length_le h).symm
  | cons key keys ih =>
      have hpress := press_of_isOrdinary (hkeys key (List.mem_cons_self ..)) buffer
      have hrest := ih (fun next hnext => hkeys next (List.mem_cons_of_mem key hnext))
        (length_append_le buffer key)
      rw [pressAll_cons, hpress, Transition.bufferFrom, hrest, append_append,
        List.flatten_cons]

theorem accepted_of_isOrdinary (hkeys : forall key, key ∈ keys -> IsOrdinary key)
    (buffer : Text) : accepted buffer keys = keys := by
  induction keys generalizing buffer with
  | nil => rfl
  | cons key keys ih =>
      have hpress := press_of_isOrdinary (hkeys key (List.mem_cons_self ..)) buffer
      rw [accepted_cons_of_applied hpress,
        ih (fun next hnext => hkeys next (List.mem_cons_of_mem key hnext))]

end Entry

/--
Behind any keys, ordinary keys are all accepted, and the buffer ends as the first
thirty characters of the one before them and all of their texts.  The offsets in
bytes at which the additions are cut lead to the same buffer, and so do other
ordinary keys into which the same text is cut.
-/
theorem ordinary_keys_add_one_text (reached : List Text) {keys : List Text}
    (hkeys : forall key, key ∈ keys -> Entry.IsOrdinary key) :
    let buffer := Entry.pressAll [] reached
    Entry.accepted buffer keys = keys ∧
    Entry.pressAll buffer keys = (buffer ++ keys.flatten).take 30 ∧
    Entry.pressAll? buffer keys = some ((buffer ++ keys.flatten).take 30) ∧
    (forall (σ : Type) [Display σ] (display : σ),
      ((Calculator.new display).pressAll (reached ++ keys)).buffer =
        (buffer ++ keys.flatten).take 30) ∧
    forall others : List Text, (forall key, key ∈ others -> Entry.IsOrdinary key) ->
      others.flatten = keys.flatten ->
        Entry.pressAll buffer others = Entry.pressAll buffer keys := by
  intro buffer
  have hshort : buffer.length ≤ Entry.capacity :=
    Entry.length_pressAll_le (Nat.zero_le _) reached
  have hbuffer : Entry.pressAll buffer keys = (buffer ++ keys.flatten).take 30 :=
    Entry.pressAll_of_isOrdinary hkeys hshort
  refine ⟨Entry.accepted_of_isOrdinary hkeys buffer, hbuffer, ?_, ?_, ?_⟩
  · rw [Entry.pressAll?_eq, hbuffer]
  · intro σ _ display
    rw [Calculator.pressAll_buffer, Entry.pressAll_append]
    exact hbuffer
  · intro others hothers hflatten
    rw [Entry.pressAll_of_isOrdinary hothers hshort, hflatten,
      Entry.pressAll_of_isOrdinary hkeys hshort]

/-- Behind twenty-nine letters, a key of several characters crosses the bound, in two ways. -/
theorem ordinary_keys_add_one_text_crossing :
    let reached : List Text := [['C'], List.replicate 29 'é']
    let keys : List Text := [['€', '.', '7'], ['8', '9']]
    let others : List Text := [['€'], ['.', '7', '8', '9']]
    let buffer := Entry.pressAll [] reached
    Entry.accepted buffer keys = keys ∧
    Entry.pressAll? buffer keys = some (List.replicate 29 'é' ++ ['€']) ∧
    Entry.pressAll buffer others = Entry.pressAll buffer keys := by
  intro reached keys others buffer
  have hkeys : forall key, key ∈ keys -> Entry.IsOrdinary key := by
    decide
  have hothers : forall key, key ∈ others -> Entry.IsOrdinary key := by
    decide
  rcases ordinary_keys_add_one_text reached hkeys with
    ⟨haccepted, _, hchecked, _, hcuts⟩
  have hbuffer : (buffer ++ keys.flatten).take 30 = List.replicate 29 'é' ++ ['€'] := by
    decide
  rw [hbuffer] at hchecked
  exact ⟨haccepted, hchecked, hcuts others hothers rfl⟩

end PocketCalculator
