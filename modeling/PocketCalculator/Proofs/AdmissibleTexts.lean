import PocketCalculator.Proofs.TypedTexts

/-!
# Admissible texts

## Typing a text character by character

A typed text stays as it is when there is room for it, no sign but the minus sign
opens it, and its signs and points stand apart.  These are the texts that are
entered without a character being ignored, replaced or cut off.
-/

namespace PocketCalculator

namespace Entry

def keysOf (x : Text) : List Text :=
  x.map fun c => [c]

/-- Whether a text has room in the buffer, opens as it may and is spaced as it must be. -/
structure IsAdmissible (x : Text) : Prop extends IsSpaced x where
  fits : x.length ≤ capacity
  opening : x.head? ∉ [some '+', some '*', some '/']

theorem isAdmissible_iff {x : Text} :
    IsAdmissible x <->
      (StandApart Operator.isSymbol x ∧ StandApart isPoint x) ∧ x.length ≤ capacity ∧
        x.head? ∉ [some '+', some '*', some '/'] :=
  ⟨fun h => ⟨⟨h.signs, h.points⟩, h.fits, h.opening⟩,
    fun ⟨⟨hsigns, hpoints⟩, hfits, hopening⟩ => ⟨⟨hsigns, hpoints⟩, hfits, hopening⟩⟩

instance (x : Text) : Decidable (IsAdmissible x) :=
  decidable_of_iff _ isAdmissible_iff.symm

theorem isAdmissible_nil : IsAdmissible [] :=
  ⟨isSpaced_nil, Nat.zero_le capacity, by decide⟩

theorem pressAll_keysOf_concat (buffer x : Text) (c : Char) :
    pressAll buffer (keysOf (x ++ [c])) =
      (press (pressAll buffer (keysOf x)) [c]).bufferFrom (pressAll buffer (keysOf x)) := by
  rw [keysOf, List.map_append, pressAll_append]
  rfl

theorem append_eq_of_length_lt {buffer : Text} (h : buffer.length < capacity) (c : Char) :
    append buffer [c] = buffer ++ [c] := by
  apply List.take_of_length_le
  rw [List.length_append]
  exact h

variable {buffer x : Text} {c : Char}

theorem length_le_of_not_follows (hc : isTypable c = true) (h : ¬ Follows buffer c) :
    ((press buffer [c]).bufferFrom buffer).length ≤ buffer.length := by
  rcases bufferFrom_of_not_follows hc h with hsame | ⟨hends, o, hreplaced⟩
  · rw [hsame]
  · have hne : buffer ≠ [] := by
      rintro rfl
      cases hends
    have hpos := List.length_pos_of_ne_nil hne
    rw [hreplaced, List.length_append, List.length_dropLast, List.length_singleton]
    omega

theorem length_typed_le (hc : isTypable c = true) (buffer : Text) :
    ((press buffer [c]).bufferFrom buffer).length ≤ buffer.length + 1 := by
  by_cases hfollows : Follows buffer c
  · rw [press_of_follows hc hfollows]
    have hcut : (append buffer [c]).length ≤ (buffer ++ [c]).length :=
      List.length_take_le' capacity (buffer ++ [c])
    rwa [List.length_append] at hcut
  · exact Nat.le_succ_of_le (length_le_of_not_follows hc hfollows)

theorem length_pressAll_keysOf_le (hx : IsTypable x) :
    (pressAll [] (keysOf x)).length ≤ x.length := by
  induction x using List.reverseRecOn with
  | nil => exact Nat.le_refl 0
  | append_singleton x c ih =>
      have hshorter := ih (hx.sublist (List.sublist_append_left x [c]))
      have hone := length_typed_le (hx c (by simp)) (pressAll [] (keysOf x))
      rw [pressAll_keysOf_concat, List.length_append]
      exact hone.trans (Nat.succ_le_succ hshorter)

/-!
## One character more

A text with one character more stays as it is when the text did, the character
may follow it and there is room for the character.  The same characters can be
added to an admissible text, so the two notions agree.
-/

theorem append_eq_concat_iff (hlength : buffer.length ≤ x.length) :
    append buffer [c] = x ++ [c] <-> buffer = x ∧ x.length < capacity := by
  constructor
  · intro h
    have hcut : (x ++ [c]).length = min capacity (buffer ++ [c]).length := by
      rw [← h, append, List.length_take]
    rw [List.length_append, List.length_append, List.length_singleton] at hcut
    have hshort : buffer.length < capacity := by omega
    rw [append_eq_of_length_lt hshort] at h
    have hsame := List.append_cancel_right h
    rw [hsame] at hshort
    exact ⟨hsame, hshort⟩
  · rintro ⟨rfl, hshort⟩
    exact append_eq_of_length_lt hshort c

theorem pressAll_keysOf_concat_eq_iff (hx : IsTypable (x ++ [c])) :
    pressAll [] (keysOf (x ++ [c])) = x ++ [c] <->
      pressAll [] (keysOf x) = x ∧ Follows x c ∧ x.length < capacity := by
  have hc : isTypable c = true := hx c (by simp)
  -- The buffer is never longer than what was typed, so no character makes up for a lost one.
  have hlength := length_pressAll_keysOf_le (hx.sublist (List.sublist_append_left x [c]))
  rw [pressAll_keysOf_concat]
  by_cases hfollows : Follows (pressAll [] (keysOf x)) c
  · rw [press_of_follows hc hfollows]
    constructor
    · intro h
      rcases (append_eq_concat_iff hlength).mp h with ⟨hsame, hshort⟩
      rw [hsame] at hfollows
      exact ⟨hsame, hfollows, hshort⟩
    · rintro ⟨hsame, _, hshort⟩
      exact (append_eq_concat_iff hlength).mpr ⟨hsame, hshort⟩
  · constructor
    · intro h
      have hkept := length_le_of_not_follows hc hfollows
      rw [h, List.length_append, List.length_singleton] at hkept
      omega
    · rintro ⟨hsame, hallowed, _⟩
      rw [hsame] at hfollows
      exact absurd hallowed hfollows

theorem follows_iff :
    Follows x c <->
      (Operator.isSymbol c = true -> forall b, b ∈ x.getLast? -> Operator.isSymbol b = false) ∧
        (isPoint c = true -> forall b, b ∈ x.getLast? -> isPoint b = false) ∧
          (x = [] -> Operator.isSymbol c = true -> c = '-') := by
  simp only [Follows, endsWithOperator_eq_false_iff, endsWithPoint_eq_false_iff, isPoint,
    decide_eq_true_eq]
  constructor
  · rintro ⟨hsign, hpoint⟩
    exact ⟨fun hc => (hsign hc).1, hpoint, fun hnil hc => (hsign hc).2 hnil⟩
  · rintro ⟨hsign, hpoint, hopening⟩
    exact ⟨fun hc => ⟨hsign hc, fun hnil => hopening hnil hc⟩, hpoint⟩

theorem opening_iff (c : Char) :
    (Operator.isSymbol c = true -> c = '-') <-> some c ∉ [some '+', some '*', some '/'] := by
  constructor
  · intro h hmem
    have hsign : c = '+' ∨ c = '*' ∨ c = '/' := by
      simpa using hmem
    rcases hsign with rfl | rfl | rfl
    · cases h rfl
    · cases h rfl
    · cases h rfl
  · intro hother hsymbol
    rcases Option.isSome_iff_exists.mp hsymbol with ⟨o, ho⟩
    rw [← Operator.symbol_of_ofChar? ho] at hother ⊢
    cases o with
    | minus => rfl
    | plus => exact absurd (by decide) hother
    | times => exact absurd (by decide) hother
    | divide => exact absurd (by decide) hother

theorem isAdmissible_concat_iff :
    IsAdmissible (x ++ [c]) <-> IsAdmissible x ∧ Follows x c ∧ x.length < capacity := by
  rw [follows_iff]
  constructor
  · intro h
    have hfits := h.fits
    have hopening := h.opening
    rw [List.length_append, List.length_singleton] at hfits
    rcases standApart_concat.mp h.signs with ⟨hsigns, hsign⟩
    rcases standApart_concat.mp h.points with ⟨hpoints, hpoint⟩
    cases x with
    | nil =>
        have hminus := (opening_iff c).mpr hopening
        exact ⟨isAdmissible_nil, ⟨hsign, hpoint, fun _ => hminus⟩, hfits⟩
    | cons b rest =>
        refine ⟨⟨⟨hsigns, hpoints⟩, Nat.le_of_lt hfits, hopening⟩, ⟨hsign, hpoint, ?_⟩, hfits⟩
        intro hnil
        cases hnil
  · rintro ⟨hx, ⟨hsign, hpoint, hopening⟩, hshort⟩
    refine ⟨⟨hx.signs.concat hsign, hx.points.concat hpoint⟩, ?_, ?_⟩
    · rw [List.length_append]
      exact hshort
    · cases x with
      | nil => exact (opening_iff c).mp (hopening rfl)
      | cons b rest => exact hx.opening

/-- The texts that stay as they are typed are the admissible ones. -/
theorem pressAll_keysOf_eq_iff (hx : IsTypable x) :
    pressAll [] (keysOf x) = x <-> IsAdmissible x := by
  induction x using List.reverseRecOn with
  | nil => exact ⟨fun _ => isAdmissible_nil, fun _ => rfl⟩
  | append_singleton x c ih =>
      rw [pressAll_keysOf_concat_eq_iff hx, isAdmissible_concat_iff,
        ih (hx.sublist (List.sublist_append_left x [c]))]

end Entry

end PocketCalculator
