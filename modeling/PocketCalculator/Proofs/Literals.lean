import Mathlib.Data.List.TakeWhile
import PocketCalculator.Operator
import PocketCalculator.Proofs.Reading

/-!
# Literals

## Complete literals

A complete literal has a digit before its exponent and a digit in its exponent,
if it has one.  Such a literal is split off the front of a text unchanged when
the rest of the text does not go on with a digit, a point or a marker.
-/

namespace PocketCalculator

theorem takeWhile_append_of_head? {p : Char -> Bool} {front rest : Text}
    (hfront : forall c, c ∈ front -> p c = true)
    (hrest : forall c, c ∈ rest.head? -> p c = false) :
    (front ++ rest).takeWhile p = front := by
  rw [List.takeWhile_append_of_pos hfront]
  cases rest with
  | nil => simp
  | cons c rest => simp [hrest c rfl]

theorem dropWhile_append_of_head? {p : Char -> Bool} {front rest : Text}
    (hfront : forall c, c ∈ front -> p c = true)
    (hrest : forall c, c ∈ rest.head? -> p c = false) :
    (front ++ rest).dropWhile p = rest := by
  rw [List.dropWhile_append_of_pos hfront]
  cases rest with
  | nil => simp
  | cons c rest => simp [hrest c rfl]

theorem head?_dropWhile_isDigit (t : Text) :
    forall c, c ∈ (t.dropWhile Char.isDigit).head? -> c.isDigit = false := by
  intro c hc
  have hnot := List.head?_dropWhile_not Char.isDigit t
  rw [Option.mem_def.mp hc] at hnot
  simpa using hnot

theorem Text.toNat_bounds_of_isDigit {c : Char} (h : c.isDigit = true) :
    '0'.toNat ≤ c.toNat ∧ c.toNat - '0'.toNat < 10 := by
  rw [Char.isDigit_iff_toNat] at h
  have hzero : '0'.toNat = 48 := rfl
  have hnine : '9'.toNat = 57 := rfl
  omega

theorem Exponent.eq_of_isMarker {c : Char} (h : isMarker c = true) : c = 'e' ∨ c = 'E' := by
  simpa [isMarker] using h

theorem Exponent.eq_of_isSign {c : Char} (h : isSign c = true) : c = '+' ∨ c = '-' := by
  simpa [isSign] using h

theorem not_isDigit_of_isMarker {c : Char} (h : Exponent.isMarker c = true) :
    c.isDigit = false := by
  rcases Exponent.eq_of_isMarker h with rfl | rfl
  · decide
  · decide

theorem not_isDigit_of_isSign {c : Char} (h : Exponent.isSign c = true) :
    c.isDigit = false := by
  rcases Exponent.eq_of_isSign h with rfl | rfl
  · decide
  · decide

theorem not_isSign_of_isDigit {c : Char} (h : c.isDigit = true) :
    Exponent.isSign c = false := by
  cases hsign : Exponent.isSign c with
  | false => rfl
  | true =>
      rw [not_isDigit_of_isSign hsign] at h
      cases h

namespace Exponent

structure IsWellFormed (x : Exponent) : Prop where
  marker : isMarker x.marker = true
  sign : forall c, c ∈ x.sign -> isSign c = true
  digits : forall c, c ∈ x.digits -> c.isDigit = true
  nonempty : x.digits ≠ []

theorem splitSign_append_digits {sign : Option Char} {digits : Text}
    (hsign : forall c, c ∈ sign -> isSign c = true)
    (hdigits : forall c, c ∈ digits -> c.isDigit = true) (hne : digits ≠ [])
    (rest : Text) :
    splitSign (sign.toList ++ (digits ++ rest)) = (sign, digits ++ rest) := by
  cases sign with
  | some c => simp [splitSign, hsign c rfl]
  | none =>
      cases digits with
      | nil => exact absurd rfl hne
      | cons d digits =>
          have hfirst : isSign d = false :=
            not_isSign_of_isDigit (hdigits d (List.mem_cons_self ..))
          simp [splitSign, hfirst]

theorem split_text_append {x : Exponent} (h : x.IsWellFormed) {rest : Text}
    (hrest : forall c, c ∈ rest.head? -> c.isDigit = false) :
    split (x.text ++ rest) = (some x, rest) := by
  have hsign := splitSign_append_digits h.sign h.digits h.nonempty rest
  have hwhole : x.text ++ rest = x.marker :: (x.sign.toList ++ (x.digits ++ rest)) := by
    simp [text]
  rw [hwhole, split, if_pos h.marker, hsign]
  simp only [takeWhile_append_of_head? h.digits hrest,
    dropWhile_append_of_head? h.digits hrest]

theorem split_of_head {rest : Text}
    (hrest : forall c, c ∈ rest.head? -> isMarker c = false) :
    split rest = (none, rest) := by
  cases rest with
  | nil => rfl
  | cons c rest => simp [split, hrest c rfl]

theorem isSign_of_splitSign {t : Text} {s : Char} (h : (splitSign t).1 = some s) :
    isSign s = true := by
  cases t with
  | nil => cases h
  | cons c rest =>
      by_cases hsign : isSign c = true
      · rw [splitSign, if_pos hsign] at h
        cases h
        exact hsign
      · rw [splitSign, if_neg hsign] at h
        cases h

structure IsBegun (x : Exponent) : Prop where
  marker : isMarker x.marker = true
  sign : forall c, c ∈ x.sign -> isSign c = true
  digits : forall c, c ∈ x.digits -> c.isDigit = true

theorem isBegun_of_split {t : Text} {x : Exponent} (h : (split t).1 = some x) : x.IsBegun := by
  cases t with
  | nil => cases h
  | cons c rest =>
      by_cases hmarker : isMarker c = true
      · simp only [split, if_pos hmarker] at h
        cases h
        refine ⟨hmarker, fun s hs => isSign_of_splitSign hs, ?_⟩
        intro d hd
        exact List.mem_takeWhile_imp hd
      · simp only [split, if_neg hmarker] at h
        cases h

theorem IsBegun.isWellFormed {x : Exponent} (h : x.IsBegun) (hne : x.digits ≠ []) :
    x.IsWellFormed :=
  ⟨h.marker, h.sign, h.digits, hne⟩

end Exponent

namespace Literal

structure IsWellFormed (x : Literal) : Prop where
  whole : forall c, c ∈ x.whole -> c.isDigit = true
  fraction : forall c, c ∈ x.fraction.getD [] -> c.isDigit = true
  nonempty : x.whole ++ x.fraction.getD [] ≠ []
  exponent : forall e, e ∈ x.exponent -> e.IsWellFormed

theorem isWellFormed_of_digits {whole : Text} {fraction : Option Text}
    (hwhole : forall c, c ∈ whole -> c.isDigit = true)
    (hfraction : forall c, c ∈ fraction.getD [] -> c.isDigit = true)
    (hne : whole ++ fraction.getD [] ≠ []) : IsWellFormed ⟨whole, fraction, none⟩ := by
  refine ⟨hwhole, hfraction, hne, ?_⟩
  intro e he
  cases he

def continues (c : Char) : Bool :=
  c.isDigit || c = '.' || Exponent.isMarker c

/-- Whether a text cannot go on a literal before it. -/
def Closes (rest : Text) : Prop :=
  forall c, c ∈ rest.head? -> continues c = false

theorem closes_nil : Closes [] := by
  intro c hc
  cases hc

theorem closes_symbol (o : Operator) (rest : Text) : Closes (o.symbol :: rest) := by
  intro c hc
  cases hc
  cases o <;> decide

theorem Closes.not_isDigit {rest : Text} (h : Closes rest) :
    forall c, c ∈ rest.head? -> c.isDigit = false := by
  intro c hc
  have hcontinues := h c hc
  simp only [continues, Bool.or_eq_false_iff] at hcontinues
  exact hcontinues.1.1

theorem Closes.ne_point {rest : Text} (h : Closes rest) :
    forall c, c ∈ rest.head? -> c ≠ '.' := by
  intro c hc hpoint
  have hcontinues := h c hc
  rw [hpoint] at hcontinues
  exact absurd hcontinues (by decide)

theorem Closes.not_isMarker {rest : Text} (h : Closes rest) :
    forall c, c ∈ rest.head? -> Exponent.isMarker c = false := by
  intro c hc
  have hcontinues := h c hc
  simp only [continues, Bool.or_eq_false_iff] at hcontinues
  exact hcontinues.2

theorem exponentText_of_none {x : Literal} (h : x.exponent = none) : x.exponentText = [] := by
  rw [exponentText, h]
  rfl

theorem exponentText_of_some {x : Literal} {e : Exponent} (h : x.exponent = some e) :
    x.exponentText = e.text := by
  rw [exponentText, h]
  rfl

theorem split_exponentText_append {x : Literal} (h : x.IsWellFormed) {rest : Text}
    (hrest : Closes rest) :
    Exponent.split (x.exponentText ++ rest) = (x.exponent, rest) := by
  cases hexponent : x.exponent with
  | none =>
      rw [exponentText_of_none hexponent, List.nil_append]
      exact Exponent.split_of_head hrest.not_isMarker
  | some e =>
      rw [exponentText_of_some hexponent]
      exact Exponent.split_text_append (h.exponent e hexponent) hrest.not_isDigit

theorem head?_exponent_append {e : Exponent} (h : e.IsWellFormed) (rest : Text) :
    forall c, c ∈ (e.text ++ rest).head? -> c.isDigit = false ∧ c ≠ '.' := by
  intro c hc
  cases hc
  refine ⟨not_isDigit_of_isMarker h.marker, ?_⟩
  intro hpoint
  have hmarker := h.marker
  rw [hpoint] at hmarker
  exact absurd hmarker (by decide)

theorem head?_exponentText_append {x : Literal} (h : x.IsWellFormed) {rest : Text}
    (hrest : Closes rest) :
    forall c, c ∈ (x.exponentText ++ rest).head? -> c.isDigit = false ∧ c ≠ '.' := by
  cases hexponent : x.exponent with
  | none =>
      rw [exponentText_of_none hexponent, List.nil_append]
      intro c hc
      exact ⟨hrest.not_isDigit c hc, hrest.ne_point c hc⟩
  | some e =>
      rw [exponentText_of_some hexponent]
      exact head?_exponent_append (h.exponent e hexponent) rest

theorem split_append_whole {whole after : Text}
    (hwhole : forall c, c ∈ whole -> c.isDigit = true)
    (hafter : forall c, c ∈ after.head? -> c.isDigit = false ∧ c ≠ '.') :
    split (whole ++ after) =
      (⟨whole, none, (Exponent.split after).1⟩, (Exponent.split after).2) := by
  have hdigits : forall c, c ∈ after.head? -> c.isDigit = false :=
    fun c hc => (hafter c hc).1
  have hfraction : splitFraction after = (none, after) := by
    cases after with
    | nil => rfl
    | cons c after => simp [splitFraction, (hafter c rfl).2]
  simp only [split, takeWhile_append_of_head? hwhole hdigits,
    dropWhile_append_of_head? hwhole hdigits, hfraction]

theorem split_append_point {whole fraction after : Text}
    (hwhole : forall c, c ∈ whole -> c.isDigit = true)
    (hfraction : forall c, c ∈ fraction -> c.isDigit = true)
    (hafter : forall c, c ∈ after.head? -> c.isDigit = false) :
    split (whole ++ '.' :: (fraction ++ after)) =
      (⟨whole, some fraction, (Exponent.split after).1⟩, (Exponent.split after).2) := by
  have hpoint : forall c, c ∈ ('.' :: (fraction ++ after)).head? -> c.isDigit = false := by
    intro c hc
    cases hc
    decide
  have hsplit : splitFraction ('.' :: (fraction ++ after)) = (some fraction, after) := by
    simp [splitFraction, takeWhile_append_of_head? hfraction hafter,
      dropWhile_append_of_head? hfraction hafter]
  simp only [split, takeWhile_append_of_head? hwhole hpoint,
    dropWhile_append_of_head? hwhole hpoint, hsplit]

theorem split_text_append_of_split {x : Literal} (h : x.IsWellFormed) {rest : Text}
    (hexponent : Exponent.split (x.exponentText ++ rest) = (x.exponent, rest))
    (hafter : forall c, c ∈ (x.exponentText ++ rest).head? -> c.isDigit = false ∧ c ≠ '.') :
    split (x.text ++ rest) = (x, rest) := by
  rw [text, List.append_assoc]
  cases x with
  | mk whole fraction exponent =>
      generalize exponentText ⟨whole, fraction, exponent⟩ ++ rest = after
        at hexponent hafter ⊢
      cases fraction with
      | none =>
          have hwhole : mantissaText ⟨whole, none, exponent⟩ ++ after = whole ++ after := by
            simp [mantissaText]
          rw [hwhole, split_append_whole h.whole hafter, hexponent]
      | some fraction =>
          have hwhole : mantissaText ⟨whole, some fraction, exponent⟩ ++ after =
              whole ++ '.' :: (fraction ++ after) := by
            simp [mantissaText]
          have hfraction : forall c, c ∈ fraction -> c.isDigit = true := h.fraction
          rw [hwhole, split_append_point h.whole hfraction fun c hc => (hafter c hc).1,
            hexponent]

theorem split_text_append {x : Literal} (h : x.IsWellFormed) {rest : Text}
    (hrest : Closes rest) : split (x.text ++ rest) = (x, rest) :=
  split_text_append_of_split h (split_exponentText_append h hrest)
    (head?_exponentText_append h hrest)

theorem IsWellFormed.eq_of_text {l k : Literal} (hl : l.IsWellFormed) (hk : k.IsWellFormed)
    (h : l.text = k.text) : l = k := by
  have hleft := split_text_append hl closes_nil
  have hright := split_text_append hk closes_nil
  rw [h] at hleft
  exact congrArg Prod.fst (hleft.symm.trans hright)

/-- An exponent is closed by anything but a digit. -/
theorem split_text_append_of_exponent {x : Literal} (h : x.IsWellFormed) {e : Exponent}
    (he : x.exponent = some e) {rest : Text}
    (hrest : forall c, c ∈ rest.head? -> c.isDigit = false) :
    split (x.text ++ rest) = (x, rest) := by
  have hwell := h.exponent e he
  apply split_text_append_of_split h
  · rw [exponentText_of_some he, he]
    exact Exponent.split_text_append hwell hrest
  · rw [exponentText_of_some he]
    exact head?_exponent_append hwell rest

/-!
## What is complete

The literal that is split off a text is well formed when it is complete, and a
well-formed literal has a value.
-/

theorem fraction_isDigit_of_splitFraction (t : Text) :
    forall c, c ∈ (splitFraction t).1.getD [] -> c.isDigit = true := by
  intro d hd
  cases t with
  | nil => cases hd
  | cons c rest =>
      by_cases hpoint : c = '.'
      · rw [splitFraction, if_pos hpoint] at hd
        exact List.mem_takeWhile_imp hd
      · rw [splitFraction, if_neg hpoint] at hd
        cases hd

theorem isWellFormed_of_isComplete {t : Text} (h : (split t).1.isComplete = true) :
    (split t).1.IsWellFormed := by
  rw [isComplete, Bool.and_eq_true] at h
  rcases h with ⟨hmantissa, hexponent⟩
  constructor
  · intro c hc
    exact List.mem_takeWhile_imp hc
  · exact fraction_isDigit_of_splitFraction _
  · intro hnil
    rw [hnil] at hmantissa
    cases hmantissa
  · intro e he
    have hsplit : (Exponent.split (splitFraction (t.dropWhile Char.isDigit)).2).1 = some e := he
    apply (Exponent.isBegun_of_split hsplit).isWellFormed
    intro hnil
    rw [Option.all_eq_true] at hexponent
    have hdigits := hexponent e he
    rw [hnil] at hdigits
    cases hdigits

theorem isComplete_of_isWellFormed {x : Literal} (h : x.IsWellFormed) :
    x.isComplete = true := by
  rw [isComplete, Bool.and_eq_true, Option.all_eq_true]
  constructor
  · simpa using h.nonempty
  · intro e he
    simpa using (h.exponent e he).nonempty

theorem isComplete_of_value? {l : Literal} {x : Binary64} (h : l.value? = some x) :
    l.isComplete = true := by
  by_contra hincomplete
  rw [value?, if_neg hincomplete] at h
  cases h

theorem value?_eq_none_iff {l : Literal} : l.value? = none <-> l.isComplete = false := by
  cases hcomplete : l.isComplete with
  | false => simp [value?, hcomplete]
  | true => simp [value?, hcomplete]

theorem opens_of_isDigit {c : Char} (h : c.isDigit = true) : opens c = true := by
  rw [opens, h, Bool.true_or]

theorem opens_of_mem_mantissaText {x : Literal} (h : x.IsWellFormed) {c : Char}
    (hc : c ∈ x.mantissaText) : opens c = true := by
  have hfraction := h.fraction
  rcases List.mem_append.mp hc with hc | hc
  · exact opens_of_isDigit (h.whole c hc)
  · cases hkind : x.fraction with
    | none =>
        rw [hkind] at hc
        cases hc
    | some fraction =>
        rw [hkind] at hc hfraction
        cases hc with
        | head => decide
        | tail _ hc => exact opens_of_isDigit (hfraction c hc)

theorem exists_cons_text {x : Literal} (h : x.IsWellFormed) :
    exists c rest, x.text = c :: rest ∧ opens c = true := by
  have hne := h.nonempty
  have hwhole := h.whole
  cases x with
  | mk whole fraction exponent =>
      cases whole with
      | cons c whole =>
          refine ⟨c, _, rfl, ?_⟩
          rw [opens, hwhole c (List.mem_cons_self ..), Bool.true_or]
      | nil =>
          cases fraction with
          | none => exact absurd rfl hne
          | some fraction => exact ⟨'.', _, rfl, by decide⟩

end Literal

end PocketCalculator
