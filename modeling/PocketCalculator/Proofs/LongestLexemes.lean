import PocketCalculator.Proofs.LongestRuns

/-!
# Longest lexemes

## Lexemes

A lexeme is a sign or a complete literal.  Lexemes are taken from the front of a
text, each as long as possible, until none stands there.
-/

namespace PocketCalculator

namespace Text

inductive IsLexeme : Text -> Prop where
  | operator (o : Operator) : IsLexeme [o.symbol]
  | literal {l : Literal} : l.IsWellFormed -> IsLexeme l.text

/-- The lexemes at the front of a text, each the longest, and what is left of the text. -/
inductive Munches : Text -> List Text -> Text -> Prop where
  | stop {t : Text} : (forall w, IsLexeme w -> ¬ w <+: t) -> Munches t [] t
  | step {w t rest : Text} {lexemes : List Text} :
      IsLongest IsLexeme w (w ++ t) -> Munches t lexemes rest ->
      Munches (w ++ t) (w :: lexemes) rest

theorem Munches.flatten {t rest : Text} {lexemes : List Text} (h : Munches t lexemes rest) :
    lexemes.flatten ++ rest = t := by
  induction h with
  | stop hnone => rfl
  | step hw hrest ih => rw [List.flatten_cons, List.append_assoc, ih]

theorem Munches.unique {t r s : Text} {lexemes others : List Text} (h : Munches t lexemes r)
    (hother : Munches t others s) : others = lexemes ∧ s = r := by
  induction h generalizing others s with
  | stop hnone =>
      cases hother with
      | stop _ => exact ⟨rfl, rfl⟩
      | step hv _ => exact absurd (List.prefix_append _ _) (hnone _ hv.holds)
  | @step w t rest lexemes hw hrest ih =>
      generalize hwhole : w ++ t = whole at hother
      cases hother with
      | stop hnone =>
          rw [← hwhole] at hnone
          exact absurd (List.prefix_append _ _) (hnone _ hw.holds)
      | @step v u _ others hv hothers =>
          rw [hwhole] at hw
          have hsame : v = w := hv.unique hw
          subst hsame
          have hrests : t = u := List.append_cancel_left hwhole
          subst hrests
          rcases ih hothers with ⟨rfl, rfl⟩
          exact ⟨rfl, rfl⟩

end Text

/-!
## Literals at the front of a text

The literal that is cut from a text is at least as long as every complete literal
at its front, and complete when one of them has an exponent.
-/

namespace Literal

section Front

variable {k : Literal} (hk : k.IsWellFormed) {t : Text} (hfront : k.text <+: t)

include hk hfront

theorem mantissaText_front : k.mantissaText <+: (split t).1.mantissaText := by
  have hlongest := isLongest_mantissaText t
  have hrun := isMantissaRun_mantissaText hk.whole hk.fraction
  have hmantissa : k.mantissaText <+: t := (List.prefix_append _ _).trans hfront
  exact List.prefix_of_prefix_length_le hmantissa hlongest.front
    (hlongest.longest _ hrun hmantissa)

theorem isComplete_of_exponent_front {e : Exponent} (he : k.exponent = some e) :
    (split t).1.isComplete = true ∧ k.text <+: (split t).1.text := by
  rcases hfront with ⟨rest, rfl⟩
  rcases split_continued hk he rest with ⟨hwell, hsplit⟩
  rw [hsplit]
  refine ⟨isComplete_of_isWellFormed hwell, ?_⟩
  rw [extend_text he]
  exact List.prefix_append _ _

theorem text_front : k.text <+: (split t).1.text := by
  cases hexponent : k.exponent with
  | none =>
      have hmantissa := mantissaText_front hk hfront
      rw [text, exponentText_of_none hexponent, List.append_nil]
      exact hmantissa.trans (List.prefix_append _ _)
  | some e => exact (isComplete_of_exponent_front hk hfront hexponent).2

end Front

theorem not_isDigit_of_mem_mantissaText {l : Literal} (h : l.whole ++ l.fraction.getD [] = [])
    {c : Char} (hc : c ∈ l.mantissaText) : c.isDigit = false := by
  rcases List.append_eq_nil_iff.mp h with ⟨hwhole, hfraction⟩
  rw [mantissaText, hwhole] at hc
  cases hkind : l.fraction with
  | none =>
      rw [hkind] at hc
      cases hc
  | some f =>
      rw [hkind] at hc hfraction
      change f = [] at hfraction
      rw [hfraction] at hc
      rw [List.mem_singleton.mp hc]
      decide

theorem exists_isDigit_mem_mantissaText {l : Literal} (h : l.IsWellFormed) :
    exists c, c ∈ l.mantissaText ∧ c.isDigit = true := by
  rcases List.exists_mem_of_ne_nil _ h.nonempty with ⟨c, hc⟩
  rcases List.mem_append.mp hc with hc | hc
  · exact ⟨c, List.mem_append_left _ hc, h.whole c hc⟩
  · refine ⟨c, List.mem_append_right _ ?_, h.fraction c hc⟩
    cases hkind : l.fraction with
    | none =>
        rw [hkind] at hc
        cases hc
    | some f =>
        rw [hkind] at hc
        exact List.mem_cons_of_mem '.' hc

theorem lacks_of_isComplete {l : Literal} (h : l.isComplete = false) :
    l.whole ++ l.fraction.getD [] = [] ∨
      (l.whole ++ l.fraction.getD [] ≠ [] ∧ exists e, l.exponent = some e ∧ e.digits = []) := by
  by_cases hdigits : l.whole ++ l.fraction.getD [] = []
  · exact .inl hdigits
  · refine .inr ⟨hdigits, ?_⟩
    cases hexponent : l.exponent with
    | none => simp [isComplete, hexponent, hdigits] at h
    | some e =>
        refine ⟨e, rfl, ?_⟩
        simpa [isComplete, hexponent, hdigits] using h

end Literal

/-!
## Where the longest lexeme ends
-/

namespace Text

theorem IsLexeme.exists_cons {w : Text} (h : IsLexeme w) :
    exists c rest, w = c :: rest ∧ (Operator.isSymbol c = true ∨ Literal.opens c = true) := by
  cases h with
  | operator o => exact ⟨o.symbol, [], rfl, .inl (Entry.isSymbol_symbol o)⟩
  | literal hl =>
      rcases Literal.exists_cons_text hl with ⟨c, rest, htext, hopens⟩
      exact ⟨c, rest, htext, .inr hopens⟩

theorem not_front_of_nil {w : Text} (h : IsLexeme w) : ¬ w <+: [] := by
  intro hfront
  rcases h.exists_cons with ⟨c, rest, rfl, _⟩
  cases List.prefix_nil.mp hfront

theorem not_front_of_unexpected {c : Char} (hsign : Operator.ofChar? c = none)
    (hopens : Literal.opens c = false) (after : Text) :
    forall w, IsLexeme w -> ¬ w <+: c :: after := by
  intro w hw hfront
  rcases hw.exists_cons with ⟨d, rest, rfl, hbegins⟩
  have hsame : d = c := (List.cons_prefix_cons.mp hfront).1
  rw [hsame, Operator.isSymbol, hsign, hopens] at hbegins
  rcases hbegins with hfalse | hfalse
  · cases hfalse
  · cases hfalse

theorem symbol_ne_of_opens {c : Char} (h : Literal.opens c = true) (o : Operator) :
    o.symbol ≠ c := by
  intro hsame
  have hnone := Literal.ofChar?_of_opens h
  rw [← hsame, Operator.ofChar?_symbol] at hnone
  cases hnone

theorem exists_literal_of_front {c : Char} (hopens : Literal.opens c = true) {after w : Text}
    (hw : IsLexeme w) (hfront : w <+: c :: after) :
    exists l : Literal, l.IsWellFormed ∧ l.text = w := by
  cases hw with
  | operator o =>
      have hsame : o.symbol = c := (List.cons_prefix_cons.mp hfront).1
      exact absurd hsame (symbol_ne_of_opens hopens o)
  | literal hl => exact ⟨_, hl, rfl⟩

theorem isLongest_operator (o : Operator) (after : Text) :
    IsLongest IsLexeme [o.symbol] ([o.symbol] ++ after) := by
  refine ⟨.operator o, List.prefix_append _ _, ?_⟩
  intro v hv hfront
  cases hv with
  | operator _ => exact Nat.le_refl 1
  | literal hl =>
      rcases Literal.exists_cons_text hl with ⟨c, rest, htext, hopens⟩
      rw [htext] at hfront
      have hsame : c = o.symbol := (List.cons_prefix_cons.mp hfront).1
      exact absurd hsame.symm (symbol_ne_of_opens hopens o)

theorem isLongest_literal {l : Literal} (h : l.IsWellFormed) {after : Text}
    (hsplit : Literal.split (l.text ++ after) = (l, after)) :
    IsLongest IsLexeme l.text (l.text ++ after) := by
  refine ⟨.literal h, List.prefix_append _ _, ?_⟩
  intro v hv hfront
  rcases Literal.exists_cons_text h with ⟨c, rest, htext, hopens⟩
  have hcons : l.text ++ after = c :: (rest ++ after) := by
    rw [htext, List.cons_append]
  rcases exists_literal_of_front hopens hv (hcons ▸ hfront) with ⟨k, hk, rfl⟩
  have hlength := (Literal.text_front hk hfront).length_le
  rwa [hsplit] at hlength

theorem not_front_of_isMarker {c : Char} (h : Exponent.isMarker c = true) (after : Text) :
    forall w, IsLexeme w -> ¬ w <+: c :: after := by
  rcases Exponent.eq_of_isMarker h with rfl | rfl
  · exact not_front_of_unexpected rfl (by decide) after
  · exact not_front_of_unexpected rfl (by decide) after

theorem isLongest_mantissa {c : Char} (hopens : Literal.opens c = true) {after : Text}
    (h : (Literal.split (c :: after)).1.isComplete = false)
    (hdigits : (Literal.split (c :: after)).1.whole ++
      (Literal.split (c :: after)).1.fraction.getD [] ≠ []) :
    IsLongest IsLexeme (Literal.split (c :: after)).1.mantissaText (c :: after) := by
  have hrun := Literal.isLongest_mantissaText (c :: after)
  refine ⟨?_, hrun.front, ?_⟩
  · have hwell : Literal.IsWellFormed ⟨(Literal.split (c :: after)).1.whole,
        (Literal.split (c :: after)).1.fraction, none⟩ :=
      Literal.isWellFormed_of_digits (fun d hd => List.mem_takeWhile_imp hd)
        (Literal.fraction_isDigit_of_splitFraction _) hdigits
    have hlexeme := IsLexeme.literal hwell
    rwa [Literal.text, Literal.exponentText_of_none rfl, List.append_nil] at hlexeme
  · intro v hv hfront
    rcases exists_literal_of_front hopens hv hfront with ⟨k, hk, rfl⟩
    cases hexponent : k.exponent with
    | none =>
        have hmantissa := (Literal.mantissaText_front hk hfront).length_le
        rwa [Literal.text, Literal.exponentText_of_none hexponent, List.append_nil]
    | some e =>
        have hcomplete := (Literal.isComplete_of_exponent_front hk hfront hexponent).1
        rw [h] at hcomplete
        cases hcomplete

theorem exists_munches_of_incomplete {c : Char} (hopens : Literal.opens c = true) {after : Text}
    (h : (Literal.split (c :: after)).1.isComplete = false) :
    exists lexemes rest, Munches (c :: after) lexemes rest ∧ rest ≠ [] := by
  rcases Literal.lacks_of_isComplete h with hdigits | ⟨hdigits, e, he, _⟩
  · -- Without a digit in the mantissa there is no literal at the front.
    refine ⟨[], c :: after, .stop ?_, List.cons_ne_nil c after⟩
    intro w hw hfront
    rcases exists_literal_of_front hopens hw hfront with ⟨k, hk, rfl⟩
    rcases Literal.exists_isDigit_mem_mantissaText hk with ⟨d, hd, hdigit⟩
    have hmem := (Literal.mantissaText_front hk hfront).subset hd
    rw [Literal.not_isDigit_of_mem_mantissaText hdigits hmem] at hdigit
    cases hdigit
  · -- Without a digit in the exponent the longest literal ends before the marker.
    have hlongest := isLongest_mantissa hopens h hdigits
    have hparts := Literal.mantissaText_append_afterMantissa (c :: after)
    have hafter := Exponent.split_append (Literal.afterMantissa (c :: after))
    have hmarker := (Exponent.isBegun_of_split he).marker
    rw [← Literal.exponent_split, he] at hafter
    generalize (Literal.split (c :: after)).1.mantissaText = mantissa at hlongest hparts
    rw [← hparts] at hlongest ⊢
    refine ⟨_, _, .step hlongest (.stop ?_), ?_⟩
    · rw [← hafter]
      exact not_front_of_isMarker hmarker _
    · rw [← hafter]
      exact List.cons_ne_nil _ _

end Text

end PocketCalculator
