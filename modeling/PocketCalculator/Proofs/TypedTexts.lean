import PocketCalculator.Proofs.PadKeys
import PocketCalculator.Proofs.Refusals

/-!
# Reading typed texts

## Operators that stand apart

Where no two signs are neighbours in a text, no two operators are among its
tokens.
-/

namespace PocketCalculator

namespace Token

theorem Spells.standApart {tokens : List Token} {t : Text} (h : Spells tokens t)
    (hapart : StandApart Operator.isSymbol t) : StandApart isOperator tokens := by
  induction h with
  | nil => exact standApart_nil
  | @operator tokens t o hrest ih =>
      rcases standApart_cons.mp hapart with ⟨hnext, htail⟩
      refine standApart_cons.mpr ⟨?_, ih htail⟩
      rintro b hb ⟨_, hoperator⟩
      cases hrest with
      | nil => cases hb
      | number hleaf hrest =>
          cases hb
          cases hoperator
      | operator p hrest =>
          exact hnext p.symbol rfl ⟨Entry.isSymbol_symbol o, Entry.isSymbol_symbol p⟩
  | number hleaf hrest ih =>
      refine standApart_cons.mpr ⟨?_, ih (standApart_append.mp hapart).2.1⟩
      rintro b _ ⟨hoperator, _⟩
      cases hoperator

theorem standApart_of_read {s : Text} {tokens : List Token} (h : read s = .ok tokens)
    (hapart : StandApart Operator.isSymbol (Text.strip s)) : StandApart isOperator tokens := by
  rcases spells_of_readOnto h with ⟨added, rfl, hspells⟩
  exact hspells.standApart hapart

end Token

/-!
## Errors in typed texts

Typed characters have no marker among them, so the only thing that cannot be read
is a point without a digit.
-/

namespace Entry

theorem isTypable_of_isMarker {c : Char} (h : Exponent.isMarker c = true) :
    isTypable c = false := by
  rcases Exponent.eq_of_isMarker h with rfl | rfl
  · decide
  · decide

theorem isTypable_of_opens {c : Char} (h : Literal.opens c = true) : isTypable c = true := by
  rw [isTypable, h, Bool.true_or]

theorem isBlank_of_isTypable {c : Char} (h : isTypable c = true) : Text.isBlank c = false := by
  cases hopens : Literal.opens c with
  | true => exact Literal.isBlank_of_opens hopens
  | false =>
      have hsymbol : Operator.isSymbol c = true := by
        simpa [isTypable, hopens] using h
      rcases Option.isSome_iff_exists.mp hsymbol with ⟨o, ho⟩
      rw [← Operator.symbol_of_ofChar? ho]
      cases o <;> decide

def IsTypable (t : Text) : Prop :=
  forall c, c ∈ t -> isTypable c = true

theorem isTypable_nil : IsTypable [] := by
  intro c hc
  cases hc

theorem IsTypable.append {s t : Text} (hs : IsTypable s) (ht : IsTypable t) :
    IsTypable (s ++ t) := by
  intro c hc
  rcases List.mem_append.mp hc with hc | hc
  · exact hs c hc
  · exact ht c hc

theorem isTypable_singleton {c : Char} (h : isTypable c = true) : IsTypable [c] := by
  intro d hd
  rw [List.mem_singleton.mp hd]
  exact h

theorem IsTypable.sublist {s t : Text} (ht : IsTypable t) (h : s.Sublist t) : IsTypable s :=
  fun c hc => ht c (h.subset hc)

end Entry

namespace Literal

open Entry

theorem text_eq_point {t : Text} (ht : IsTypable t) (hne : (split t).1.text ≠ [])
    (h : (split t).1.isComplete = false) : (split t).1.text = ['.'] := by
  have hpart : IsTypable (split t).1.text := by
    intro c hc
    apply ht
    rw [← split_append t]
    exact List.mem_append_left _ hc
  have hexponent : (split t).1.exponent = none := by
    cases hkind : (split t).1.exponent with
    | none => rfl
    | some e =>
        have hmarker := (Exponent.isBegun_of_split hkind).marker
        have hmem : e.marker ∈ (split t).1.text := by
          apply List.mem_append_right
          rw [exponentText_of_some hkind]
          exact List.mem_cons_self ..
        have htyped := hpart e.marker hmem
        rw [isTypable_of_isMarker hmarker] at htyped
        cases htyped
  rw [isComplete, hexponent] at h
  have hnil : (split t).1.whole ++ (split t).1.fraction.getD [] = [] := by
    simpa using h
  rcases List.append_eq_nil_iff.mp hnil with ⟨hwhole, hfraction⟩
  rw [text, exponentText_of_none hexponent, mantissaText, hwhole] at hne ⊢
  cases hkind : (split t).1.fraction with
  | none =>
      rw [hkind] at hne
      exact absurd rfl hne
  | some fraction =>
      rw [hkind] at hfraction
      change fraction = [] at hfraction
      rw [hfraction]
      rfl

end Literal

namespace Token

open Entry

theorem cause_of_readOnto_typable {done : List Token} {t : Text} {cause : SyntaxError}
    (ht : IsTypable t) (h : readOnto done t = .error cause) :
    cause = .invalidNumber ['.'] := by
  induction done, t using readOnto.induct with
  | case1 done =>
      rw [readOnto] at h
      cases h
  | case2 done c rest o hsign ih =>
      rw [readOnto, hsign] at h
      exact ih (ht.sublist (List.sublist_cons_self c rest)) h
  | case3 done c rest hsign hopens x hvalue ih =>
      rw [readOnto, hsign] at h
      simp only [hopens, hvalue, dite_true] at h
      apply ih _ h
      apply ht.sublist
      have hparts := List.sublist_append_right (Literal.split (c :: rest)).1.text
        (Literal.split (c :: rest)).2
      rwa [Literal.split_append] at hparts
  | case4 done c rest hsign hopens hvalue =>
      rw [readOnto, hsign] at h
      simp only [hopens, hvalue, dite_true] at h
      cases h
      rw [Literal.text_eq_point ht]
      · intro hnil
        have hshorter : (Literal.split (c :: rest)).2.length < (c :: rest).length :=
          Literal.split_rest_length_lt hopens
        have hparts := Literal.split_append (c :: rest)
        rw [hnil, List.nil_append] at hparts
        rw [hparts] at hshorter
        exact Nat.lt_irrefl _ hshorter
      · exact Literal.value?_eq_none_iff.mp hvalue
  | case5 done c rest hsign hopens =>
      have htyped := ht c (List.mem_cons_self ..)
      simp [isTypable, Operator.isSymbol, hsign, hopens] at htyped

/-!
## Typing after a number

Digits typed after a literal with an exponent belong to its exponent.
-/

end Token

namespace Literal

/-- The literal with some more digits in its exponent. -/
def extend (l : Literal) (e : Exponent) (digits : Text) : Literal :=
  ⟨l.whole, l.fraction, some ⟨e.marker, e.sign, e.digits ++ digits⟩⟩

variable {l : Literal} {e : Exponent}

theorem extend_text (he : l.exponent = some e) (digits : Text) :
    (l.extend e digits).text = l.text ++ digits := by
  simp [extend, text, mantissaText, exponentText, he, Exponent.text]

theorem extend_isWellFormed (h : l.IsWellFormed) (he : l.exponent = some e) {digits : Text}
    (hdigits : forall c, c ∈ digits -> c.isDigit = true) :
    (l.extend e digits).IsWellFormed := by
  have hwell := h.exponent e he
  refine ⟨h.whole, h.fraction, h.nonempty, ?_⟩
  intro f hf
  cases hf
  refine ⟨hwell.marker, hwell.sign, ?_, ?_⟩
  · intro c hc
    rcases List.mem_append.mp hc with hc | hc
    · exact hwell.digits c hc
    · exact hdigits c hc
  · intro hnil
    exact hwell.nonempty (List.append_eq_nil_iff.mp hnil).1

theorem split_continued (h : l.IsWellFormed) (he : l.exponent = some e) (t : Text) :
    (l.extend e (t.takeWhile Char.isDigit)).IsWellFormed ∧
      split (l.text ++ t) =
        (l.extend e (t.takeWhile Char.isDigit), t.dropWhile Char.isDigit) := by
  have hdigits : forall c, c ∈ t.takeWhile Char.isDigit -> c.isDigit = true :=
    fun c hc => List.mem_takeWhile_imp hc
  have hwell := extend_isWellFormed h he hdigits
  have hsplit := split_text_append_of_exponent hwell rfl (head?_dropWhile_isDigit t)
  rw [extend_text he, List.append_assoc, List.takeWhile_append_dropWhile] at hsplit
  exact ⟨hwell, hsplit⟩

end Literal

namespace Token

open Entry

theorem readOnto_continued {l : Literal} (hl : l.IsWellFormed) {e : Exponent}
    (he : l.exponent = some e) (done : List Token) (t : Text) :
    readOnto done (l.text ++ t) =
      readOnto (.number (l.extend e (t.takeWhile Char.isDigit)).number :: done)
        (t.dropWhile Char.isDigit) := by
  rcases Literal.split_continued hl he t with ⟨hwell, hsplit⟩
  have htext : l.text ++ t =
      (l.extend e (t.takeWhile Char.isDigit)).text ++ t.dropWhile Char.isDigit := by
    rw [Literal.extend_text he, List.append_assoc, List.takeWhile_append_dropWhile]
  rw [htext] at hsplit ⊢
  exact readOnto_of_split hwell done hsplit

theorem cause_of_readOnto_continued {l : Literal} (hl : l.IsWellFormed) {t : Text}
    (ht : IsTypable t) {done : List Token} {cause : SyntaxError}
    (h : readOnto done (l.text ++ t) = .error cause) : cause = .invalidNumber ['.'] := by
  cases hexponent : l.exponent with
  | none =>
      have hmantissa : IsTypable l.text := by
        rw [Literal.text, Literal.exponentText_of_none hexponent, List.append_nil]
        intro c hc
        exact isTypable_of_opens (Literal.opens_of_mem_mantissaText hl hc)
      exact cause_of_readOnto_typable (hmantissa.append ht) h
  | some e =>
      -- The digits that come first extend the exponent; what comes after them is typed.
      rw [readOnto_continued hl hexponent] at h
      exact cause_of_readOnto_typable (ht.sublist (List.dropWhile_sublist _)) h

theorem cause_of_readOnto_signed {l : Literal} (hl : l.IsWellFormed) {t : Text}
    (ht : IsTypable t) {negative : Bool} {done : List Token} {cause : SyntaxError}
    (h : readOnto done (Text.signed negative l.text ++ t) = .error cause) :
    cause = .invalidNumber ['.'] := by
  cases negative with
  | false => exact cause_of_readOnto_continued hl ht h
  | true =>
      have hminus := readOnto_symbol done .minus (l.text ++ t)
      exact cause_of_readOnto_continued hl ht (hminus.symm.trans h)

end Token

end PocketCalculator
