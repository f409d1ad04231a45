import Mathlib.Data.List.Chain
import PocketCalculator.Proofs.Rereading

/-!
# Neighbours

## Elements that stand apart

Elements of one kind stand apart in a list when no two of them are neighbours.
-/

namespace PocketCalculator

/-- Whether no two neighbours in the list both satisfy the condition. -/
def StandApart {α : Type} (p : α -> Bool) (l : List α) : Prop :=
  forall a b, [a, b] <:+: l -> ¬ (p a = true ∧ p b = true)

section

variable {α : Type} {p : α -> Bool}

theorem standApart_iff_isChain {l : List α} :
    StandApart p l <-> l.IsChain fun a b => ¬ (p a = true ∧ p b = true) := by
  rw [List.isChain_iff_forall_rel_of_append_cons_cons]
  constructor
  · intro h a b before after hl
    apply h a b
    exact ⟨before, after, by simp [hl]⟩
  · rintro h a b ⟨before, after, hl⟩
    have hsplit : l = before ++ a :: b :: after := by
      simp [← hl]
    exact h hsplit

instance (l : List α) : Decidable (StandApart p l) :=
  decidable_of_iff _ standApart_iff_isChain.symm

@[simp] theorem standApart_nil : StandApart p [] :=
  standApart_iff_isChain.mpr List.isChain_nil

theorem standApart_append {s t : List α} :
    StandApart p (s ++ t) <->
      StandApart p s ∧ StandApart p t ∧
        forall a, a ∈ s.getLast? -> forall b, b ∈ t.head? -> ¬ (p a = true ∧ p b = true) := by
  simp only [standApart_iff_isChain, List.isChain_append]

theorem standApart_cons {a : α} {t : List α} :
    StandApart p (a :: t) <->
      (forall b, b ∈ t.head? -> ¬ (p a = true ∧ p b = true)) ∧ StandApart p t := by
  simp only [standApart_iff_isChain, List.isChain_cons]

theorem StandApart.take {l : List α} (h : StandApart p l) (n : Nat) :
    StandApart p (l.take n) :=
  standApart_iff_isChain.mpr ((standApart_iff_isChain.mp h).take n)

theorem standApart_of_none {l : List α} (h : forall a, a ∈ l -> p a = false) :
    StandApart p l := by
  rintro a b hpart ⟨ha, _⟩
  have hmem : a ∈ l := hpart.subset (List.mem_cons_self ..)
  rw [h a hmem] at ha
  cases ha

theorem standApart_of_one {s t : List α} {a : α} (hs : forall b, b ∈ s -> p b = false)
    (ht : forall b, b ∈ t -> p b = false) : StandApart p (s ++ a :: t) := by
  rw [standApart_append, standApart_cons]
  refine ⟨standApart_of_none hs, ⟨?_, standApart_of_none ht⟩, ?_⟩
  · rintro b hb ⟨_, hp⟩
    rw [ht b (List.mem_of_mem_head? hb)] at hp
    cases hp
  · rintro b hb c _ ⟨hp, _⟩
    rw [hs b (List.mem_of_mem_getLast? hb)] at hp
    cases hp

theorem standApart_singleton (a : α) : StandApart p [a] :=
  standApart_of_one (s := []) (t := []) (by simp) (by simp)

theorem standApart_concat {l : List α} {a : α} :
    StandApart p (l ++ [a]) <->
      StandApart p l ∧ (p a = true -> forall b, b ∈ l.getLast? -> p b = false) := by
  rw [standApart_append]
  constructor
  · rintro ⟨hl, _, hborder⟩
    refine ⟨hl, ?_⟩
    intro ha b hb
    cases hpb : p b with
    | false => rfl
    | true => exact absurd ⟨hpb, ha⟩ (hborder b hb a rfl)
  · rintro ⟨hl, ha⟩
    refine ⟨hl, standApart_singleton a, ?_⟩
    rintro b hb c hc ⟨hpb, hpc⟩
    cases hc
    rw [ha hpc b hb] at hpb
    cases hpb

theorem StandApart.concat {l : List α} {a : α} (h : StandApart p l)
    (ha : p a = true -> forall b, b ∈ l.getLast? -> p b = false) :
    StandApart p (l ++ [a]) :=
  standApart_concat.mpr ⟨h, ha⟩

theorem StandApart.replaceLast {l : List α} {a : α} (h : StandApart p l)
    (hlast : forall b, b ∈ l.getLast? -> p b = true) : StandApart p (l.dropLast ++ [a]) := by
  rcases List.eq_nil_or_concat l with rfl | ⟨front, b, rfl⟩
  · exact standApart_singleton a
  · rw [List.concat_eq_append] at h hlast ⊢
    rw [List.dropLast_concat]
    rw [standApart_concat] at h
    have hb : p b = true := hlast b (by simp)
    exact h.1.concat fun _ => h.2 hb

end

/-!
## Literals

A literal has at most one point, and no sign but in its exponent.
-/

def isPoint (c : Char) : Bool :=
  c = '.'

namespace Literal

theorem isSymbol_of_opens {c : Char} (h : opens c = true) : Operator.isSymbol c = false := by
  rw [Operator.isSymbol, ofChar?_of_opens h]
  rfl

theorem isPoint_of_isDigit {c : Char} (h : c.isDigit = true) : isPoint c = false := by
  unfold isPoint
  apply decide_eq_false
  rintro rfl
  exact absurd h (by decide)

theorem isSymbol_of_isMarker {c : Char} (h : Exponent.isMarker c = true) :
    Operator.isSymbol c = false := by
  rcases Exponent.eq_of_isMarker h with rfl | rfl
  · decide
  · decide

theorem isPoint_of_isMarker {c : Char} (h : Exponent.isMarker c = true) :
    isPoint c = false := by
  rcases Exponent.eq_of_isMarker h with rfl | rfl
  · decide
  · decide

theorem isPoint_of_isSign {c : Char} (h : Exponent.isSign c = true) : isPoint c = false := by
  rcases Exponent.eq_of_isSign h with rfl | rfl
  · decide
  · decide

theorem standApart_isSymbol {l : Literal} (h : l.IsWellFormed) :
    StandApart Operator.isSymbol l.text := by
  have hmantissa : forall c, c ∈ l.mantissaText -> Operator.isSymbol c = false :=
    fun c hc => isSymbol_of_opens (opens_of_mem_mantissaText h hc)
  cases hkind : l.exponent with
  | none =>
      rw [text, exponentText_of_none hkind, List.append_nil]
      exact standApart_of_none hmantissa
  | some e =>
      have he := h.exponent e hkind
      have hdigits : forall c, c ∈ e.digits -> Operator.isSymbol c = false :=
        fun c hc => isSymbol_of_opens (opens_of_isDigit (he.digits c hc))
      have hbefore : forall c, c ∈ l.mantissaText ++ [e.marker] ->
          Operator.isSymbol c = false := by
        intro c hc
        rcases List.mem_append.mp hc with hc | hc
        · exact hmantissa c hc
        · rw [List.mem_singleton.mp hc]
          exact isSymbol_of_isMarker he.marker
      rw [text, exponentText_of_some hkind, Exponent.text]
      -- The sign of the exponent is the only one, between a marker and a digit.
      cases e.sign with
      | none =>
          rw [Option.toList_none, ← List.append_assoc]
          apply standApart_of_none
          intro c hc
          rcases List.mem_append.mp hc with hc | hc
          · exact hbefore c hc
          · exact hdigits c hc
      | some s =>
          have hone := standApart_of_one (a := s) hbefore hdigits
          rwa [List.append_assoc, List.singleton_append] at hone

theorem isPoint_of_mem_exponentText {l : Literal} (h : l.IsWellFormed) {c : Char}
    (hc : c ∈ l.exponentText) : isPoint c = false := by
  cases hkind : l.exponent with
  | none =>
      rw [exponentText_of_none hkind] at hc
      cases hc
  | some e =>
      have he := h.exponent e hkind
      rw [exponentText_of_some hkind] at hc
      rcases List.mem_append.mp hc with hc | hc
      · cases hc with
        | head => exact isPoint_of_isMarker he.marker
        | tail _ hc => exact isPoint_of_isSign (he.sign c (Option.mem_toList.mp hc))
      · exact isPoint_of_isDigit (he.digits c hc)

theorem standApart_isPoint {l : Literal} (h : l.IsWellFormed) :
    StandApart isPoint l.text := by
  have hwhole : forall c, c ∈ l.whole -> isPoint c = false :=
    fun c hc => isPoint_of_isDigit (h.whole c hc)
  have hfraction := h.fraction
  unfold text mantissaText
  cases hkind : l.fraction with
  | none =>
      apply standApart_of_none
      intro c hc
      rw [Option.map_none, Option.getD_none, List.append_nil] at hc
      rcases List.mem_append.mp hc with hc | hc
      · exact hwhole c hc
      · exact isPoint_of_mem_exponentText h hc
  | some fraction =>
      rw [hkind] at hfraction
      have hone := standApart_of_one (a := '.') (t := fraction ++ l.exponentText) hwhole
      rw [Option.map_some, Option.getD_some, List.append_assoc, List.cons_append]
      apply hone
      intro c hc
      rcases List.mem_append.mp hc with hc | hc
      · exact isPoint_of_isDigit (hfraction c hc)
      · exact isPoint_of_mem_exponentText h hc

end Literal

/-!
## Answers

An answer is empty, a literal with or without a minus sign before it, or the text
of an error.
-/

theorem Binary64.exists_literal_display {v : Binary64} (h : v.isFinite = true) :
    exists (negative : Bool) (l : Literal),
      l.IsWellFormed ∧ v.display = Text.signed negative l.text := by
  rcases exists_zero_or_nonzero h with ⟨negative, rfl⟩ | ⟨negative, m, e, hcanonical, hm, rfl⟩
  · rcases readAs_zero with ⟨l, hl, htext, _⟩
    refine ⟨false, l, hl, ?_⟩
    rw [display_zero, ← htext]
    rfl
  · rcases readAs_layout_shortest hcanonical hm with ⟨l, hl, htext, _⟩
    refine ⟨negative, l, hl, ?_⟩
    rw [display_of_ne_zero negative hcanonical hm, htext]

theorem answer_cases (s : Text) :
    (Text.strip s = [] ∧ answer s = []) ∨
      (exists (negative : Bool) (l : Literal),
        l.IsWellFormed ∧ answer s = Text.signed negative l.text) ∨
        exists cause : EvaluationError, answer s = cause.display := by
  unfold answer
  cases houtcome : evaluate s with
  | blank => exact .inl ⟨Evaluation.strip_of_blank houtcome, rfl⟩
  | number x =>
      have hfinite := Evaluation.isFinite_of_evaluate houtcome
      exact .inr (.inl (Binary64.exists_literal_display hfinite))
  | refused cause => exact .inr (.inr ⟨cause, rfl⟩)

theorem strip_of_answer_eq_nil {s : Text} (h : answer s = []) : Text.strip s = [] := by
  rcases answer_cases s with ⟨hs, _⟩ | ⟨negative, l, hl, hanswer⟩ | ⟨cause, hanswer⟩
  · exact hs
  · rcases Literal.exists_cons_text hl with ⟨c, rest, htext, _⟩
    rw [h, htext] at hanswer
    cases negative with
    | false => cases hanswer
    | true => cases hanswer
  · rcases cause.exists_display with ⟨rest, hdisplay⟩
    rw [h, hdisplay] at hanswer
    cases hanswer

section

variable {p : Char -> Bool}

theorem standApart_signed {l : Literal} (hl : l.IsWellFormed) (h : StandApart p l.text)
    (hp : forall c, Literal.opens c = true -> ¬ (p '-' = true ∧ p c = true))
    (negative : Bool) : StandApart p (Text.signed negative l.text) := by
  cases negative with
  | false => exact h
  | true =>
      rcases Literal.exists_cons_text hl with ⟨c, rest, htext, hopens⟩
      apply standApart_cons.mpr
      refine ⟨?_, h⟩
      intro b hb
      rw [htext] at hb
      cases hb
      exact hp c hopens

theorem standApart_answer (hliteral : forall l : Literal, l.IsWellFormed -> StandApart p l.text)
    (hp : forall c, Literal.opens c = true -> ¬ (p '-' = true ∧ p c = true))
    (herror : forall cause : EvaluationError, cause.display.any p = false)
    (s : Text) : StandApart p (answer s) := by
  rcases answer_cases s with ⟨_, hnil⟩ | ⟨negative, l, hl, hanswer⟩ | ⟨cause, hanswer⟩
  · rw [hnil]
    exact standApart_nil
  · rw [hanswer]
    exact standApart_signed hl (hliteral l hl) hp negative
  · rw [hanswer]
    apply standApart_of_none
    intro c hc
    simpa using List.any_eq_false.mp (herror cause) c hc

end

theorem answer_isSymbol_standApart (s : Text) : StandApart Operator.isSymbol (answer s) := by
  apply standApart_answer
  · intro l hl
    exact Literal.standApart_isSymbol hl
  · rintro c hopens ⟨_, hsymbol⟩
    rw [Literal.isSymbol_of_opens hopens] at hsymbol
    cases hsymbol
  · intro cause
    cases cause with
    | malformed cause => rfl
    | divisionByZero => rfl

theorem answer_isPoint_standApart (s : Text) : StandApart isPoint (answer s) := by
  apply standApart_answer
  · intro l hl
    exact Literal.standApart_isPoint hl
  · rintro c _ ⟨hminus, _⟩
    cases hminus
  · intro cause
    cases cause with
    | malformed cause => rfl
    | divisionByZero => rfl

end PocketCalculator
