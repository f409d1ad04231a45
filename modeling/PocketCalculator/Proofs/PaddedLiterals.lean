import PocketCalculator.Proofs.LexemeReading
import PocketCalculator.Proofs.StandardForms

/-!
# Padded literals

## Conversion by a padded text

A literal may lack the digits on one side of its point.  Before it is converted, a
zero is put there, so that its point has digits on both sides.
-/

namespace PocketCalculator

/-- The number that a decimal numeral without a sign is converted to. -/
def Text.toNumber? (t : Text) : Option Binary64 :=
  if (Literal.split t).2 = [] then (Literal.split t).1.value? else none

namespace Literal

def paddedText (l : Literal) : Text :=
  (if l.mantissaText.head? = some '.' then ['0'] else []) ++ l.mantissaText ++
    (if l.mantissaText.getLast? = some '.' then ['0'] else []) ++ l.exponentText

/-- The number that a literal is converted to, unless its mantissa has no digit. -/
def converted? (l : Literal) : Option Binary64 :=
  if l.mantissaText.any Char.isDigit then Text.toNumber? l.paddedText else none

def padDigits (digits : Text) : Text :=
  if digits = [] then ['0'] else digits

/-- The literal with digits on both sides of its point. -/
def padded (l : Literal) : Literal :=
  ⟨padDigits l.whole, l.fraction.map padDigits, l.exponent⟩

theorem padDigits_ne_nil (digits : Text) : padDigits digits ≠ [] := by
  unfold padDigits
  split
  · exact List.cons_ne_nil '0' []
  · assumption

theorem isDigit_of_mem_padDigits {digits : Text}
    (h : forall c, c ∈ digits -> c.isDigit = true) :
    forall c, c ∈ padDigits digits -> c.isDigit = true := by
  unfold padDigits
  split
  · intro c hc
    rw [List.mem_singleton.mp hc]
    decide
  · exact h

section Padded

variable {l : Literal} (h : l.IsWellFormed)

include h

theorem padded_isWellFormed : l.padded.IsWellFormed := by
  refine ⟨isDigit_of_mem_padDigits h.whole, ?_, ?_, h.exponent⟩
  · intro c hc
    have hfraction := h.fraction
    unfold padded at hc
    cases hkind : l.fraction with
    | none =>
        rw [hkind] at hc
        cases hc
    | some f =>
        rw [hkind] at hc hfraction
        exact isDigit_of_mem_padDigits hfraction c hc
  · exact List.append_ne_nil_of_left_ne_nil (padDigits_ne_nil l.whole) _

theorem head?_mantissaText : l.mantissaText.head? = some '.' <-> l.whole = [] := by
  cases hwhole : l.whole with
  | nil =>
      refine iff_of_true ?_ rfl
      cases hkind : l.fraction with
      | none =>
          have hne := h.nonempty
          rw [hwhole, hkind] at hne
          exact absurd rfl hne
      | some f =>
          rw [mantissaText, hwhole, hkind]
          rfl
  | cons c whole =>
      refine iff_of_false ?_ (List.cons_ne_nil c whole)
      rw [mantissaText, hwhole]
      intro hpoint
      have hc : c = '.' := Option.some.inj hpoint
      have hdigit := h.whole c (by simp [hwhole])
      rw [hc] at hdigit
      cases hdigit

theorem getLast?_mantissaText : l.mantissaText.getLast? = some '.' <-> l.fraction = some [] := by
  have hlast : forall digits : Text, (forall c, c ∈ digits -> c.isDigit = true) ->
      digits.getLast? ≠ some '.' := by
    intro digits hdigits hpoint
    have hdigit := hdigits '.' (List.mem_of_getLast? hpoint)
    cases hdigit
  cases hkind : l.fraction with
  | none =>
      refine iff_of_false ?_ (Option.some_ne_none _).symm
      rw [mantissaText, hkind, Option.map_none, Option.getD_none, List.append_nil]
      exact hlast l.whole h.whole
  | some f =>
      have hfraction := h.fraction
      rw [hkind] at hfraction
      cases f with
      | nil =>
          refine iff_of_true ?_ rfl
          rw [mantissaText, hkind]
          exact List.getLast?_concat
      | cons c f =>
          refine iff_of_false ?_ (by simp)
          rw [mantissaText, hkind, Option.map_some, Option.getD_some,
            List.getLast?_append_of_ne_nil _ (List.cons_ne_nil '.' _)]
          exact hlast (c :: f) hfraction

theorem padded_text : l.padded.text = l.paddedText := by
  have hfront : padDigits l.whole = (if l.whole = [] then ['0'] else []) ++ l.whole := by
    by_cases hnil : l.whole = []
    · simp [padDigits, hnil]
    · simp [padDigits, hnil]
  have hback : ((l.fraction.map padDigits).map ('.' :: ·)).getD [] =
      (l.fraction.map ('.' :: ·)).getD [] ++ (if l.fraction = some [] then ['0'] else []) := by
    cases hkind : l.fraction with
    | none => rfl
    | some f =>
        by_cases hnil : f = []
        · simp [padDigits, hnil]
        · simp [padDigits, hnil]
  unfold paddedText
  simp only [head?_mantissaText h, getLast?_mantissaText h]
  rw [text, mantissaText, padded, hfront, hback, mantissaText]
  simp only [List.append_assoc]
  rfl

end Padded

/-!
## The rational of a padded literal

A zero before the point does not count, and a zero behind it adds a digit to the
mantissa and takes its place away again.
-/

def trailingZero (l : Literal) : Text :=
  if l.fraction = some [] then ['0'] else []

theorem padded_fraction (l : Literal) :
    l.padded.fraction.getD [] = l.fraction.getD [] ++ l.trailingZero := by
  unfold padded trailingZero
  cases hkind : l.fraction with
  | none => rfl
  | some f =>
      by_cases hnil : f = []
      · simp [padDigits, hnil]
      · simp [padDigits, hnil]

theorem ofDigitChars_padDigits_append (digits rest : Text) :
    Nat.ofDigitChars 10 (padDigits digits ++ rest) 0 =
      Nat.ofDigitChars 10 (digits ++ rest) 0 := by
  unfold padDigits
  split
  · rename_i hnil
    rw [hnil]
    rfl
  · rfl

theorem ofDigitChars_trailingZero (l : Literal) (start : Nat) :
    Nat.ofDigitChars 10 l.trailingZero start = 10 ^ l.trailingZero.length * start := by
  unfold trailingZero
  split
  · rfl
  · simp

theorem padded_mantissa (l : Literal) :
    l.padded.mantissa = 10 ^ l.trailingZero.length * l.mantissa := by
  rw [mantissa, mantissaDigits, padded_fraction]
  change Nat.ofDigitChars 10 (padDigits l.whole ++ _) 0 = _
  rw [ofDigitChars_padDigits_append, ← List.append_assoc, Nat.ofDigitChars_append,
    ofDigitChars_trailingZero]
  rfl

theorem padded_fractionLength (l : Literal) :
    l.padded.fractionLength = l.fractionLength + l.trailingZero.length := by
  rw [fractionLength, padded_fraction, List.length_append]
  rfl

/-- Padding changes nothing, whatever power of ten the mantissa is scaled by. -/
theorem padded_scaled (l : Literal) (scale : Int) :
    (l.padded.mantissa : ℚ) * 10 ^ (scale - l.padded.fractionLength) =
      l.mantissa * 10 ^ (scale - l.fractionLength) := by
  have hten : (10 : ℚ) ≠ 0 := by
    norm_num
  have hscale : scale - l.fractionLength =
      (l.trailingZero.length : Int) + (scale - l.padded.fractionLength) := by
    rw [padded_fractionLength]
    push_cast
    ring
  rw [hscale, zpow_add₀ hten, zpow_natCast, padded_mantissa]
  push_cast
  ring

theorem padded_rational (l : Literal) : l.padded.rational = l.rational :=
  padded_scaled l l.scale

theorem padded_number (l : Literal) : l.padded.number = l.number :=
  Decimal.toBinary64_congr (padded_scaled l ((l.exponent.map Exponent.value).getD 0))

/-!
## What is converted

Every complete literal is converted, and to the number that it is read as.
-/

theorem toNumber?_text {l : Literal} (h : l.IsWellFormed) :
    Text.toNumber? l.text = some l.number := by
  have hsplit := split_text_append h closes_nil
  rw [List.append_nil] at hsplit
  rw [Text.toNumber?, hsplit, if_pos rfl]
  exact value?_of_isWellFormed h

theorem toNumber?_paddedText {l : Literal} (h : l.IsWellFormed) :
    Text.toNumber? l.paddedText = some l.number := by
  rw [← padded_text h, toNumber?_text (padded_isWellFormed h), padded_number]

theorem converted?_of_isWellFormed {l : Literal} (h : l.IsWellFormed) :
    l.converted? = some l.number := by
  have hdigit : l.mantissaText.any Char.isDigit = true :=
    List.any_eq_true.mpr (exists_isDigit_mem_mantissaText h)
  rw [converted?, if_pos hdigit, toNumber?_paddedText h]

/-- A literal that is cut from a text, with a complete exponent or none, is converted. -/
theorem value?_split_eq_converted? (t : Text)
    (h : forall e, e ∈ (split t).1.exponent -> e.digits ≠ []) :
    (split t).1.value? = (split t).1.converted? := by
  by_cases hcomplete : (split t).1.isComplete = true
  · have hwell := isWellFormed_of_isComplete hcomplete
    rw [value?_of_isWellFormed hwell, converted?_of_isWellFormed hwell]
  · rcases lacks_of_isComplete (Bool.eq_false_iff.mpr hcomplete) with hdigits | ⟨_, e, he, hnil⟩
    · have hnone : ¬ (split t).1.mantissaText.any Char.isDigit = true := by
        intro hany
        rcases List.any_eq_true.mp hany with ⟨c, hc, hdigit⟩
        rw [not_isDigit_of_mem_mantissaText hdigits hc] at hdigit
        cases hdigit
      rw [value?, if_neg hcomplete, converted?, if_neg hnone]
    · exact absurd hnil (h e he)

end Literal

namespace Binary64

def IsUnsigned : Binary64 -> Prop
  | finite negative .. => negative = false
  | infinite negative => negative = false
  | nan => False

theorem IsNearest.isUnsigned {q : ℚ} {x : Binary64} (h : IsNearest q x) : x.IsUnsigned := by
  cases x with
  | finite negative m e hcanonical => exact h.1
  | infinite negative => exact h.1
  | nan => exact h

end Binary64

/-!
## Literals as nearest numbers

That the conversion rounds rightly is a condition on the text it is given.  It is
met by the padded text of every literal of ordinary length and of every literal
whose exponent is counted to its end.
-/

/-- Whether a numeral is converted to the number nearest to its rational. -/
def Text.IsRounded (t : Text) : Prop :=
  forall l : Literal, l.IsWellFormed -> l.text = t ->
    exists x, Text.toNumber? t = some x ∧ Binary64.IsNearest l.rational x

namespace Literal

variable {l : Literal} (h : l.IsWellFormed)

include h

theorem isRounded_paddedText_iff :
    l.paddedText.IsRounded <-> Binary64.IsNearest l.rational l.number := by
  constructor
  · intro hrounded
    rcases hrounded l.padded (padded_isWellFormed h) (padded_text h) with ⟨x, hx, hnearest⟩
    rw [toNumber?_paddedText h] at hx
    cases hx
    rwa [padded_rational] at hnearest
  · intro hnearest k hk htext
    have hsame : k = l.padded :=
      hk.eq_of_text (padded_isWellFormed h) (htext.trans (padded_text h).symm)
    rw [hsame, padded_rational]
    exact ⟨l.number, toNumber?_paddedText h, hnearest⟩

theorem read_text : Token.read l.text = .ok [.number l.number] := by
  have hstrip : Text.strip l.text = l.text :=
    Text.strip_eq_self fun c hc => isBlank_of_mem_text h hc
  have hread := Token.readOnto_literal h [] closes_nil
  rw [List.append_nil, Token.readOnto] at hread
  rw [Token.read, hstrip, hread]
  rfl

end Literal

namespace Token

/--
Every token of a text stands for one of its lexemes, and a literal is read as a
number without a sign, by a conversion of its padded text that does not fail.
When that conversion rounds rightly, the number is the nearest to the rational of
the literal, and all literals of one rational are read alike.
-/
theorem literals_are_read_as_nearest_numbers :
    (forall s tokens, read s = .ok tokens ->
      exists lexemes, lexemes.flatten = Text.strip s ∧
        List.Forall₂ IsTokenOf lexemes tokens) ∧
    (forall t, (forall e, e ∈ (Literal.split t).1.exponent -> e.digits ≠ []) ->
      (Literal.split t).1.value? = (Literal.split t).1.converted?) ∧
    forall l : Literal, l.IsWellFormed ->
      read l.text = .ok [.number l.number] ∧
      l.converted? = some l.number ∧
      l.number.IsUnsigned ∧
      (l.paddedText.IsRounded -> Binary64.IsNearest l.rational l.number) ∧
      (l.paddedText.IsRounded -> forall k : Literal, k.IsWellFormed ->
        k.paddedText.IsRounded -> k.rational = l.rational -> read k.text = read l.text) ∧
      (l.mantissaDigits.length ≤ Literal.ordinaryLength ∨
        (forall e, e ∈ l.exponent ->
          Nat.ofDigitChars 10 e.digits 0 < 10 * Exponent.magnitudeLimit) ->
        l.paddedText.IsRounded) := by
  refine ⟨fun s tokens => exists_lexemes_of_read, Literal.value?_split_eq_converted?, ?_⟩
  intro l hl
  have hiff := Literal.isRounded_paddedText_iff hl
  refine ⟨Literal.read_text hl, Literal.converted?_of_isWellFormed hl,
    l.decimal.toBinary64_isNearest.isUnsigned, hiff.mp, ?_, ?_⟩
  · intro hrounded k hk hother hsame
    have hnearest := (Literal.isRounded_paddedText_iff hk).mp hother
    rw [hsame] at hnearest
    have hnumber : k.number = l.number := hnearest.unique (hiff.mp hrounded)
    rw [Literal.read_text hk, Literal.read_text hl, hnumber]
  · intro hordinary
    apply hiff.mpr
    rcases hordinary with hlength | hcounted
    · exact Literal.number_isNearest_of_length_le hl hlength
    · exact Literal.number_isNearest hcounted

/-- Five is read alike with a trailing point and with an exponent. -/
theorem literals_are_read_as_nearest_numbers_five :
    read "50e-1".toList = read "5.".toList := by
  have hl : Literal.IsWellFormed ⟨['5'], some [], none⟩ :=
    Literal.isWellFormed_of_isComplete (t := "5.".toList) (by decide)
  have hk : Literal.IsWellFormed ⟨['5', '0'], none, some ⟨'e', some '-', ['1']⟩⟩ :=
    Literal.isWellFormed_of_isComplete (t := "50e-1".toList) (by decide)
  rcases literals_are_read_as_nearest_numbers.2.2 _ hl with ⟨_, _, _, _, hsame, hordinary⟩
  rcases literals_are_read_as_nearest_numbers.2.2 _ hk with ⟨_, _, _, _, _, hordinary'⟩
  have hrational : Literal.rational ⟨['5', '0'], none, some ⟨'e', some '-', ['1']⟩⟩ =
      Literal.rational ⟨['5'], some [], none⟩ := by
    change (50 : ℚ) * 10 ^ (-1 : Int) = 5 * 10 ^ (0 : Int)
    norm_num
  exact hsame (hordinary (.inl (by decide))) _ hk (hordinary' (.inl (by decide))) hrational

end Token

end PocketCalculator
