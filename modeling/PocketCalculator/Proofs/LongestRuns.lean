import PocketCalculator.Proofs.TypedTexts

/-!
# Longest runs

## The longest front of a kind

Among the fronts of a text of which a predicate holds there is at most one of the
greatest length.  If the predicate passes to the fronts of a text, the longest
front ends where it fails for one character more.
-/

namespace PocketCalculator

namespace Text

/-- The longest front of a text of which the predicate holds. -/
structure IsLongest (P : Text -> Prop) (w t : Text) : Prop where
  holds : P w
  front : w <+: t
  longest : forall v, P v -> v <+: t -> v.length ≤ w.length

theorem IsLongest.unique {P : Text -> Prop} {v w t : Text} (hv : IsLongest P v t)
    (hw : IsLongest P w t) : v = w := by
  have hle := hw.longest v hv.holds hv.front
  have hge := hv.longest w hw.holds hw.front
  have hfront := List.prefix_of_prefix_length_le hv.front hw.front hle
  exact hfront.eq_of_length (Nat.le_antisymm hle hge)

theorem isLongest_of_next {P : Text -> Prop} (hfronts : forall u v, u <+: v -> P v -> P u)
    {w after : Text} (hw : P w) (hnext : forall c, c ∈ after.head? -> ¬ P (w ++ [c])) :
    IsLongest P w (w ++ after) := by
  refine ⟨hw, List.prefix_append w after, ?_⟩
  intro v hv hfront
  by_contra hlonger
  have hshort : w.length ≤ v.length := by
    omega
  rcases List.prefix_of_prefix_length_le (List.prefix_append w after) hfront hshort with
    ⟨x, rfl⟩
  cases x with
  | nil => simp at hlonger
  | cons c x =>
      have hafter := (List.prefix_append_right_inj w).mp hfront
      rcases hafter with ⟨y, rfl⟩
      have hstart : w ++ [c] <+: w ++ c :: x :=
        (List.prefix_append_right_inj w).mpr (List.prefix_append [c] x)
      exact hnext c rfl (hfronts _ _ hstart hv)

end Text

/-!
## The runs of a literal

The mantissa of a literal is cut as the longest run of digits with at most one
point, and its exponent as the longest run of a marker, a sign and digits, where
the sign and the digits may be missing.
-/

namespace Exponent

def IsRun (t : Text) : Prop :=
  t = [] ∨ exists x : Exponent, x.IsBegun ∧ x.text = t

theorem head?_split (t : Text) :
    forall c, c ∈ (split t).2.head? ->
      ((split t).1 = none -> isMarker c = false) ∧ ((split t).1 ≠ none -> c.isDigit = false) := by
  intro c hc
  cases t with
  | nil => cases hc
  | cons d rest =>
      by_cases hmarker : isMarker d = true
      · simp only [split, if_pos hmarker] at hc ⊢
        exact ⟨fun hnone => absurd hnone (Option.some_ne_none _),
          fun _ => head?_dropWhile_isDigit _ c hc⟩
      · simp only [split, if_neg hmarker] at hc ⊢
        cases hc
        exact ⟨fun _ => Bool.eq_false_iff.mpr hmarker, fun hsome => absurd rfl hsome⟩

theorem exists_split_text_append {x : Exponent} (h : x.IsBegun) (rest : Text) :
    exists y, (split (x.text ++ rest)).1 = some y ∧ x.text.length ≤ y.text.length := by
  rcases x with ⟨marker, sign, digits⟩
  have hmarker : isMarker marker = true := h.marker
  have hdigits : forall c, c ∈ digits -> c.isDigit = true := h.digits
  have hwhole : text ⟨marker, sign, digits⟩ ++ rest =
      marker :: (sign.toList ++ (digits ++ rest)) := by
    simp [text]
  rw [hwhole, split, if_pos hmarker]
  refine ⟨_, rfl, ?_⟩
  have htake : digits.length ≤ ((digits ++ rest).takeWhile Char.isDigit).length := by
    rw [List.takeWhile_append_of_pos hdigits, List.length_append]
    omega
  simp only [text, List.cons_append, List.length_cons, List.length_append]
  cases sign with
  | some s =>
      have hsign : isSign s = true := h.sign s rfl
      simpa [splitSign, hsign] using htake
  | none =>
      cases digits with
      | nil => simp
      | cons d digits =>
          rw [splitSign_append_digits h.sign hdigits (List.cons_ne_nil d digits)]
          simpa using htake

theorem isLongest_split (t : Text) :
    Text.IsLongest IsRun (((split t).1.map text).getD []) t := by
  refine ⟨?_, ⟨_, split_append t⟩, ?_⟩
  · cases hsplit : (split t).1 with
    | none => exact .inl rfl
    | some x => exact .inr ⟨x, isBegun_of_split hsplit, rfl⟩
  · intro v hv hfront
    rcases hv with rfl | ⟨x, hx, rfl⟩
    · exact Nat.zero_le _
    · rcases hfront with ⟨rest, rfl⟩
      rcases exists_split_text_append hx rest with ⟨y, hy, hlength⟩
      rw [hy]
      exact hlength

end Exponent

namespace Literal

structure IsMantissaRun (t : Text) : Prop where
  characters : forall c, c ∈ t -> opens c = true
  points : t.count '.' ≤ 1

theorem isMantissaRun_of_front {u v : Text} (h : u <+: v) (hv : IsMantissaRun v) :
    IsMantissaRun u :=
  ⟨fun c hc => hv.characters c (h.subset hc), le_trans (h.sublist.count_le '.') hv.points⟩

theorem count_point_of_digits {digits : Text}
    (h : forall c, c ∈ digits -> c.isDigit = true) : digits.count '.' = 0 := by
  apply List.count_eq_zero_of_not_mem
  intro hpoint
  exact absurd (h '.' hpoint) (by decide)

theorem isMantissaRun_mantissaText {l : Literal}
    (hwhole : forall c, c ∈ l.whole -> c.isDigit = true)
    (hfraction : forall c, c ∈ l.fraction.getD [] -> c.isDigit = true) :
    IsMantissaRun l.mantissaText := by
  unfold mantissaText
  cases hkind : l.fraction with
  | none =>
      rw [Option.map_none, Option.getD_none, List.append_nil]
      exact ⟨fun c hc => opens_of_isDigit (hwhole c hc), by
        rw [count_point_of_digits hwhole]
        exact Nat.zero_le 1⟩
  | some f =>
      rw [hkind] at hfraction
      have hdigits : forall c, c ∈ f -> c.isDigit = true := hfraction
      constructor
      · intro c hc
        rcases List.mem_append.mp hc with hc | hc
        · exact opens_of_isDigit (hwhole c hc)
        · cases hc with
          | head => decide
          | tail _ hc => exact opens_of_isDigit (hdigits c hc)
      · change (l.whole ++ '.' :: f).count '.' ≤ 1
        rw [List.count_append, List.count_cons_self, count_point_of_digits hwhole,
          count_point_of_digits hdigits]

def afterMantissa (t : Text) : Text :=
  (splitFraction (t.dropWhile Char.isDigit)).2

theorem exponent_split (t : Text) : (split t).1.exponent = (Exponent.split (afterMantissa t)).1 :=
  rfl

theorem split_rest (t : Text) : (split t).2 = (Exponent.split (afterMantissa t)).2 :=
  rfl

theorem mantissaText_append_afterMantissa (t : Text) :
    (split t).1.mantissaText ++ afterMantissa t = t := by
  simp only [split, mantissaText, afterMantissa, List.append_assoc]
  rw [splitFraction_append, List.takeWhile_append_dropWhile]

theorem head?_afterMantissa (t : Text) :
    forall c, c ∈ (afterMantissa t).head? ->
      c.isDigit = false ∧ ((split t).1.fraction = none -> c ≠ '.') := by
  intro c hc
  have hfirst := head?_dropWhile_isDigit t
  simp only [split, afterMantissa] at hc ⊢
  cases hafter : t.dropWhile Char.isDigit with
  | nil =>
      rw [hafter] at hc
      cases hc
  | cons d rest =>
      rw [hafter] at hc hfirst
      by_cases hpoint : d = '.'
      · simp only [splitFraction, if_pos hpoint] at hc ⊢
        exact ⟨head?_dropWhile_isDigit rest c hc,
          fun hnone => absurd hnone (Option.some_ne_none _)⟩
      · simp only [splitFraction, if_neg hpoint] at hc ⊢
        cases hc
        exact ⟨hfirst _ rfl, fun _ => hpoint⟩

theorem isLongest_mantissaText (t : Text) :
    Text.IsLongest IsMantissaRun (split t).1.mantissaText t := by
  have hrun : IsMantissaRun (split t).1.mantissaText :=
    isMantissaRun_mantissaText (fun c hc => List.mem_takeWhile_imp hc)
      (fraction_isDigit_of_splitFraction _)
  have hlongest : Text.IsLongest IsMantissaRun (split t).1.mantissaText
      ((split t).1.mantissaText ++ afterMantissa t) := by
    apply Text.isLongest_of_next (fun u v => isMantissaRun_of_front) hrun
    intro c hc hlonger
    rcases head?_afterMantissa t c hc with ⟨hdigit, hpoint⟩
    have hopens := hlonger.characters c (List.mem_append_right _ (List.mem_singleton_self c))
    have hc : c = '.' := by
      simpa [opens, hdigit] using hopens
    -- The character is a second point.
    cases hfraction : (split t).1.fraction with
    | none => exact hpoint hfraction hc
    | some f =>
        have hpoints := hlonger.points
        rw [mantissaText, hfraction, hc] at hpoints
        simp only [Option.map_some, Option.getD_some, List.count_append, List.count_cons_self]
          at hpoints
        omega
  rwa [mantissaText_append_afterMantissa] at hlongest

theorem isLongest_exponentText (t : Text) :
    Text.IsLongest Exponent.IsRun (split t).1.exponentText (afterMantissa t) :=
  Exponent.isLongest_split (afterMantissa t)

/-!
## Literals that the next character ends

Whether a complete literal is cut from a text does not depend on more than the
character behind it.
-/

theorem split_text_append_of_head {l : Literal} (h : l.IsWellFormed) {s t : Text}
    (hsplit : split (l.text ++ s) = (l, s)) (hhead : forall c, c ∈ t.head? -> c ∈ s.head?) :
    split (l.text ++ t) = (l, t) := by
  have hrest := split_rest (l.text ++ s)
  have hexponent := exponent_split (l.text ++ s)
  have hleaves := Exponent.head?_split (afterMantissa (l.text ++ s))
  rw [← hrest, ← hexponent, hsplit] at hleaves
  cases hkind : l.exponent with
  | some e =>
      apply split_text_append_of_exponent h hkind
      intro c hc
      apply (hleaves c (hhead c hc)).2
      rw [hkind]
      exact Option.some_ne_none e
  | none =>
      have hmarker : forall c, c ∈ t.head? -> Exponent.isMarker c = false :=
        fun c hc => (hleaves c (hhead c hc)).1 hkind
      have hsame : afterMantissa (l.text ++ s) = s := by
        have hparts := Exponent.split_append (afterMantissa (l.text ++ s))
        rw [← hrest, ← hexponent, hsplit] at hparts
        rw [← hparts]
        simp [hkind]
      have hafter := head?_afterMantissa (l.text ++ s)
      rw [hsame, hsplit] at hafter
      have hdigit : forall c, c ∈ t.head? -> c.isDigit = false :=
        fun c hc => (hafter c (hhead c hc)).1
      cases hfraction : l.fraction with
      | none =>
          apply split_text_append h
          intro c hc
          have hpoint := (hafter c (hhead c hc)).2 hfraction
          simp [continues, hdigit c hc, hmarker c hc, hpoint]
      | some f =>
          rcases l with ⟨whole, fraction, exponent⟩
          cases hkind
          cases hfraction
          have hdigits : forall c, c ∈ f -> c.isDigit = true := h.fraction
          have hparts := split_append_point h.whole hdigits hdigit
          rw [Exponent.split_of_head hmarker] at hparts
          simpa [text, mantissaText, exponentText] using hparts

end Literal

end PocketCalculator
