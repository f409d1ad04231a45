import PocketCalculator.Proofs.ExactResults
import PocketCalculator.Proofs.LogTexts
import PocketCalculator.Proofs.PaddedLiterals

/-!
# Numbers in the log

## Magnitudes

In the log a number is written as its magnitude, behind a minus sign when it is
negative.  The magnitude of a finite number is one literal without an exponent,
however large or small the number is, and that literal is read as the number.
-/

namespace PocketCalculator

namespace Text

theorem opens_of_mem_positional {digits : Text} (h : forall c, c ∈ digits -> c.isDigit = true)
    (point : Int) : forall c, c ∈ positional digits point -> Literal.opens c = true := by
  have hopens : forall c, c ∈ digits -> Literal.opens c = true :=
    fun c hc => Literal.opens_of_isDigit (h c hc)
  have hzeros : forall k c, c ∈ List.replicate k '0' -> Literal.opens c = true :=
    fun k c hc => Literal.opens_of_isDigit (Decimal.isDigit_of_mem_zeros hc)
  intro c hc
  unfold positional at hc
  split at hc
  · rcases List.mem_append.mp hc with hc | hc
    · rcases List.mem_cons.mp hc with rfl | hc
      · decide
      · rcases List.mem_cons.mp hc with rfl | hc
        · decide
        · exact hzeros _ c hc
    · exact hopens c hc
  · split at hc
    · rcases List.mem_append.mp hc with hc | hc
      · exact hopens c hc
      · exact hzeros _ c hc
    · rcases List.mem_append.mp hc with hc | hc
      · exact hopens c (List.mem_of_mem_take hc)
      · rcases List.mem_cons.mp hc with rfl | hc
        · decide
        · exact hopens c (List.mem_of_mem_drop hc)

theorem eq_of_signed_eq {negative other : Bool} {s t : Text} (hs : s.head? ≠ some '-')
    (ht : t.head? ≠ some '-') (h : signed negative s = signed other t) :
    negative = other ∧ s = t := by
  cases negative with
  | false =>
      cases other with
      | false => exact ⟨rfl, h⟩
      | true =>
          have hhead : s = '-' :: t := h
          rw [hhead] at hs
          exact absurd rfl hs
  | true =>
      cases other with
      | false =>
          have hhead : '-' :: s = t := h
          rw [← hhead] at ht
          exact absurd rfl ht
      | true => exact ⟨rfl, (List.cons.inj h).2⟩

end Text

namespace Literal

theorem ReadAs.unique {t : Text} {x y : Binary64} (hx : ReadAs t x) (hy : ReadAs t y) :
    x = y := by
  rcases hx with ⟨l, hl, hltext, rfl⟩
  rcases hy with ⟨k, hk, hktext, rfl⟩
  rw [hl.eq_of_text hk (hltext.trans hktext.symm)]

theorem ReadAs.isUnsigned {t : Text} {x : Binary64} (h : ReadAs t x) : x.IsUnsigned := by
  rcases h with ⟨l, _, _, rfl⟩
  exact l.decimal.toBinary64_isNearest.isUnsigned

theorem not_readAs_of_head? {t : Text} (h : forall c, c ∈ t.head? -> opens c = false)
    (x : Binary64) : ¬ ReadAs t x := by
  rintro ⟨l, hl, rfl, _⟩
  rcases exists_cons_text hl with ⟨c, rest, htext, hopens⟩
  rw [h c (by rw [htext]; rfl)] at hopens
  cases hopens

end Literal

namespace Binary64

theorem abs_of_isUnsigned {x : Binary64} (h : x.IsUnsigned) : x.abs = x := by
  cases x with
  | finite negative m e hcanonical =>
      have hsign : negative = false := h
      rw [hsign]
      rfl
  | infinite negative =>
      have hsign : negative = false := h
      rw [hsign]
      rfl
  | nan => rfl

theorem plain_eq_signed (x : Binary64) : x.plain = Text.signed x.isNegative x.abs.plain := by
  cases x <;> rfl

theorem readAs_plain_abs {x : Binary64} (h : x.isFinite = true) :
    Literal.ReadAs x.abs.plain x.abs := by
  rcases exists_zero_or_nonzero h with ⟨negative, rfl⟩ | ⟨negative, m, e, hcanonical, hm, rfl⟩
  · exact readAs_zero
  · have hread := (Decimal.shortest m e hcanonical).readAs_positional
    rw [Decimal.shortest_toBinary64 hcanonical hm] at hread
    have hplain : (finite false m e hcanonical).plain =
        Text.positional (Decimal.shortest m e hcanonical).digits
          (Decimal.shortest m e hcanonical).point := by
      simp [plain, Text.signed, hm]
    rw [abs, hplain]
    exact hread

theorem readAs_plain {x : Binary64} (h : x.isFinite = true) (hunsigned : x.IsUnsigned) :
    Literal.ReadAs x.plain x := by
  have hread := readAs_plain_abs h
  rwa [abs_of_isUnsigned hunsigned] at hread

/-!
## The characters of a magnitude

They are digits, points and the letters of the two names.  None of them is a sign
of an operator, a parenthesis or a blank.
-/

def isMagnitudeCharacter (c : Char) : Bool :=
  Literal.opens c || "infNa".toList.contains c

theorem isMagnitudeCharacter_of_mem (x : Binary64) :
    forall c, c ∈ x.abs.plain -> isMagnitudeCharacter c = true := by
  cases x with
  | finite negative m e h =>
      intro c hc
      unfold isMagnitudeCharacter
      have hopens : Literal.opens c = true := by
        change c ∈ (if m = 0 then ['0'] else _) at hc
        split at hc
        · rw [List.mem_singleton.mp hc]
          decide
        · exact Text.opens_of_mem_positional (fun d hd => Decimal.isDigit_of_mem_digits hd) _ c hc
      rw [hopens, Bool.true_or]
  | infinite negative =>
      have hall : "inf".toList.all isMagnitudeCharacter = true := by
        decide
      exact List.all_eq_true.mp hall
  | nan =>
      have hall : "NaN".toList.all isMagnitudeCharacter = true := by
        decide
      exact List.all_eq_true.mp hall

theorem plain_abs_ne_nil (x : Binary64) : x.abs.plain ≠ [] := by
  cases x with
  | finite negative m e h =>
      intro hnil
      have hread := readAs_plain_abs (x := finite negative m e h) rfl
      rw [hnil] at hread
      exact Literal.not_readAs_nil _ hread
  | infinite negative => exact List.cons_ne_nil _ _
  | nan => exact List.cons_ne_nil _ _

theorem head?_plain_abs (x : Binary64) : x.abs.plain.head? ≠ some '-' := by
  intro hminus
  have hmember := x.isMagnitudeCharacter_of_mem '-' (List.mem_of_mem_head? hminus)
  cases hmember

theorem not_readAs_plain_abs {x : Binary64} (h : x.isFinite = false) (y : Binary64) :
    ¬ Literal.ReadAs x.abs.plain y := by
  apply Literal.not_readAs_of_head?
  intro c hc
  cases x with
  | finite negative m e hcanonical => cases h
  | infinite negative =>
      cases hc
      decide
  | nan =>
      cases hc
      decide

theorem abs_eq_of_plain_eq {x y : Binary64} (h : x.abs.plain = y.abs.plain) :
    x.abs = y.abs := by
  cases hx : x.isFinite with
  | true =>
      have hread := readAs_plain_abs hx
      rw [h] at hread
      cases hy : y.isFinite with
      | true => exact hread.unique (readAs_plain_abs hy)
      | false => exact absurd hread (not_readAs_plain_abs hy _)
  | false =>
      cases hy : y.isFinite with
      | true =>
          have hread := readAs_plain_abs hy
          rw [← h] at hread
          exact absurd hread (not_readAs_plain_abs hx _)
      | false => cases x <;> cases y <;> simp_all [isFinite, abs, plain, Text.signed]

theorem plain_injective {x y : Binary64} (h : x.plain = y.plain) : x = y := by
  rw [plain_eq_signed, plain_eq_signed y] at h
  rcases Text.eq_of_signed_eq x.head?_plain_abs y.head?_plain_abs h with ⟨hsign, hmagnitude⟩
  exact eq_of_abs_eq hsign (abs_eq_of_plain_eq hmagnitude)

end Binary64

end PocketCalculator
