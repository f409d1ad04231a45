import PocketCalculator.Proofs.AdmissibleTexts
import PocketCalculator.Proofs.PadOutcomes

/-!
# Continuing from a result

## Unsigned literals

An unsigned literal is a run of digits with at most one point among them.  As it
has no exponent, it denotes exactly one number, the nearest to its rational, and
is read as that.
-/

namespace PocketCalculator

namespace Literal

/-- Whether a text has digits, at least one of them, and at most one point. -/
structure IsUnsigned (t : Text) : Prop where
  characters : t ⊆ "0123456789.".toList
  points : t.count '.' ≤ 1
  digit : t.any Char.isDigit = true

theorem isUnsigned_iff {t : Text} :
    IsUnsigned t <->
      t ⊆ "0123456789.".toList ∧ t.count '.' ≤ 1 ∧ t.any Char.isDigit = true :=
  ⟨fun h => ⟨h.characters, h.points, h.digit⟩, fun ⟨hchars, hpoints, hdigit⟩ =>
    ⟨hchars, hpoints, hdigit⟩⟩

instance (t : Text) : Decidable (IsUnsigned t) :=
  decidable_of_iff _ isUnsigned_iff.symm

theorem IsUnsigned.opens {t : Text} (h : IsUnsigned t) {c : Char} (hc : c ∈ t) :
    opens c = true := by
  have hall : "0123456789.".toList.all Literal.opens = true := by
    decide
  exact List.all_eq_true.mp hall c (h.characters hc)

theorem Denotes.unique {t : Text} {x y : Binary64} (hx : Denotes t x) (hy : Denotes t y) :
    x = y := by
  rcases hx with ⟨l, hl, htext, hnearest⟩
  rcases hy with ⟨k, hk, hsame, hother⟩
  have heq : l = k := hl.eq_of_text hk (htext.trans hsame.symm)
  subst heq
  exact hnearest.unique hother

end Literal

/-!
## Entering an operator and a literal

A display does not end with a sign, and an unsigned literal does not begin with
one, so every key of the two is added as long as there is room for it.
-/

namespace Entry

theorem IsSpaced.join {s t : Text} (hs : IsSpaced s) (hends : endsWithOperator s = false)
    (o : Operator) (ht : IsSpaced t)
    (hopens : forall c, c ∈ t.head? -> Operator.isSymbol c = false) :
    IsSpaced (s ++ o.symbol :: t) := by
  have hlast := endsWithOperator_eq_false_iff.mp hends
  constructor
  · refine standApart_append.mpr ⟨hs.signs, standApart_cons.mpr ⟨?_, ht.signs⟩, ?_⟩
    · intro b hb hboth
      rw [hopens b hb] at hboth
      cases hboth.2
    · intro b hb c _ hboth
      rw [hlast b hb] at hboth
      cases hboth.1
  · refine standApart_append.mpr ⟨hs.points, standApart_cons.mpr ⟨?_, ht.points⟩, ?_⟩
    · intro b _ hboth
      rw [isPoint_symbol] at hboth
      cases hboth.1
    · intro b _ c hc hboth
      cases hc
      rw [isPoint_symbol] at hboth
      cases hboth.2

end Entry

namespace Binary64

variable {v : Binary64}

end Binary64

/-!
## The value of the continued expression

A display is a factor, also with its minus sign, and so is the literal; the
operator between them is applied to their two values.
-/

namespace Entry

end Entry

end PocketCalculator
