import PocketCalculator.Expression.Tree

/-!
# The grammar of expressions

## Derivations

An expression is a sum of terms, a term is a product of factors, and a factor is
a number with at most one minus sign before it.  A derivation gives the tree of
the expression: operators group to the left, and the two scaling operators bind
tighter than the two additive ones.  A minus sign that subtracts may not stand
right before a minus sign that negates.

The grammar is stated once for any alphabet.  What a number looks like and what
an operator looks like are its two parameters, so that the same rules describe
texts and lists of tokens.
-/

namespace PocketCalculator

namespace Operator

def IsAdditive (o : Operator) : Prop :=
  o = plus ∨ o = minus

def IsScaling (o : Operator) : Prop :=
  o = times ∨ o = divide

instance (o : Operator) : Decidable o.IsAdditive :=
  inferInstanceAs (Decidable (_ ∨ _))

instance (o : Operator) : Decidable o.IsScaling :=
  inferInstanceAs (Decidable (_ ∨ _))

theorem isAdditive_or_isScaling (o : Operator) : o.IsAdditive ∨ o.IsScaling := by
  cases o <;> decide

theorem not_isScaling_of_isAdditive {o : Operator} (h : o.IsAdditive) : ¬ o.IsScaling := by
  rcases h with rfl | rfl <;> decide

end Operator

namespace Grammar

section

variable {σ : Type} (leaf : List σ -> Binary64 -> Prop) (sign : Operator -> σ)

/-- A number, or a minus sign and a number. -/
inductive Factor : List σ -> Tree -> Prop where
  | number {w : List σ} {x : Binary64} : leaf w x -> Factor w (.number x)
  | negation {w : List σ} {x : Binary64} :
      leaf w x -> Factor (sign .minus :: w) (.negate (.number x))

/-- A factor, or a term, a scaling operator and a factor. -/
inductive Term : List σ -> Tree -> Prop where
  | factor {w : List σ} {t : Tree} : Factor leaf sign w t -> Term w t
  | scale {u w : List σ} {a b : Tree} {o : Operator} :
      Term u a -> o.IsScaling -> Factor leaf sign w b ->
      Term (u ++ sign o :: w) (.binary o a b)

/-- A term, or a sum, an additive operator and a term. -/
inductive Sum : List σ -> Tree -> Prop where
  | term {w : List σ} {t : Tree} : Term leaf sign w t -> Sum w t
  | add {u w : List σ} {a b : Tree} {o : Operator} :
      Sum u a -> o.IsAdditive -> Term leaf sign w b ->
      (o = .minus -> w.head? ≠ some (sign .minus)) ->
      Sum (u ++ sign o :: w) (.binary o a b)

end

variable {σ : Type} {leaf : List σ -> Binary64 -> Prop} {sign : Operator -> σ}

/-!
## Words

No expression is empty, as long as no number is.
-/

theorem Factor.ne_nil {w : List σ} {t : Tree} (hleaf : forall x, ¬ leaf [] x)
    (h : Factor leaf sign w t) : w ≠ [] := by
  cases h with
  | number hx =>
      intro hw
      subst hw
      exact hleaf _ hx
  | negation hx => simp

theorem Term.ne_nil {w : List σ} {t : Tree} (hleaf : forall x, ¬ leaf [] x)
    (h : Term leaf sign w t) : w ≠ [] := by
  cases h with
  | factor hfactor => exact hfactor.ne_nil hleaf
  | scale hterm hscale hfactor => simp

theorem Sum.ne_nil {w : List σ} {t : Tree} (hleaf : forall x, ¬ leaf [] x)
    (h : Sum leaf sign w t) : w ≠ [] := by
  cases h with
  | term hterm => exact hterm.ne_nil hleaf
  | add hsum hadd hterm hsafe => simp

theorem Term.head?_append {w : List σ} {t : Tree} (hleaf : forall x, ¬ leaf [] x)
    (h : Term leaf sign w t) (rest : List σ) : (w ++ rest).head? = w.head? := by
  have hne := h.ne_nil hleaf
  cases w with
  | nil => exact absurd rfl hne
  | cons c w => rfl

/-!
## Extending a derivation

One more operator and factor extend a sum to a sum.  An additive operator opens
a new term; a scaling operator extends the last term.
-/

theorem Sum.extend {u w : List σ} {a b : Tree} {o : Operator}
    (hleaf : forall x, ¬ leaf [] x) (hsum : Sum leaf sign u a)
    (hfactor : Factor leaf sign w b)
    (hsafe : o = .minus -> w.head? ≠ some (sign .minus)) :
    exists c, Sum leaf sign (u ++ sign o :: w) c := by
  rcases o.isAdditive_or_isScaling with hadd | hscale
  · exact ⟨_, Sum.add hsum hadd (Term.factor hfactor) hsafe⟩
  · cases hsum with
    | term hterm => exact ⟨_, Sum.term (Term.scale hterm hscale hfactor)⟩
    | @add v z a b p hleft hadd hterm hbefore =>
        have hscaled := Term.scale hterm hscale hfactor
        rw [List.append_assoc, List.cons_append]
        refine ⟨_, Sum.add hleft hadd hscaled ?_⟩
        rw [hterm.head?_append hleaf]
        exact hbefore

theorem Sum.pair {u w : List σ} {a b : Tree} {o : Operator} (hleft : Factor leaf sign u a)
    (hright : Factor leaf sign w b) (hsafe : o = .minus -> w.head? ≠ some (sign .minus)) :
    Sum leaf sign (u ++ sign o :: w) (.binary o a b) := by
  rcases o.isAdditive_or_isScaling with hadd | hscale
  · exact Sum.add (Sum.term (Term.factor hleft)) hadd (Term.factor hright) hsafe
  · exact Sum.term (Term.scale (Term.factor hleft) hscale hright)

/-!
## Changing what a number is

A derivation stays one, with the same tree, when every number in it is also one
of another kind.  When every number is spelled as one of another kind with some
value, there is still a derivation of the same word, with some tree.
-/

section

variable {other : List σ -> Binary64 -> Prop}

theorem Factor.imp {w : List σ} {t : Tree} (h : Factor leaf sign w t)
    (himp : forall v x, v <:+: w -> leaf v x -> other v x) : Factor other sign w t := by
  cases h with
  | number hx => exact Factor.number (himp _ _ List.infix_rfl hx)
  | negation hx =>
      exact Factor.negation (himp _ _ (List.suffix_cons _ _).isInfix hx)

theorem Term.imp {w : List σ} {t : Tree} (h : Term leaf sign w t)
    (himp : forall v x, v <:+: w -> leaf v x -> other v x) : Term other sign w t := by
  induction h with
  | factor hfactor => exact Term.factor (hfactor.imp himp)
  | @scale u w a b o hterm hscale hfactor ih =>
      have hleft : u <:+: u ++ sign o :: w := (List.prefix_append u _).isInfix
      have hright : w <:+: u ++ sign o :: w :=
        ((List.suffix_cons _ _).trans (List.suffix_append u _)).isInfix
      exact Term.scale (ih fun v x hv => himp v x (hv.trans hleft)) hscale
        (hfactor.imp fun v x hv => himp v x (hv.trans hright))

theorem Sum.imp {w : List σ} {t : Tree} (h : Sum leaf sign w t)
    (himp : forall v x, v <:+: w -> leaf v x -> other v x) : Sum other sign w t := by
  induction h with
  | term hterm => exact Sum.term (hterm.imp himp)
  | @add u w a b o hsum hadd hterm hsafe ih =>
      have hleft : u <:+: u ++ sign o :: w := (List.prefix_append u _).isInfix
      have hright : w <:+: u ++ sign o :: w :=
        ((List.suffix_cons _ _).trans (List.suffix_append u _)).isInfix
      exact Sum.add (ih fun v x hv => himp v x (hv.trans hleft)) hadd
        (hterm.imp fun v x hv => himp v x (hv.trans hright)) hsafe

theorem Factor.exists_of_leaf {w : List σ} {t : Tree} (h : Factor leaf sign w t)
    (hleaf : forall v x, leaf v x -> exists y, other v y) :
    exists u, Factor other sign w u := by
  cases h with
  | number hx =>
      rcases hleaf _ _ hx with ⟨y, hy⟩
      exact ⟨_, Factor.number hy⟩
  | negation hx =>
      rcases hleaf _ _ hx with ⟨y, hy⟩
      exact ⟨_, Factor.negation hy⟩

theorem Term.exists_of_leaf {w : List σ} {t : Tree} (h : Term leaf sign w t)
    (hleaf : forall v x, leaf v x -> exists y, other v y) :
    exists u, Term other sign w u := by
  induction h with
  | factor hfactor =>
      rcases hfactor.exists_of_leaf hleaf with ⟨u, hu⟩
      exact ⟨u, Term.factor hu⟩
  | scale hterm hscale hfactor ih =>
      rcases ih with ⟨a, ha⟩
      rcases hfactor.exists_of_leaf hleaf with ⟨b, hb⟩
      exact ⟨_, Term.scale ha hscale hb⟩

theorem Sum.exists_of_leaf {w : List σ} {t : Tree} (h : Sum leaf sign w t)
    (hleaf : forall v x, leaf v x -> exists y, other v y) :
    exists u, Sum other sign w u := by
  induction h with
  | term hterm =>
      rcases hterm.exists_of_leaf hleaf with ⟨u, hu⟩
      exact ⟨u, Sum.term hu⟩
  | add hsum hadd hterm hsafe ih =>
      rcases ih with ⟨a, ha⟩
      rcases hterm.exists_of_leaf hleaf with ⟨b, hb⟩
      exact ⟨_, Sum.add ha hadd hb hsafe⟩

end

end Grammar

end PocketCalculator
