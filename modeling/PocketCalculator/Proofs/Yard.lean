import PocketCalculator.Postfix.Yard
import PocketCalculator.Proofs.Grammar

/-!
# The yard follows the grammar

## The listing of a tree

The listing of a tree names every operation after its operands.  While the last
operand of an expression may still be extended, the yard has put out a part of
the listing only: the operations on the right edge of the tree are waiting.
-/

namespace PocketCalculator

namespace Tree

open Postfix

def listing : Tree -> List Item
  | number x => [.number x]
  | negate operand => operand.listing ++ [.negate]
  | binary o left right => left.listing ++ right.listing ++ [.operator o]

/-- The operations on the right edge of the tree, innermost first. -/
def waiting : Tree -> List Pending
  | number _ => []
  | negate operand => operand.waiting ++ [.negation]
  | binary o _ right => right.waiting ++ [.operation o]

/-- The listing without the operations on the right edge. -/
def issued : Tree -> List Item
  | number x => [.number x]
  | negate operand => operand.issued
  | binary _ left right => left.listing ++ right.issued

theorem issued_append_waiting (t : Tree) :
    t.issued ++ t.waiting.map Pending.item = t.listing := by
  induction t with
  | number x => rfl
  | negate operand ih =>
      simp [issued, waiting, listing, ← ih, Pending.item]
  | binary o left right _ ih =>
      simp [issued, waiting, listing, ← ih, Pending.item]

def numbers : Tree -> List Binary64
  | number x => [x]
  | negate operand => operand.numbers
  | binary _ left right => left.numbers ++ right.numbers

end Tree

namespace Postfix

/-!
## Derivations of tokens

For lists of tokens a number is one token, and so is an operator.
-/

def IsNumber (w : List Token) (x : Binary64) : Prop :=
  w = [.number x]

theorem not_isNumber_nil (x : Binary64) : ¬ IsNumber [] x := by
  intro h
  cases h

abbrev Factor : List Token -> Tree -> Prop :=
  Grammar.Factor IsNumber Token.operator

abbrev Term : List Token -> Tree -> Prop :=
  Grammar.Term IsNumber Token.operator

abbrev Sum : List Token -> Tree -> Prop :=
  Grammar.Sum IsNumber Token.operator

namespace Yard

/-!
## Runs

The yard is run over a list of tokens by its step.
-/

def run (y : Yard) (tokens : List Token) : Except SyntaxError Yard :=
  tokens.foldlM step y

@[simp] theorem run_nil (y : Yard) : y.run [] = .ok y := rfl

theorem run_cons (y : Yard) (t : Token) (tokens : List Token) :
    y.run (t :: tokens) = y.step t >>= fun y' => y'.run tokens := rfl

theorem run_append (y : Yard) (first second : List Token) :
    y.run (first ++ second) = y.run first >>= fun y' => y'.run second :=
  List.foldlM_append

theorem run_cons_of_step {y y' : Yard} {t : Token} (h : y.step t = .ok y')
    (tokens : List Token) : y.run (t :: tokens) = y'.run tokens := by
  rw [run_cons, h]
  rfl

theorem run_append_of_run {y y' : Yard} {first : List Token} (h : y.run first = .ok y')
    (second : List Token) : y.run (first ++ second) = y'.run second := by
  rw [run_append, h]
  rfl

/-!
## Releasing

Operations that bind tightly enough are all released, and the first one that
does not stops the release.
-/

theorem release_append {precedence : Nat} {released : List Pending}
    (h : forall p, p ∈ released -> precedence ≤ p.precedence)
    (output : List Item) (pending : List Pending) :
    release precedence output (released ++ pending) =
      release precedence ((released.map Pending.item).reverse ++ output) pending := by
  induction released generalizing output with
  | nil => rfl
  | cons p released ih =>
      have hp : precedence ≤ p.precedence := h p (List.mem_cons_self ..)
      have hrest := ih (fun q hq => h q (List.mem_cons_of_mem p hq)) (p.item :: output)
      rw [List.cons_append, release, if_pos hp, hrest]
      simp

theorem release_of_head {precedence : Nat} {pending : List Pending}
    (h : forall p, p ∈ pending.head? -> p.precedence < precedence) (output : List Item) :
    release precedence output pending = (output, pending) := by
  cases pending with
  | nil => rfl
  | cons p rest =>
      have hp : p.precedence < precedence := h p rfl
      rw [release, if_neg (Nat.not_le.mpr hp)]

/-!
## The yard over an expression

After an expression the yard has issued what the tree has issued and keeps what
the tree keeps waiting, besides what it had before.
-/

/-- The yard after an expression, with the items and operations from before it. -/
def holding (before : List Item) (t : Tree) (below : List Pending) : Yard :=
  ⟨(before ++ t.issued).reverse, t.waiting ++ below, .operator⟩

def Admits (expected : Expectation) (tokens : List Token) : Prop :=
  expected = .operand ∨
    (expected = .operandAfterMinus ∧ tokens.head? ≠ some (.operator .minus))

theorem run_number {before : List Item} {below : List Pending} {expected : Expectation}
    (x : Binary64) (h : expected ≠ .operator) :
    run ⟨before.reverse, below, expected⟩ [Token.number x] =
      .ok ⟨(before ++ [Item.number x]).reverse, below, .operator⟩ := by
  cases expected with
  | operand => simp [run, step, takeNumber, pure, Except.pure, bind, Except.bind]
  | operandAfterMinus => simp [run, step, takeNumber, pure, Except.pure, bind, Except.bind]
  | operator => exact absurd rfl h

theorem run_factor {tokens : List Token} {t : Tree} (h : Factor tokens t)
    {before : List Item} {below : List Pending} {expected : Expectation}
    (hadmits : Admits expected tokens) :
    run ⟨before.reverse, below, expected⟩ tokens = .ok (holding before t below) := by
  cases h with
  | number hx =>
      cases hx
      have hexpected : expected ≠ .operator := by
        rcases hadmits with rfl | ⟨rfl, _⟩ <;> simp
      exact run_number _ hexpected
  | negation hx =>
      cases hx
      rcases hadmits with rfl | ⟨rfl, hhead⟩
      · rw [run_cons_of_step rfl]
        exact run_number _ (by simp)
      · exact absurd rfl hhead

theorem factor_waiting {tokens : List Token} {t : Tree} (h : Factor tokens t) :
    forall p, p ∈ t.waiting -> 2 ≤ p.precedence := by
  cases h with
  | number hx => simp [Tree.waiting]
  | negation hx => simp [Tree.waiting, Pending.precedence]

theorem term_waiting {tokens : List Token} {t : Tree} (h : Term tokens t) :
    forall p, p ∈ t.waiting -> 2 ≤ p.precedence := by
  cases h with
  | factor hfactor => exact factor_waiting hfactor
  | @scale u w a b o hterm hscale hfactor =>
      intro p hp
      rcases List.mem_append.mp hp with hp | hp
      · exact factor_waiting hfactor p hp
      · rcases List.mem_singleton.mp hp with rfl
        rcases hscale with rfl | rfl <;> decide

theorem one_le_precedence (p : Pending) : 1 ≤ p.precedence := by
  cases p with
  | negation => decide
  | operation o => cases o <;> decide

/-- An operator after an expression whose waiting operations it releases. -/
theorem step_holding {before : List Item} {t : Tree} {below : List Pending} {o : Operator}
    (hreleased : forall p, p ∈ t.waiting -> o.precedence ≤ p.precedence)
    (hkept : forall p, p ∈ below.head? -> p.precedence < o.precedence) :
    (holding before t below).step (.operator o) =
      .ok ⟨(before ++ t.listing).reverse, .operation o :: below, expectationAfter o⟩ := by
  have hrelease : release o.precedence (before ++ t.issued).reverse (t.waiting ++ below) =
      ((before ++ t.listing).reverse, below) := by
    rw [release_append hreleased, release_of_head hkept, ← t.issued_append_waiting]
    simp
  simp only [holding, step, takeOperator, hrelease]

theorem holding_binary (before : List Item) (o : Operator) (a b : Tree)
    (below : List Pending) :
    holding (before ++ a.listing) b (.operation o :: below) =
      holding before (.binary o a b) below := by
  simp [holding, Tree.issued, Tree.waiting]

theorem run_term {tokens : List Token} {t : Tree} (h : Term tokens t)
    {before : List Item} {below : List Pending} {expected : Expectation}
    (hadmits : Admits expected tokens)
    (hbelow : forall p, p ∈ below.head? -> p.precedence < 2) :
    run ⟨before.reverse, below, expected⟩ tokens = .ok (holding before t below) := by
  induction h with
  | factor hfactor => exact run_factor hfactor hadmits
  | @scale u w a b o hterm hscale hfactor ih =>
      have htwo : o.precedence = 2 := by
        rcases hscale with rfl | rfl <;> rfl
      have hafter : expectationAfter o = .operand := by
        rcases hscale with rfl | rfl <;> rfl
      have hleft : Admits expected u := by
        unfold Admits at hadmits ⊢
        rwa [hterm.head?_append not_isNumber_nil] at hadmits
      have hstep : (holding before a below).step (.operator o) =
          .ok ⟨(before ++ a.listing).reverse, .operation o :: below, .operand⟩ := by
        rw [step_holding, hafter]
        · rw [htwo]
          exact term_waiting hterm
        · rw [htwo]
          exact hbelow
      rw [run_append_of_run (ih hleft), run_cons_of_step hstep,
        run_factor hfactor (Or.inl rfl), holding_binary]

theorem run_sum {tokens : List Token} {t : Tree} (h : Sum tokens t) :
    start.run tokens = .ok (holding [] t []) := by
  induction h with
  | term hterm =>
      have hbelow : forall p, p ∈ ([] : List Pending).head? -> p.precedence < 2 := by
        simp
      change run ⟨([] : List Item).reverse, [], .operand⟩ _ = _
      exact run_term hterm (Or.inl rfl) hbelow
  | @add u w a b o hsum hadd hterm hsafe ih =>
      have hone : o.precedence = 1 := by
        rcases hadd with rfl | rfl <;> rfl
      have hstep : (holding [] a []).step (.operator o) =
          .ok ⟨([] ++ a.listing).reverse, [.operation o], expectationAfter o⟩ := by
        apply step_holding
        · rw [hone]
          exact fun p _ => one_le_precedence p
        · simp
      have hadmits : Admits (expectationAfter o) w := by
        rcases hadd with rfl | rfl
        · exact Or.inl rfl
        · exact Or.inr ⟨rfl, hsafe rfl⟩
      have hbelow : forall p, p ∈ [Pending.operation o].head? -> p.precedence < 2 := by
        intro p hp
        cases hp
        rw [Pending.precedence, hone]
        decide
      rw [run_append_of_run ih, run_cons_of_step hstep, run_term hterm hadmits hbelow,
        holding_binary]

theorem finish_holding (t : Tree) : (holding [] t []).finish = .ok t.listing := by
  simp [holding, finish, ← t.issued_append_waiting]

end Yard

/-- An expression is turned into the listing of its tree. -/
theorem ofTokens_of_sum {tokens : List Token} {t : Tree} (h : Sum tokens t) :
    ofTokens tokens = .ok t.listing := by
  change Yard.start.run tokens >>= Yard.finish = .ok t.listing
  rw [Yard.run_sum h]
  exact Yard.finish_holding t

end Postfix

end PocketCalculator
