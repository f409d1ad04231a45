import PocketCalculator.Proofs.Acceptance
import PocketCalculator.Proofs.Coherence

/-!
# Operations that wait

## How tightly they bind

An operation waits only above such as bind less tightly.  As there are three
degrees of binding, no more than three operations ever wait, and a negation, the
tightest of them, waits only on top.
-/

namespace PocketCalculator

namespace Postfix

namespace Pending

def isBinary : Pending -> Bool
  | negation => false
  | operation _ => true

theorem precedence_le_three (p : Pending) : p.precedence ≤ 3 := by
  cases p with
  | negation => exact Nat.le_refl _
  | operation o => cases o <;> decide

/-- Above each operation wait only such as bind more tightly. -/
def Tightens (pending : List Pending) : Prop :=
  pending.Pairwise fun upper lower => lower.precedence < upper.precedence

/-- The precedence falls with every operation further down, so it bounds their number. -/
theorem Tightens.length_le_precedence {p : Pending} {pending : List Pending}
    (h : Tightens (p :: pending)) : (p :: pending).length ≤ p.precedence := by
  induction pending generalizing p with
  | nil => exact Yard.one_le_precedence p
  | cons q pending ih =>
      rcases List.pairwise_cons.mp h with ⟨htop, hbelow⟩
      have hlength := ih hbelow
      have hlooser := htop q (List.mem_cons_self ..)
      rw [List.length_cons]
      omega

theorem Tightens.length_le_three {pending : List Pending} (h : Tightens pending) :
    pending.length ≤ 3 := by
  cases pending with
  | nil => exact Nat.zero_le 3
  | cons p pending => exact Nat.le_trans h.length_le_precedence p.precedence_le_three

theorem Tightens.negation_not_mem_tail {pending : List Pending} (h : Tightens pending) :
    .negation ∉ pending.tail := by
  cases pending with
  | nil => simp
  | cons p pending =>
      intro hbelow
      have hlooser : negation.precedence < p.precedence :=
        (List.pairwise_cons.mp h).1 _ hbelow
      have hbound : p.precedence ≤ negation.precedence := p.precedence_le_three
      omega

theorem Tightens.nodup {pending : List Pending} (h : Tightens pending) : pending.Nodup :=
  h.imp fun hlooser heq => by
    rw [heq] at hlooser
    exact Nat.lt_irrefl _ hlooser

end Pending

namespace Yard

theorem release_suffix (precedence : Nat) (output : List Item) (pending : List Pending) :
    (release precedence output pending).2 <:+ pending := by
  induction pending generalizing output with
  | nil => exact List.suffix_refl []
  | cons p pending ih =>
      unfold release
      split
      · exact (ih (p.item :: output)).trans (List.suffix_cons p pending)
      · exact List.suffix_refl _

theorem tightens_release {pending : List Pending} (h : Pending.Tightens pending)
    (precedence : Nat) (output : List Item) :
    Pending.Tightens (release precedence output pending).2 :=
  h.sublist (release_suffix precedence output pending).sublist

theorem precedence_lt_of_mem_release {pending : List Pending} (h : Pending.Tightens pending)
    {precedence : Nat} {output : List Item} {p : Pending}
    (hp : p ∈ (release precedence output pending).2) : p.precedence < precedence := by
  have hkept := tightens_release h precedence output
  cases hrest : (release precedence output pending).2 with
  | nil =>
      rw [hrest] at hp
      cases hp
  | cons top rest =>
      have htop := precedence_lt_of_release precedence output pending hrest
      rw [hrest] at hp hkept
      rcases List.mem_cons.mp hp with rfl | hbelow
      · exact htop
      · exact Nat.lt_trans ((List.pairwise_cons.mp hkept).1 p hbelow) htop

end Yard

/-!
## Values for the operations

A binary operation that waits uses up one value when it is put out, and a
negation none.  So no operation ever lacks a value as long as there are more
values than binary operations waiting.
-/

theorem Pending.needs_item (p : Pending) :
    p.item.needs = 1 + if p.isBinary = true then 1 else 0 := by
  cases p with
  | negation => rfl
  | operation o => rfl

theorem valueCount_waiting (pending : List Pending) :
    valueCount (pending.map Pending.item) = -(pending.countP Pending.isBinary : Int) := by
  induction pending with
  | nil => rfl
  | cons p pending ih =>
      rw [List.map_cons, valueCount, ih, List.countP_cons, p.needs_item]
      omega

theorem not_lacksOperand_waiting {items : List Item} {pending : List Pending}
    (henough : ¬ LacksOperand items)
    (hvalues : (pending.countP Pending.isBinary : Int) < valueCount items) :
    ¬ LacksOperand (items ++ pending.map Pending.item) := by
  induction pending generalizing items with
  | nil => simpa using henough
  | cons p pending ih =>
      -- The one that is put out next finds its values and leaves enough for the others.
      have hneeds : (p.item.needs : Int) + pending.countP Pending.isBinary ≤
          valueCount items := by
        rw [List.countP_cons] at hvalues
        rw [p.needs_item]
        omega
      have hput : ¬ LacksOperand (items ++ [p.item]) := by
        rw [lacksOperand_concat]
        rintro (hlacks | hlacks)
        · exact henough hlacks
        · omega
      rw [List.map_cons, List.append_cons]
      apply ih hput
      rw [valueCount_append, valueCount, valueCount]
      omega

namespace Yard

/-- What is released uses up as many values as it has binary operations. -/
theorem valueCount_release (precedence : Nat) (output : List Item) (pending : List Pending) :
    valueCount (release precedence output pending).1.reverse +
        pending.countP Pending.isBinary =
      valueCount output.reverse +
        (release precedence output pending).2.countP Pending.isBinary := by
  have hitems := congrArg valueCount (release_items precedence output pending)
  rw [valueCount_append, valueCount_append, valueCount_waiting, valueCount_waiting] at hitems
  omega

theorem not_lacksOperand_release {output : List Item} {pending : List Pending}
    (henough : ¬ LacksOperand output.reverse)
    (hvalues : (pending.countP Pending.isBinary : Int) < valueCount output.reverse)
    (precedence : Nat) :
    ¬ LacksOperand (release precedence output pending).1.reverse := by
  intro hlacks
  apply not_lacksOperand_waiting henough hvalues
  rw [← release_items precedence output pending]
  exact hlacks.append _

/-!
## What the yard keeps

The order of the operations that wait, the values in the output and what the yard
expects hang together, and every token keeps them so.
-/

structure IsOrderly (y : Yard) : Prop where
  tightens : Pending.Tightens y.pending
  /-- Where a negation may still come, no other one waits. -/
  no_negation : y.expected = .operand -> .negation ∉ y.pending
  enough : ¬ LacksOperand y.output.reverse
  /-- A value for each binary operation that waits, and one that an operator may follow. -/
  values : valueCount y.output.reverse =
    (y.pending.countP Pending.isBinary + if y.expected = .operator then 1 else 0 : Nat)

theorem isOrderly_start : start.IsOrderly where
  tightens := .nil
  no_negation := by simp [start]
  enough := not_lacksOperand_nil
  values := rfl

theorem IsOrderly.valueCount_of_operator {y : Yard} (h : y.IsOrderly)
    (hexpected : y.expected = .operator) :
    valueCount y.output.reverse = y.pending.countP Pending.isBinary + 1 := by
  have hvalues := h.values
  rwa [if_pos hexpected] at hvalues

theorem IsOrderly.valueCount_of_operand {y : Yard} (h : y.IsOrderly)
    (hexpected : y.expected ≠ .operator) :
    valueCount y.output.reverse = y.pending.countP Pending.isBinary := by
  have hvalues := h.values
  rwa [if_neg hexpected] at hvalues

theorem expectationAfter_ne_operator (o : Operator) : expectationAfter o ≠ .operator := by
  cases o <;> simp [expectationAfter]

theorem IsOrderly.number {y : Yard} (h : y.IsOrderly) (x : Binary64)
    (hexpected : y.expected ≠ .operator) :
    IsOrderly ⟨.number x :: y.output, y.pending, .operator⟩ where
  tightens := h.tightens
  no_negation := by simp
  enough := by
    have hvalues := h.valueCount_of_operand hexpected
    rw [List.reverse_cons, lacksOperand_concat]
    rintro (hlacks | hlacks)
    · exact h.enough hlacks
    · simp only [Item.needs] at hlacks
      omega
  values := by
    rw [List.reverse_cons, valueCount_append, h.valueCount_of_operand hexpected]
    simp [valueCount, Item.needs]

theorem IsOrderly.negation {y : Yard} (h : y.IsOrderly) (hexpected : y.expected = .operand) :
    IsOrderly ⟨y.output, .negation :: y.pending, .operandAfterMinus⟩ where
  tightens := by
    refine List.pairwise_cons.mpr ⟨fun p hp => ?_, h.tightens⟩
    cases p with
    | negation => exact absurd hp (h.no_negation hexpected)
    | operation o => cases o <;> decide
  no_negation := by simp
  enough := h.enough
  values := by
    rw [h.valueCount_of_operand (by simp [hexpected]),
      List.countP_cons_of_neg (by simp [Pending.isBinary])]
    rfl

/-- An operation releases all that binds at least as tightly and waits above the rest. -/
theorem IsOrderly.operation {y : Yard} (h : y.IsOrderly) (o : Operator)
    (hexpected : y.expected = .operator) :
    IsOrderly ⟨(release o.precedence y.output y.pending).1,
      .operation o :: (release o.precedence y.output y.pending).2, expectationAfter o⟩ where
  tightens := by
    refine List.pairwise_cons.mpr ⟨fun p hp => ?_, tightens_release h.tightens _ _⟩
    exact precedence_lt_of_mem_release h.tightens hp
  no_negation := by
    -- A negation binds more tightly than any operation, so none has stayed.
    intro _ hmem
    rcases List.mem_cons.mp hmem with heq | hkept
    · cases heq
    · have hlooser : Pending.negation.precedence < (Pending.operation o).precedence :=
        precedence_lt_of_mem_release h.tightens hkept
      exact absurd (Pending.operation o).precedence_le_three (Nat.not_le.mpr hlooser)
  enough := by
    have hvalues := h.valueCount_of_operator hexpected
    exact not_lacksOperand_release h.enough (by omega) o.precedence
  values := by
    -- The value that stood alone is now the first operand of the operation.
    have hvalues := h.valueCount_of_operator hexpected
    have hreleased := valueCount_release o.precedence y.output y.pending
    rw [if_neg (expectationAfter_ne_operator o), List.countP_cons_of_pos rfl]
    dsimp only
    omega

theorem IsOrderly.step {y y' : Yard} {t : Token} (h : y.IsOrderly)
    (hstep : y.step t = .ok y') : y'.IsOrderly := by
  cases takes_of_step hstep with
  | number x hexpected => exact h.number x hexpected
  | negation hexpected => exact h.negation hexpected
  | operation o hexpected => exact h.operation o hexpected

theorem IsOrderly.run {y y' : Yard} {tokens : List Token} (h : y.IsOrderly)
    (hrun : y.run tokens = .ok y') : y'.IsOrderly := by
  induction tokens generalizing y with
  | nil =>
      cases hrun
      exact h
  | cons t tokens ih =>
      rcases run_cons_eq_ok hrun with ⟨z, hstep, hrest⟩
      exact ih (h.step hstep) hrest

end Yard

open Expression

theorem exists_assembly {items : List Item} (henough : ¬ LacksOperand items) :
    exists s, Assembly.start.run items = .ok s ∧ valueCount items = s.stack.length := by
  rcases Assembly.run_cases items with ⟨hlacks, _⟩ | ⟨_, s, hrun, hholds⟩
  · exact absurd hlacks henough
  · exact ⟨s, hrun, hholds.valueCount_eq⟩

/--
After any tokens that the yard takes, its operations wait in the order of how
tightly they bind, and its output has a value for each binary one of them, besides
the value that an operator is to follow.
-/
theorem operations_wait_in_order (tokens : List Token) :
    forall front, front <+: tokens -> forall y, Yard.start.run front = .ok y ->
      (y.pending.reverse.Pairwise fun lower upper => lower.precedence < upper.precedence) ∧
      y.pending.length ≤ 3 ∧ .negation ∉ y.pending.tail ∧ y.pending.count .negation ≤ 1 ∧
      ¬ LacksOperand y.output.reverse ∧
      exists s, Assembly.start.run y.output.reverse = .ok s ∧
        s.stack.length = y.pending.countP Pending.isBinary +
          if y.expected = .operator then 1 else 0 := by
  intro front _ y hrun
  have horderly := Yard.isOrderly_start.run hrun
  have htightens := horderly.tightens
  have hnegations : y.pending.count .negation ≤ 1 :=
    List.nodup_iff_count_le_one.mp htightens.nodup .negation
  refine ⟨List.pairwise_reverse.mpr htightens, htightens.length_le_three,
    htightens.negation_not_mem_tail, hnegations, horderly.enough, ?_⟩
  rcases exists_assembly horderly.enough with ⟨s, hassembly, hcount⟩
  have hvalues := hcount.symm.trans horderly.values
  exact ⟨s, hassembly, Int.ofNat_inj.mp hvalues⟩

theorem operations_wait_in_order_negation :
    ofTokens [.number (.zero false), .operator .plus, .number .nan, .operator .times,
        .operator .minus, .operator .minus] = .error .doubleMinus ∧
    [Token.number (.zero false), .operator .plus, .number .nan, .operator .times,
        .operator .minus] <+:
      [.number (.zero false), .operator .plus, .number .nan, .operator .times,
        .operator .minus, .operator .minus] ∧
    Yard.start.run [.number (.zero false), .operator .plus, .number .nan, .operator .times,
        .operator .minus] =
      .ok ⟨[.number .nan, .number (.zero false)],
        [.negation, .operation .times, .operation .plus], .operandAfterMinus⟩ ∧
    ([.operation .plus, .operation .times, .negation].Pairwise fun lower upper : Pending =>
      lower.precedence < upper.precedence) ∧
    [Pending.negation, .operation .times, .operation .plus].length ≤ 3 ∧
    Pending.negation ∉ [.operation .times, .operation .plus] ∧
    [Pending.negation, .operation .times, .operation .plus].count .negation ≤ 1 ∧
    ¬ LacksOperand [.number (.zero false), .number .nan] ∧
    exists s, Assembly.start.run [.number (.zero false), .number .nan] = .ok s ∧
      s.stack.length = 2 :=
  have hfront : [Token.number (.zero false), .operator .plus, .number .nan, .operator .times,
      .operator .minus] <+:
      [.number (.zero false), .operator .plus, .number .nan, .operator .times,
        .operator .minus, .operator .minus] := ⟨[.operator .minus], rfl⟩
  ⟨rfl, hfront, rfl, operations_wait_in_order _ _ hfront _ rfl⟩

end Postfix

end PocketCalculator
