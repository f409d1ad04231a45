import PocketCalculator.Error
import PocketCalculator.Postfix.Basic

/-!
# From tokens to a postfix list

## The yard

The tokens pass through a yard one by one.  Numbers go straight to the output;
an operation waits in the yard until one arrives that binds no tighter.  What
the yard expects next decides how a sign is understood: a minus sign where an
operand is due negates that operand, and it binds tighter than every binary
operation.  Two minus signs in a row are never accepted.
-/

namespace PocketCalculator

namespace Postfix

/-- An operation that waits for its last operand. -/
inductive Pending where
  | negation
  | operation (o : Operator)
deriving DecidableEq

namespace Pending

def precedence : Pending -> Nat
  | negation => 3
  | operation o => o.precedence

def item : Pending -> Item
  | negation => Item.negate
  | operation o => Item.operator o

end Pending

inductive Expectation where
  | operand
  /-- An operand is due, and the token before was a minus sign. -/
  | operandAfterMinus
  | operator
deriving DecidableEq

/-- The output is kept latest item first, the waiting operations latest first. -/
structure Yard where
  output : List Item
  pending : List Pending
  expected : Expectation
deriving DecidableEq

namespace Yard

def start : Yard :=
  ⟨[], [], .operand⟩

/-- Moves waiting operations to the output while they bind at least as tightly. -/
def release (precedence : Nat) :
    List Item -> List Pending -> List Item × List Pending
  | output, [] => (output, [])
  | output, p :: pending =>
      if precedence ≤ p.precedence then
        release precedence (p.item :: output) pending
      else (output, p :: pending)

theorem release_items (precedence : Nat) (output : List Item) (pending : List Pending) :
    (release precedence output pending).1.reverse ++
        (release precedence output pending).2.map Pending.item =
      output.reverse ++ pending.map Pending.item := by
  induction pending generalizing output with
  | nil => rfl
  | cons p pending ih =>
      unfold release
      split
      · rw [ih]
        simp
      · rfl

/-- What stays in the yard at the top binds less tightly. -/
theorem precedence_lt_of_release (precedence : Nat) (output : List Item)
    (pending : List Pending) {p : Pending} {rest : List Pending}
    (h : (release precedence output pending).2 = p :: rest) :
    p.precedence < precedence := by
  induction pending generalizing output with
  | nil => cases h
  | cons q pending ih =>
      unfold release at h
      split at h
      · exact ih _ h
      · cases h
        omega

def expectationAfter : Operator -> Expectation
  | .minus => .operandAfterMinus
  | _ => .operand

def takeNumber (y : Yard) (x : Binary64) : Except SyntaxError Yard :=
  match y.expected with
  | .operator => .error .missingOperator
  | _ => .ok ⟨Item.number x :: y.output, y.pending, .operator⟩

def takeOperator (y : Yard) (o : Operator) : Except SyntaxError Yard :=
  match y.expected, o with
  | .operandAfterMinus, .minus => .error .doubleMinus
  | .operand, .minus => .ok ⟨y.output, .negation :: y.pending, .operandAfterMinus⟩
  | .operator, _ =>
      let released := release o.precedence y.output y.pending
      .ok ⟨released.1, .operation o :: released.2, expectationAfter o⟩
  | _, _ => .error .missingOperand

def step (y : Yard) : Token -> Except SyntaxError Yard
  | .number x => y.takeNumber x
  | .operator o => y.takeOperator o

def finish (y : Yard) : Except SyntaxError (List Item) :=
  match y.expected with
  | .operator => .ok (y.output.reverse ++ y.pending.map Pending.item)
  | _ => .error .missingOperand

end Yard

def ofTokens (tokens : List Token) : Except SyntaxError (List Item) :=
  tokens.foldlM Yard.step Yard.start >>= Yard.finish

end Postfix

end PocketCalculator
