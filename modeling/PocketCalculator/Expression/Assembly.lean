import PocketCalculator.Error
import PocketCalculator.Expression.Arena
import PocketCalculator.Postfix.Basic

/-!
# From a postfix list to an arena

## Assembly

Each item of a postfix list adds one node.  A stack holds the places of the
nodes that are not yet operands of another; an operation takes its operands from
the stack and leaves itself there.  The list is coherent when no operation lacks
an operand and a single node is left.
-/

namespace PocketCalculator

namespace Expression

structure Assembly where
  arena : Arena
  /-- The places still to be used, latest first. -/
  stack : List Nat
  inArena : forall place, place ∈ stack -> place < arena.size

namespace Assembly

def start : Assembly :=
  ⟨.empty, [], by simp⟩

def add (arena : Arena) (stack : List Nat) (node : Node)
    (inArena : forall place, place ∈ stack -> place < arena.size)
    (h : node.UsesBefore arena.size) : Assembly :=
  let place := arena.size
  { stack := place :: stack
    arena := arena.push node h
    inArena := by
      intro other hother
      rw [Arena.size_push]
      cases hother with
      | head => omega
      | tail _ hrest =>
          have := inArena other hrest
          omega }

def step (s : Assembly) (item : Postfix.Item) : Except SyntaxError Assembly :=
  match item, s with
  | .number x, ⟨arena, stack, inArena⟩ =>
      .ok (add arena stack (.number x) inArena trivial)
  | .negate, ⟨arena, operand :: stack, inArena⟩ =>
      .ok (add arena stack (.negate operand)
        (fun place h => inArena place (.tail _ h))
        (inArena operand (.head _)))
  | .operator o, ⟨arena, right :: left :: stack, inArena⟩ =>
      .ok (add arena stack (.binary o left right)
        (fun place h => inArena place (.tail _ (.tail _ h)))
        ⟨inArena left (.tail _ (.head _)), inArena right (.head _)⟩)
  | _, _ => .error .missingOperand

def finish (s : Assembly) : Except SyntaxError Arena :=
  match s.stack with
  | [_] => .ok s.arena
  | _ => .error .invalidExpression

end Assembly

end Expression

namespace Arena

/-- The arena of the expression that a postfix list denotes. -/
def ofPostfix (items : List Postfix.Item) : Except SyntaxError Arena :=
  items.foldlM Expression.Assembly.step Expression.Assembly.start >>=
    Expression.Assembly.finish

end Arena

end PocketCalculator
