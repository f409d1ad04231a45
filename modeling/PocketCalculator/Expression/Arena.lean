import PocketCalculator.Expression.Tree
import PocketCalculator.Text.Rope

/-!
# Arenas

## Nodes in order

An arena holds the nodes of an expression in an array.  A node names its
operands by their places in the array, and an operand always stands before the
node that uses it, so one pass over the array reaches every node after its
operands.  A node may be used more than once or not at all; the last node is the
root.
-/

namespace PocketCalculator

inductive Node where
  | number (x : Binary64)
  | negate (operand : Nat)
  | binary (o : Operator) (left right : Nat)
deriving DecidableEq

namespace Node

/-- Every operand of the node stands before the given place. -/
def UsesBefore (place : Nat) : Node -> Prop
  | number _ => True
  | negate operand => operand < place
  | binary _ left right => left < place ∧ right < place

instance (place : Nat) (node : Node) : Decidable (node.UsesBefore place) :=
  match node with
  | number _ => inferInstanceAs (Decidable True)
  | negate operand => inferInstanceAs (Decidable (operand < place))
  | binary _ left right => inferInstanceAs (Decidable (left < place ∧ right < place))

end Node

structure Arena where
  nodes : Array Node
  usesBefore : forall (place : Nat) (h : place < nodes.size),
    nodes[place].UsesBefore place

namespace Arena

def empty : Arena :=
  ⟨#[], fun _ h => absurd h (Nat.not_lt_zero _)⟩

def size (a : Arena) : Nat :=
  a.nodes.size

def push (a : Arena) (node : Node) (h : node.UsesBefore a.size) : Arena where
  nodes := a.nodes.push node
  usesBefore := by
    intro place hplace
    rw [Array.getElem_push]
    split
    · exact a.usesBefore place _
    · rename_i hlast
      have place_eq : place = a.nodes.size := by
        rw [Array.size_push] at hplace
        omega
      exact place_eq ▸ h

@[simp] theorem size_empty : empty.size = 0 := rfl

@[simp] theorem size_push (a : Arena) (node : Node) (h : node.UsesBefore a.size) :
    (a.push node h).size = a.size + 1 :=
  Array.size_push node

/-!
## One pass

A pass computes something for every node from what it has computed for the
node's operands.
-/

structure Reading (α : Type) where
  number : Binary64 -> α
  negate : α -> α
  binary : Operator -> α -> α -> α

/-- The result for one node, from the results for the nodes before it. -/
def Reading.node? {α : Type} (r : Reading α) (done : Array α) : Node -> Option α
  | .number x => some (r.number x)
  | .negate operand => done[operand]?.map r.negate
  | .binary o left right =>
      match done[left]?, done[right]? with
      | some x, some y => some (r.binary o x y)
      | _, _ => none

def pass? {α : Type} (r : Reading α) (a : Arena) : Option (Array α) :=
  a.nodes.foldlM (fun done node => (r.node? done node).map done.push) #[]

def root? {α : Type} (r : Reading α) (a : Arena) : Option α :=
  (a.pass? r).bind Array.back?

def valueReading : Reading Binary64 where
  number := id
  negate := Binary64.neg
  binary := Operator.apply

def textReading : Reading Rope where
  number := fun x => .leaf x.plain
  negate := fun operand => .leaf ['(', '-'] ++ operand ++ .leaf [')']
  binary := fun o left right =>
    .leaf ['('] ++ left ++ .leaf [' ', o.symbol, ' '] ++ right ++ .leaf [')']

def value? (a : Arena) : Option Binary64 :=
  a.root? valueReading

def text (a : Arena) : Text :=
  ((a.root? textReading).map Rope.text).getD []

end Arena

end PocketCalculator
