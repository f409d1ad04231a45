import Mathlib.Data.Nat.PSub
import PocketCalculator.Proofs.CheckedAccess
import PocketCalculator.Proofs.Coherence
import PocketCalculator.Proofs.Passes

/-!
# Nodes by places

## Assembly without guarantees

Nodes can be put into an array of which nothing is known, with a stack of places
that may lie anywhere.  Then a node could use a place that is not there yet, and a
pass could look up a result that was never computed.  Assembling a postfix list
leads to neither, because every place on the stack is that of an earlier node.
-/

namespace PocketCalculator

open Postfix Expression

namespace Node

/-- The node that an item adds and the places that it leaves on the stack. -/
def taking? : Item -> List Nat -> Option (Node × List Nat)
  | .number x, stack => some (number x, stack)
  | .negate, operand :: stack => some (negate operand, stack)
  | .operator o, right :: left :: stack => some (binary o left right, stack)
  | _, _ => none

theorem taking?_append (node : Node) (rest : List Nat) :
    taking? node.item (node.operands.reverse ++ rest) = some (node, rest) := by
  cases node with
  | number x => rfl
  | negate operand => rfl
  | binary o left right => rfl

theorem taking?_eq_none {item : Item} {stack : List Nat}
    (h : stack.length < item.needs) : taking? item stack = none := by
  cases item with
  | number x => exact absurd h (Nat.not_lt_zero _)
  | negate =>
      rcases List.length_eq_zero_iff.mp (Nat.lt_one_iff.mp h) with rfl
      rfl
  | operator o =>
      match stack, h with
      | [], _ => rfl
      | [_], _ => rfl
      | _ :: _ :: rest, h =>
          simp only [Item.needs, List.length_cons] at h
          omega

/-- Adds a node behind others, which must hold its operands, and gives its place. -/
def pushOnto? (nodes : Array Node) (node : Node) : Checked (Array Node × Nat) :=
  if node.UsesBefore nodes.size then
    (nodes.push node).size.ppred.map fun place => (nodes.push node, place)
  else none

theorem pushOnto?_eq {nodes : Array Node} {node : Node} (h : node.UsesBefore nodes.size) :
    pushOnto? nodes node = some (nodes.push node, nodes.size) := by
  rw [pushOnto?, if_pos h, Array.size_push, Nat.ppred_succ, Option.map_some]

def assembleOnto? (nodes : Array Node) (stack : List Nat) :
    List Item -> Checked (Except SyntaxError (Array Node))
  | [] =>
      match stack with
      | [_] => some (.ok nodes)
      | _ => some (.error .invalidExpression)
  | item :: items =>
      match taking? item stack with
      | none => some (.error .missingOperand)
      | some (node, rest) => do
          let (nodes, place) <- pushOnto? nodes node
          assembleOnto? nodes (place :: rest) items

end Node

namespace Expression

namespace Assembly

theorem run_cons_of_step {s s' : Assembly} {item : Item} (h : s.step item = .ok s')
    (items : List Item) : s.run (item :: items) = s'.run items :=
  run_append_of_run (run_singleton h) items

theorem run_cons_of_error {s : Assembly} {item : Item} {cause : SyntaxError}
    (h : s.step item = .error cause) (items : List Item) :
    s.run (item :: items) = .error cause := by
  unfold run
  rw [List.foldlM_cons, h]
  rfl

/-- From an assembly on, no node uses a place that is not there yet. -/
theorem assembleOnto?_eq (s : Assembly) (items : List Item) :
    Node.assembleOnto? s.arena.nodes s.stack items =
      some ((s.run items >>= finish).map Arena.nodes) := by
  induction items generalizing s with
  | nil =>
      rcases s with ⟨arena, stack, inArena⟩
      match stack with
      | [] => rfl
      | [_] => rfl
      | _ :: _ :: _ => rfl
  | cons item items ih =>
      rcases s.step_cases item with
        ⟨hfew, hstep⟩ | ⟨s', node, rest, hstep, rfl, htaken, hstack, hnodes⟩
      · rw [run_cons_of_error hstep, Node.assembleOnto?, Node.taking?_eq_none hfew]
        rfl
      · -- The next arena holds the node, so the operands stand before it.
        have huses : node.UsesBefore s.arena.nodes.size :=
          Arena.usesBefore_of_getElem? (Arena.getElem?_last hnodes)
        have hplaces : s.arena.nodes.size :: rest = s'.stack := hstack.symm
        rw [run_cons_of_step hstep, ← ih s', Node.assembleOnto?, htaken, Node.taking?_append]
        simp only [Node.pushOnto?_eq huses, Option.bind_eq_bind, Option.bind_some]
        rw [hplaces, hnodes]

end Assembly

end Expression

namespace Node

/-!
## Reading the nodes

A pass looks up what it has computed for the operands of each node.
-/

def assemble? (items : List Item) : Checked (Except SyntaxError (Array Node)) :=
  assembleOnto? #[] [] items

theorem assemble?_eq (items : List Item) :
    assemble? items = some ((Arena.ofPostfix items).map Arena.nodes) :=
  Assembly.start.assembleOnto?_eq items

def pass? {α : Type} (r : Arena.Reading α) (nodes : Array Node) : Checked (Array α) :=
  nodes.foldlM (fun done node => (r.node? done node).map done.push) #[]

def value? (nodes : Array Node) : Checked (Option Binary64) :=
  (pass? Arena.valueReading nodes).map Array.back?

def text? (nodes : Array Node) : Checked Text :=
  (pass? Arena.textReading nodes).map fun done => (done.back?.map Rope.text).getD []

theorem value?_nodes (a : Arena) : value? a.nodes = some a.value? := by
  rcases Arena.exists_pass? Arena.valueReading a with ⟨done, hdone, _⟩
  have hpass : pass? Arena.valueReading a.nodes = some done := hdone
  rw [value?, hpass, Arena.value?, Arena.root?, hdone]
  rfl

theorem text?_nodes (a : Arena) : text? a.nodes = some a.text := by
  rcases Arena.exists_pass? Arena.textReading a with ⟨done, hdone, _⟩
  have hpass : pass? Arena.textReading a.nodes = some done := hdone
  rw [text?, hpass, Arena.text, Arena.root?, hdone]
  rfl

def assembleAndRead? (items : List Item) :
    Checked (Except SyntaxError (Text × Option Binary64)) := do
  match <- assemble? items with
  | .error cause => some (.error cause)
  | .ok nodes =>
      let text <- text? nodes
      let value <- value? nodes
      some (.ok (text, value))

theorem assembleAndRead?_eq (items : List Item) :
    assembleAndRead? items =
      some ((Arena.ofPostfix items).map fun a => (a.text, a.value?)) := by
  rw [assembleAndRead?, assemble?_eq]
  cases Arena.ofPostfix items with
  | error cause => rfl
  | ok a =>
      simp only [Except.map, Option.bind_eq_bind, Option.bind_some, text?_nodes, value?_nodes]

end Node

end PocketCalculator
