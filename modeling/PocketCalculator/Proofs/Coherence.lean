import Mathlib.Data.List.Forall2
import Mathlib.Data.List.Induction
import Mathlib.Data.List.Nodup
import PocketCalculator.Proofs.Unfolding

/-!
# Coherent postfix lists

## Counting values

Read from the left, each item of a postfix list takes the values it needs and
leaves one.  How many values there are after some items is therefore a matter of
counting, and a list is coherent when no item needs more than there are and one
value is left at the end.
-/

namespace PocketCalculator

namespace Postfix

namespace Item

def needs : Item -> Nat
  | number _ => 0
  | negate => 1
  | operator _ => 2

end Item

/-- How many values there are after the items, if none of them lacks one. -/
def valueCount : List Item -> Int
  | [] => 0
  | item :: items => 1 - item.needs + valueCount items

theorem valueCount_append (first second : List Item) :
    valueCount (first ++ second) = valueCount first + valueCount second := by
  induction first with
  | nil => simp [valueCount]
  | cons item first ih =>
      rw [List.cons_append, valueCount, valueCount, ih]
      omega

/-- Some item needs more values than there are before it. -/
def LacksOperand (items : List Item) : Prop :=
  exists before item after, items = before ++ item :: after ∧
    valueCount before < item.needs

theorem not_lacksOperand_nil : ¬ LacksOperand [] := by
  rintro ⟨before, item, after, hitems, _⟩
  simp at hitems

theorem LacksOperand.append {first : List Item} (h : LacksOperand first)
    (second : List Item) : LacksOperand (first ++ second) := by
  rcases h with ⟨before, item, after, rfl, hlacks⟩
  exact ⟨before, item, after ++ second, by simp, hlacks⟩

theorem lacksOperand_concat (items : List Item) (item : Item) :
    LacksOperand (items ++ [item]) <->
      LacksOperand items ∨ valueCount items < item.needs := by
  constructor
  · rintro ⟨before, other, after, hitems, hlacks⟩
    rcases List.eq_nil_or_concat after with rfl | ⟨between, last, rfl⟩
    · rcases List.append_inj' hitems rfl with ⟨rfl, hitem⟩
      cases hitem
      exact .inr hlacks
    · rw [List.concat_eq_append, ← List.cons_append, ← List.append_assoc] at hitems
      rcases List.append_inj' hitems rfl with ⟨rfl, _⟩
      exact .inl ⟨before, other, between, rfl, hlacks⟩
  · rintro (hlacks | hlacks)
    · exact hlacks.append [item]
    · exact ⟨items, item, [], rfl, hlacks⟩

end Postfix

open Postfix

namespace Node

def operands : Node -> List Nat
  | number _ => []
  | negate operand => [operand]
  | binary _ left right => [left, right]

def item : Node -> Item
  | number x => .number x
  | negate _ => .negate
  | binary o _ _ => .operator o

theorem length_operands (node : Node) : node.operands.length = node.item.needs := by
  cases node with
  | number x => rfl
  | negate operand => rfl
  | binary o left right => rfl

theorem UsesBefore.lt_of_mem {place operand : Nat} {node : Node}
    (h : node.UsesBefore place) (hoperand : operand ∈ node.operands) : operand < place := by
  cases node with
  | number x => simp [operands] at hoperand
  | negate only =>
      rcases List.mem_singleton.mp hoperand with rfl
      exact h
  | binary o left right =>
      simp only [operands, List.mem_cons, List.not_mem_nil, or_false] at hoperand
      rcases hoperand with rfl | rfl
      · exact h.1
      · exact h.2

end Node

namespace Arena

def items (a : Arena) : List Item :=
  a.nodes.toList.map Node.item

/-- All uses of places, node by node. -/
def uses (a : Arena) : List Nat :=
  a.nodes.toList.flatMap Node.operands

theorem items_of_nodes {a b : Arena} {node : Node} (h : b.nodes = a.nodes.push node) :
    b.items = a.items ++ [node.item] := by
  simp [items, h]

theorem uses_of_nodes {a b : Arena} {node : Node} (h : b.nodes = a.nodes.push node) :
    b.uses = a.uses ++ node.operands := by
  simp [uses, h]

/-- Every node is a value, and every use of a place takes one. -/
theorem valueCount_nodes (nodes : List Node) :
    valueCount (nodes.map Node.item) = nodes.length - (nodes.flatMap Node.operands).length := by
  induction nodes with
  | nil => rfl
  | cons node nodes ih =>
      rw [List.map_cons, valueCount, ih, List.flatMap_cons, List.length_append,
        node.length_operands, List.length_cons]
      omega

theorem valueCount_items (a : Arena) : valueCount a.items = a.size - a.uses.length :=
  valueCount_nodes a.nodes.toList

/-- The arena holds one node for each item and uses each node but the last once. -/
structure Arranges (a : Arena) (items : List Item) : Prop where
  /-- The nodes come from the items, each from that at its own place. -/
  items_eq : a.items = items
  operand_lt : forall (place : Nat) (node : Node) (operand : Nat),
    a.nodes[place]? = some node -> operand ∈ node.operands -> operand < place
  used_once : forall place, place + 1 < a.size -> a.uses.count place = 1
  listing : exists t, a.Represents t ∧ t.listing = items

end Arena

namespace Expression

namespace Assembly

/-!
## One step

An item finds too few places on the stack, or it takes as many as it needs and
leaves the place of its node.
-/

theorem step_cases (s : Assembly) (item : Item) :
    (s.stack.length < item.needs ∧ s.step item = .error .missingOperand) ∨
      exists s' node rest, s.step item = .ok s' ∧ node.item = item ∧
        s.stack = node.operands.reverse ++ rest ∧ s'.stack = s.arena.size :: rest ∧
        s'.arena.nodes = s.arena.nodes.push node := by
  cases item with
  | number x =>
      rcases s.step_number x with ⟨s', hstep, hstack, hnodes⟩
      exact .inr ⟨s', _, s.stack, hstep, rfl, rfl, hstack, hnodes⟩
  | negate =>
      cases hplaces : s.stack with
      | nil =>
          cases s
          cases hplaces
          exact .inl ⟨Nat.zero_lt_one, rfl⟩
      | cons operand rest =>
          rcases step_negate hplaces with ⟨s', hstep, hstack, hnodes⟩
          exact .inr ⟨s', _, rest, hstep, rfl, rfl, hstack, hnodes⟩
  | operator o =>
      match hplaces : s.stack with
      | [] =>
          cases s
          cases hplaces
          exact .inl ⟨Nat.zero_lt_two, rfl⟩
      | [_] =>
          cases s
          cases hplaces
          exact .inl ⟨Nat.one_lt_two, rfl⟩
      | right :: left :: rest =>
          rcases step_operator o hplaces with ⟨s', hstep, hstack, hnodes⟩
          exact .inr ⟨s', _, rest, hstep, rfl, rfl, hstack, hnodes⟩

/-!
## What an assembly keeps

After some items the arena holds a node for each of them.  Every place is used
by a node or waits on the stack, and once only.  The waiting places stand for
trees whose listings, put together, are the items.
-/

structure Holds (s : Assembly) (items : List Item) : Prop where
  items_eq : s.arena.items = items
  places : (s.arena.uses ++ s.stack).Perm (List.range s.arena.size)
  top : forall place, s.stack.head? = some place -> place + 1 = s.arena.size
  trees : exists trees, List.Forall₂ s.arena.Unfolds s.stack trees ∧
    trees.reverse.flatMap Tree.listing = items

theorem holds_start : start.Holds [] where
  items_eq := rfl
  places := .refl _
  top := by simp [start]
  trees := ⟨[], .nil, rfl⟩

theorem Holds.valueCount_eq {s : Assembly} {items : List Item} (h : s.Holds items) :
    valueCount items = s.stack.length := by
  have hlength := h.places.length_eq
  rw [List.length_append, List.length_range] at hlength
  rw [← h.items_eq, Arena.valueCount_items]
  omega

/-- A node on top of the trees that wait gives one tree more, made of its operands. -/
theorem exists_trees_push {a b : Arena} {node : Node} {rest : List Nat} {trees : List Tree}
    (hnodes : b.nodes = a.nodes.push node)
    (htrees : List.Forall₂ a.Unfolds (node.operands.reverse ++ rest) trees) :
    exists trees', List.Forall₂ b.Unfolds (a.size :: rest) trees' ∧
      trees'.reverse.flatMap Tree.listing =
        trees.reverse.flatMap Tree.listing ++ [node.item] := by
  have hkept := Arena.extends_of_nodes hnodes
  have hlast := Arena.getElem?_last hnodes
  have hgrown : List.Forall₂ b.Unfolds (node.operands.reverse ++ rest) trees :=
    htrees.imp fun _ _ ht => ht.of_extends hkept
  cases node with
  | number x =>
      refine ⟨.number x :: trees, .cons (.number hlast) hgrown, ?_⟩
      simp [Tree.listing, Node.item]
  | negate operand =>
      rcases List.forall₂_cons_left_iff.mp hgrown with ⟨t, trees', ht, hrest, rfl⟩
      refine ⟨.negate t :: trees', .cons (.negate hlast ht) hrest, ?_⟩
      simp [Tree.listing, Node.item]
  | binary o left right =>
      rcases List.forall₂_cons_left_iff.mp hgrown with ⟨u, trees', hu, hothers, rfl⟩
      rcases List.forall₂_cons_left_iff.mp hothers with ⟨t, trees'', ht, hrest, rfl⟩
      refine ⟨.binary o t u :: trees'', .cons (.binary hlast ht hu) hrest, ?_⟩
      simp [Tree.listing, Node.item]

theorem Holds.push {s s' : Assembly} {items : List Item} {node : Node} {rest : List Nat}
    (h : s.Holds items) (htaken : s.stack = node.operands.reverse ++ rest)
    (hstack : s'.stack = s.arena.size :: rest)
    (hnodes : s'.arena.nodes = s.arena.nodes.push node) :
    s'.Holds (items ++ [node.item]) := by
  have hsize := Arena.size_of_nodes hnodes
  constructor
  · rw [Arena.items_of_nodes hnodes, h.items_eq]
  · -- The operands go from the stack to the uses, and the new place is the last one.
    have hbefore : (s.arena.uses ++ node.operands ++ rest).Perm
        (List.range s.arena.size) := by
      refine List.Perm.trans ?_ h.places
      rw [htaken, List.append_assoc]
      exact ((List.reverse_perm _).symm.append_right rest).append_left _
    have hmoved : (s.arena.uses ++ node.operands ++ s.arena.size :: rest).Perm
        (s.arena.uses ++ node.operands ++ rest ++ [s.arena.size]) :=
      List.perm_middle.trans (List.perm_append_singleton _ _).symm
    rw [Arena.uses_of_nodes hnodes, hstack, hsize, List.range_succ]
    exact hmoved.trans (hbefore.append_right _)
  · intro place hplace
    rw [hstack] at hplace
    cases hplace
    exact hsize.symm
  · rcases h.trees with ⟨trees, htrees, hlisting⟩
    rw [htaken] at htrees
    rcases exists_trees_push hnodes htrees with ⟨trees', htrees', hlisting'⟩
    refine ⟨trees', ?_, ?_⟩
    · rw [hstack]
      exact htrees'
    · rw [hlisting', hlisting]

theorem run_concat_of_run {s s' : Assembly} {items : List Item} (h : s.run items = .ok s')
    (item : Item) : s.run (items ++ [item]) = s'.step item := by
  rw [run_append_of_run h]
  unfold run
  rw [List.foldlM_cons]
  cases s'.step item with
  | error cause => rfl
  | ok z => rfl

theorem run_append_of_error {s : Assembly} {first : List Item} {cause : SyntaxError}
    (h : s.run first = .error cause) (second : List Item) :
    s.run (first ++ second) = .error cause := by
  unfold run at h ⊢
  rw [List.foldlM_append, h]
  rfl

theorem run_cases (items : List Item) :
    (LacksOperand items ∧ start.run items = .error .missingOperand) ∨
      (¬ LacksOperand items ∧ exists s, start.run items = .ok s ∧ s.Holds items) := by
  induction items using List.reverseRecOn with
  | nil => exact .inr ⟨not_lacksOperand_nil, start, rfl, holds_start⟩
  | append_singleton items item ih =>
      -- Whether the last item lacks a value is seen from the stack after the others.
      rcases ih with ⟨hlacks, hrun⟩ | ⟨henough, s, hrun, hholds⟩
      · refine .inl ⟨(lacksOperand_concat items item).mpr (.inl hlacks), ?_⟩
        exact run_append_of_error hrun [item]
      · rw [run_concat_of_run hrun, lacksOperand_concat, hholds.valueCount_eq]
        rcases s.step_cases item with
          ⟨hfew, hstep⟩ | ⟨s', node, rest, hstep, rfl, htaken, hstack, hnodes⟩
        · exact .inl ⟨.inr (by omega), hstep⟩
        · have hneeds : node.item.needs ≤ s.stack.length := by
            rw [htaken, List.length_append, List.length_reverse, node.length_operands]
            omega
          refine .inr ⟨?_, s', hstep, hholds.push htaken hstack hnodes⟩
          rintro (hlacks | hfew)
          · exact henough hlacks
          · omega

end Assembly

end Expression

open Expression

namespace Arena

/-!
## What is assembled

A run that reaches the end with one place on the stack has used all other places.
-/

theorem ofPostfix_eq (items : List Item) :
    ofPostfix items = Assembly.start.run items >>= Assembly.finish := rfl

theorem arranges_of_holds {s : Assembly} {items : List Item} {root : Nat}
    (h : s.Holds items) (hstack : s.stack = [root]) : s.arena.Arranges items := by
  have hroot : root + 1 = s.arena.size := by
    apply h.top
    rw [hstack]
    rfl
  constructor
  · exact h.items_eq
  · intro place node operand hnode hoperand
    exact (usesBefore_of_getElem? hnode).lt_of_mem hoperand
  · intro place hplace
    have hcount := h.places.count_eq place
    have hother : root ≠ place := by
      omega
    have honce : (List.range s.arena.size).count place = 1 :=
      List.count_eq_one_of_mem List.nodup_range (List.mem_range.mpr (by omega))
    rw [hstack, List.count_append, List.count_singleton, honce] at hcount
    simpa [hother] using hcount
  · rcases h.trees with ⟨trees, htrees, hlisting⟩
    rw [hstack] at htrees
    rcases List.forall₂_cons_left_iff.mp htrees with ⟨t, others, ht, hothers, rfl⟩
    cases hothers
    refine ⟨t, ?_, by simpa using hlisting⟩
    unfold Represents
    rw [← hroot]
    exact ht

/-- The three things that can come of a postfix list, told apart by counting. -/
theorem ofPostfix_cases (items : List Item) :
    (LacksOperand items ∧ ofPostfix items = .error .missingOperand) ∨
      (¬ LacksOperand items ∧ valueCount items ≠ 1 ∧
        ofPostfix items = .error .invalidExpression) ∨
      (¬ LacksOperand items ∧ valueCount items = 1 ∧
        exists a, ofPostfix items = .ok a ∧ a.Arranges items) := by
  rcases Assembly.run_cases items with ⟨hlacks, hrun⟩ | ⟨henough, s, hrun, hholds⟩
  · refine .inl ⟨hlacks, ?_⟩
    rw [ofPostfix_eq, hrun]
    rfl
  · have hfinish : ofPostfix items = s.finish := by
      rw [ofPostfix_eq, hrun]
      rfl
    rw [hfinish, hholds.valueCount_eq]
    unfold Assembly.finish
    match hstack : s.stack with
    | [] => exact .inr (.inl ⟨henough, by simp, rfl⟩)
    | [root] =>
        have harranges := arranges_of_holds hholds hstack
        exact .inr (.inr ⟨henough, by simp, s.arena, rfl, harranges⟩)
    | first :: second :: rest =>
        refine .inr (.inl ⟨henough, ?_, rfl⟩)
        rw [List.length_cons, List.length_cons]
        omega

/--
Whether a postfix list is coherent is decided by counting values.  Of a coherent
list the arena keeps the items in their order and makes a tree of them whose
listing they are, and the listing of any tree is coherent.
-/
theorem ofPostfix_decides_coherence (items : List Item) :
    (ofPostfix items = .error .missingOperand <-> LacksOperand items) ∧
    (ofPostfix items = .error .invalidExpression <->
      ¬ LacksOperand items ∧ valueCount items ≠ 1) ∧
    ((exists a, ofPostfix items = .ok a ∧ a.Arranges items) <->
      ¬ LacksOperand items ∧ valueCount items = 1) ∧
    forall t, exists a, ofPostfix t.listing = .ok a ∧ a.Represents t := by
  have htrees : forall t, exists a, ofPostfix t.listing = .ok a ∧ a.Represents t := by
    intro t
    rcases ofPostfix_listing t with ⟨a, harena, _, htree⟩
    exact ⟨a, harena, htree⟩
  rcases ofPostfix_cases items with
    ⟨hlacks, herror⟩ | ⟨henough, hcount, herror⟩ | ⟨henough, hcount, a, harena, harranges⟩
  · rw [herror]
    simp [hlacks, htrees]
  · rw [herror]
    simp [henough, hcount, htrees]
  · rw [harena]
    simp [henough, hcount, htrees, harranges]

end Arena

end PocketCalculator
