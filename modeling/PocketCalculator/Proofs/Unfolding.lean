import PocketCalculator.Expression.Assembly
import PocketCalculator.Proofs.Yard

/-!
# The trees in an arena

## Unfolding a place

A place of an arena stands for the tree that its node and the nodes below it
make up.  As every operand stands before its node, each place of an arena
unfolds to exactly one tree.
-/

namespace PocketCalculator

namespace Arena

inductive Unfolds (a : Arena) : Nat -> Tree -> Prop where
  | number {place : Nat} {x : Binary64} :
      a.nodes[place]? = some (.number x) -> Unfolds a place (.number x)
  | negate {place operand : Nat} {t : Tree} :
      a.nodes[place]? = some (.negate operand) -> Unfolds a operand t ->
      Unfolds a place (.negate t)
  | binary {place left right : Nat} {o : Operator} {t u : Tree} :
      a.nodes[place]? = some (.binary o left right) -> Unfolds a left t ->
      Unfolds a right u -> Unfolds a place (.binary o t u)

def Represents (a : Arena) (t : Tree) : Prop :=
  a.Unfolds (a.size - 1) t

theorem usesBefore_of_getElem? {a : Arena} {place : Nat} {node : Node}
    (h : a.nodes[place]? = some node) : node.UsesBefore place := by
  rcases Array.getElem?_eq_some_iff.mp h with ⟨hplace, rfl⟩
  exact a.usesBefore place hplace

theorem exists_unfolds (a : Arena) (place : Nat) (h : place < a.size) :
    exists t, a.Unfolds place t := by
  induction place using Nat.strongRecOn with
  | ind place ih =>
      have hnode : a.nodes[place]? = some a.nodes[place] := Array.getElem?_eq_getElem h
      have huses := a.usesBefore place h
      cases hkind : a.nodes[place] with
      | number x =>
          rw [hkind] at hnode
          exact ⟨_, Unfolds.number hnode⟩
      | negate operand =>
          rw [hkind] at hnode huses
          have hoperand : operand < place := huses
          rcases ih operand hoperand (Nat.lt_trans hoperand h) with ⟨t, ht⟩
          exact ⟨_, Unfolds.negate hnode ht⟩
      | binary o left right =>
          rw [hkind] at hnode huses
          rcases huses with ⟨hleft, hright⟩
          rcases ih left hleft (Nat.lt_trans hleft h) with ⟨t, ht⟩
          rcases ih right hright (Nat.lt_trans hright h) with ⟨u, hu⟩
          exact ⟨_, Unfolds.binary hnode ht hu⟩

theorem Unfolds.unique {a : Arena} {place : Nat} {t u : Tree} (ht : a.Unfolds place t)
    (hu : a.Unfolds place u) : t = u := by
  induction ht generalizing u with
  | number hnode =>
      cases hu with
      | number hother =>
          cases hnode.symm.trans hother
          rfl
      | negate hother _ => cases hnode.symm.trans hother
      | binary hother _ _ => cases hnode.symm.trans hother
  | negate hnode _ ih =>
      cases hu with
      | number hother => cases hnode.symm.trans hother
      | negate hother hoperand =>
          cases hnode.symm.trans hother
          rw [ih hoperand]
      | binary hother _ _ => cases hnode.symm.trans hother
  | binary hnode _ _ ihleft ihright =>
      cases hu with
      | number hother => cases hnode.symm.trans hother
      | negate hother _ => cases hnode.symm.trans hother
      | binary hother hleft hright =>
          cases hnode.symm.trans hother
          rw [ihleft hleft, ihright hright]

/-!
## Growing an arena

An arena that keeps all nodes of another keeps its trees.
-/

def Extends (a b : Arena) : Prop :=
  forall (place : Nat) (node : Node),
    a.nodes[place]? = some node -> b.nodes[place]? = some node

theorem Extends.trans {a b c : Arena} (hab : a.Extends b) (hbc : b.Extends c) :
    a.Extends c :=
  fun place node h => hbc place node (hab place node h)

theorem extends_of_nodes {a b : Arena} {node : Node} (h : b.nodes = a.nodes.push node) :
    a.Extends b := by
  intro place other hother
  rcases Array.getElem?_eq_some_iff.mp hother with ⟨hplace, _⟩
  rw [h, Array.getElem?_push_lt hplace, ← hother, Array.getElem?_eq_getElem hplace]

theorem Unfolds.of_extends {a b : Arena} (h : a.Extends b) {place : Nat} {t : Tree}
    (ht : a.Unfolds place t) : b.Unfolds place t := by
  induction ht with
  | number hnode => exact Unfolds.number (h _ _ hnode)
  | negate hnode _ ih => exact Unfolds.negate (h _ _ hnode) ih
  | binary hnode _ _ ihleft ihright => exact Unfolds.binary (h _ _ hnode) ihleft ihright

theorem getElem?_last {a b : Arena} {node : Node} (h : b.nodes = a.nodes.push node) :
    b.nodes[a.size]? = some node := by
  rw [h]
  exact Array.getElem?_push_size

theorem size_of_nodes {a b : Arena} {node : Node} (h : b.nodes = a.nodes.push node) :
    b.size = a.size + 1 := by
  unfold size
  rw [h, Array.size_push]

end Arena

namespace Expression

open Postfix

namespace Assembly

/-!
## Assembling the listing of a tree

Each step adds one node.  Over the listing of a tree the steps leave one more
place on the stack, that of the last node, and it unfolds to the tree.
-/

theorem step_number (s : Assembly) (x : Binary64) :
    exists s', s.step (.number x) = .ok s' ∧ s'.stack = s.arena.size :: s.stack ∧
      s'.arena.nodes = s.arena.nodes.push (.number x) := by
  cases s with
  | mk arena stack inArena => exact ⟨_, rfl, rfl, rfl⟩

theorem step_negate {s : Assembly} {operand : Nat} {stack : List Nat}
    (h : s.stack = operand :: stack) :
    exists s', s.step .negate = .ok s' ∧ s'.stack = s.arena.size :: stack ∧
      s'.arena.nodes = s.arena.nodes.push (.negate operand) := by
  cases s with
  | mk arena places inArena =>
      cases h
      exact ⟨_, rfl, rfl, rfl⟩

theorem step_operator {s : Assembly} (o : Operator) {left right : Nat} {stack : List Nat}
    (h : s.stack = right :: left :: stack) :
    exists s', s.step (.operator o) = .ok s' ∧ s'.stack = s.arena.size :: stack ∧
      s'.arena.nodes = s.arena.nodes.push (.binary o left right) := by
  cases s with
  | mk arena places inArena =>
      cases h
      exact ⟨_, rfl, rfl, rfl⟩

/-- The assembly after a tree has been put on top of another assembly. -/
structure Adds (s s' : Assembly) (t : Tree) : Prop where
  size : s'.arena.size = s.arena.size + t.listing.length
  stack : s'.stack = (s'.arena.size - 1) :: s.stack
  kept : s.arena.Extends s'.arena
  unfolds : s'.arena.Represents t

/-- One more node on top of what has been added gives the tree that it unfolds to. -/
theorem Adds.push {s s₁ s' : Assembly} {t : Tree} {node : Node}
    (hsize : s₁.arena.size + 1 = s.arena.size + t.listing.length)
    (hkept : s.arena.Extends s₁.arena)
    (hstack : s'.stack = s₁.arena.size :: s.stack)
    (hnodes : s'.arena.nodes = s₁.arena.nodes.push node)
    (hunfolds : s'.arena.Unfolds s₁.arena.size t) : s.Adds s' t := by
  have hgrown := Arena.size_of_nodes hnodes
  have hlast : s'.arena.size - 1 = s₁.arena.size := by
    omega
  constructor
  · exact hgrown.trans hsize
  · rw [hlast, hstack]
  · exact hkept.trans (Arena.extends_of_nodes hnodes)
  · unfold Arena.Represents
    rw [hlast]
    exact hunfolds

def run (s : Assembly) (items : List Item) : Except SyntaxError Assembly :=
  items.foldlM step s

theorem run_append_of_run {s s' : Assembly} {first : List Item}
    (h : s.run first = .ok s') (second : List Item) :
    s.run (first ++ second) = s'.run second := by
  unfold run at h ⊢
  rw [List.foldlM_append, h]
  rfl

theorem run_singleton {s s' : Assembly} {item : Item} (h : s.step item = .ok s') :
    s.run [item] = .ok s' := by
  unfold run
  rw [List.foldlM_cons, h]
  rfl

theorem run_listing (t : Tree) (s : Assembly) :
    exists s', s.run t.listing = .ok s' ∧ s.Adds s' t := by
  induction t generalizing s with
  | number x =>
      rcases s.step_number x with ⟨s', hstep, hstack, hnodes⟩
      refine ⟨s', run_singleton hstep, ?_⟩
      have hsame : s.arena.Extends s.arena := fun _ _ hnode => hnode
      exact Adds.push rfl hsame hstack hnodes
        (Arena.Unfolds.number (Arena.getElem?_last hnodes))
  | negate operand ih =>
      rcases ih s with ⟨s₁, hrun, hadds⟩
      rcases step_negate hadds.stack with ⟨s', hstep, hstack, hnodes⟩
      have hkept := Arena.extends_of_nodes hnodes
      have hsize : s₁.arena.size + 1 =
          s.arena.size + (Tree.negate operand).listing.length := by
        rw [hadds.size, Tree.listing, List.length_append, List.length_singleton]
        omega
      refine ⟨s', ?_, ?_⟩
      · rw [Tree.listing, run_append_of_run hrun, run_singleton hstep]
      · exact Adds.push hsize hadds.kept hstack hnodes
          (Arena.Unfolds.negate (Arena.getElem?_last hnodes)
            (hadds.unfolds.of_extends hkept))
  | binary o left right ihleft ihright =>
      rcases ihleft s with ⟨s₁, hrunleft, haddsleft⟩
      rcases ihright s₁ with ⟨s₂, hrunright, haddsright⟩
      have hplaces : s₂.stack = (s₂.arena.size - 1) :: (s₁.arena.size - 1) :: s.stack := by
        rw [haddsright.stack, haddsleft.stack]
      rcases step_operator o hplaces with ⟨s', hstep, hstack, hnodes⟩
      have hkept := Arena.extends_of_nodes hnodes
      have hsize : s₂.arena.size + 1 =
          s.arena.size + (Tree.binary o left right).listing.length := by
        rw [haddsright.size, haddsleft.size, Tree.listing, List.length_append,
          List.length_append, List.length_singleton]
        omega
      refine ⟨s', ?_, ?_⟩
      · rw [Tree.listing, List.append_assoc, run_append_of_run hrunleft,
          run_append_of_run hrunright, run_singleton hstep]
      · exact Adds.push hsize (haddsleft.kept.trans haddsright.kept) hstack hnodes
          (Arena.Unfolds.binary (Arena.getElem?_last hnodes)
            (haddsleft.unfolds.of_extends (haddsright.kept.trans hkept))
            (haddsright.unfolds.of_extends hkept))

end Assembly

end Expression

namespace Arena

open Expression

theorem ofPostfix_listing (t : Tree) :
    exists a, ofPostfix t.listing = .ok a ∧ a.size = t.listing.length ∧ a.Represents t := by
  rcases Assembly.start.run_listing t with ⟨s, hrun, hadds⟩
  exists s.arena
  refine ⟨?_, ?_, hadds.unfolds⟩
  · change Assembly.start.run t.listing >>= Assembly.finish = .ok s.arena
    have hstack : s.stack = [s.arena.size - 1] := hadds.stack
    rw [hrun]
    simp [bind, Except.bind, Assembly.finish, hstack]
  · simpa [Assembly.start] using hadds.size

end Arena

end PocketCalculator
