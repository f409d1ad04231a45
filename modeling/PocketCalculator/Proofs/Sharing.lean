import PocketCalculator.Proofs.Coherence
import PocketCalculator.Proofs.Passes

/-!
# Shared and unused nodes

## What the root reaches

An arena may use a node several times and another one not at all.  Its tree
depends only on the nodes that the root reaches, and so do its value and its
text, which are those of the tree.
-/

namespace PocketCalculator

namespace Tree

theorem fold_textReading (t : Tree) : (t.fold Arena.textReading).text = t.text := by
  induction t with
  | number x => simp [fold, Arena.textReading, text]
  | negate operand ih => simp [fold, Arena.textReading, text, ← ih]
  | binary o left right ihleft ihright =>
      simp [fold, Arena.textReading, text, ← ihleft, ← ihright]

end Tree

namespace Node

def move (f : Nat -> Nat) : Node -> Node
  | number x => number x
  | negate operand => negate (f operand)
  | binary o left right => binary o (f left) (f right)

end Node

namespace Arena

theorem text_of_represents {a : Arena} {t : Tree} (h : a.Represents t) :
    a.text = t.text := by
  rw [text, root?_of_represents textReading h, ← t.fold_textReading]
  rfl

theorem root?_of_size_eq_zero {α : Type} {a : Arena} (r : Reading α) (h : a.size = 0) :
    a.root? r = none := by
  have hnodes : a.nodes = #[] := Array.size_eq_zero_iff.mp h
  simp [root?, pass?, hnodes]

/-- A place reaches itself and all that its operands reach. -/
inductive Reaches (a : Arena) : Nat -> Nat -> Prop where
  | self (place : Nat) : Reaches a place place
  | through {place operand target : Nat} {node : Node} :
      a.nodes[place]? = some node -> operand ∈ node.operands ->
      Reaches a operand target -> Reaches a place target

/-!
## Copies

What a place reaches may be copied to other places of another arena: in another
order, next to other nodes, or with equal nodes put together.  The copy of the
place unfolds to the same tree.
-/

/-- All that a place reaches in one arena is found, moved, in another one. -/
def Copies (a b : Arena) (f : Nat -> Nat) (root : Nat) : Prop :=
  forall place node, a.Reaches root place -> a.nodes[place]? = some node ->
    b.nodes[f place]? = some (node.move f)

theorem Copies.operand {a b : Arena} {f : Nat -> Nat} {place operand : Nat} {node : Node}
    (h : a.Copies b f place) (hnode : a.nodes[place]? = some node)
    (hoperand : operand ∈ node.operands) : a.Copies b f operand :=
  fun target other hreached => h target other (.through hnode hoperand hreached)

theorem Unfolds.of_copies {a b : Arena} {f : Nat -> Nat} {place : Nat} {t : Tree}
    (ht : a.Unfolds place t) (h : a.Copies b f place) : b.Unfolds (f place) t := by
  induction ht with
  | number hnode => exact .number (h _ _ (.self _) hnode)
  | negate hnode _ ih =>
      have hoperand := h.operand hnode (List.mem_singleton_self _)
      exact .negate (h _ _ (.self _) hnode) (ih hoperand)
  | binary hnode _ _ ihleft ihright =>
      have hleft := h.operand hnode (List.mem_cons_self ..)
      have hright := h.operand hnode (List.mem_cons_of_mem _ (List.mem_singleton_self _))
      exact .binary (h _ _ (.self _) hnode) (ihleft hleft) (ihright hright)

theorem Represents.of_copies {a b : Arena} {f : Nat -> Nat} {t : Tree}
    (ht : a.Represents t) (hroot : f (a.size - 1) = b.size - 1)
    (h : a.Copies b f (a.size - 1)) : b.Represents t := by
  unfold Represents
  rw [← hroot]
  exact Unfolds.of_copies ht h

/--
The value and the text that one pass leaves for the root are those of the tree
that the root unfolds to.  So arenas with the same tree agree in both, however
they share their nodes, and a node that the root does not reach has no part in
either: it may be replaced, or left out when the others are moved.
-/
theorem passes_follow_the_tree (a : Arena) :
    (a.size = 0 -> a.value? = none ∧ a.text = []) ∧
    (0 < a.size -> exists t, a.Represents t) ∧
    forall t, a.Represents t ->
      a.value? = some t.value ∧ a.text = t.text ∧
      (forall b : Arena, b.Represents t -> b.value? = a.value? ∧ b.text = a.text) ∧
      forall (b : Arena) (f : Nat -> Nat), f (a.size - 1) = b.size - 1 ->
        a.Copies b f (a.size - 1) -> b.value? = a.value? ∧ b.text = a.text := by
  have hagree : forall (b : Arena) (t : Tree), a.Represents t -> b.Represents t ->
      b.value? = a.value? ∧ b.text = a.text := by
    intro b t ha hb
    rw [value?_of_represents ha, value?_of_represents hb, text_of_represents ha,
      text_of_represents hb]
    exact ⟨rfl, rfl⟩
  refine ⟨?_, ?_, ?_⟩
  · intro hempty
    rw [value?, text, root?_of_size_eq_zero _ hempty, root?_of_size_eq_zero _ hempty]
    exact ⟨rfl, rfl⟩
  · intro hsize
    exact a.exists_unfolds (a.size - 1) (by omega)
  · intro t ht
    refine ⟨value?_of_represents ht, text_of_represents ht, fun b hb => hagree b t ht hb, ?_⟩
    intro b f hroot hcopies
    exact hagree b t ht (ht.of_copies hroot hcopies)

/--
A difference of a number and itself: with the number shared beside an unused
node, with the number twice, and with the unused node left out.
-/
theorem passes_follow_the_tree_difference :
    let x : Binary64 := .zero true
    let difference : Tree := .binary .minus (.number x) (.number x)
    let shared : Arena := ((empty.push (.number x) trivial).push (.number .nan) trivial).push
      (.binary .minus 0 0) ⟨by decide, by decide⟩
    let separate : Arena := ((empty.push (.number x) trivial).push (.number x) trivial).push
      (.binary .minus 0 1) ⟨by decide, by decide⟩
    let pruned : Arena := (empty.push (.number x) trivial).push
      (.binary .minus 0 0) ⟨by decide, by decide⟩
    let f : Nat -> Nat := fun place => place / 2
    (exists t, shared.Represents t) ∧ shared.Represents difference ∧
      shared.value? = some difference.value ∧ shared.text = difference.text ∧
      separate.Represents difference ∧
      (separate.value? = shared.value? ∧ separate.text = shared.text) ∧
      shared.Copies pruned f 2 ∧
      pruned.value? = shared.value? ∧ pruned.text = shared.text := by
  intro x difference shared separate pruned f
  have hshared : shared.Represents difference :=
    .binary rfl (.number rfl) (.number rfl)
  have hseparate : separate.Represents difference :=
    .binary rfl (.number rfl) (.number rfl)
  have hpruned : shared.Copies pruned f 2 := by
    intro place node hreached hnode
    cases hreached with
    | self =>
        cases hnode
        rfl
    | @through _ operand _ _ hroot hoperand hbelow =>
        cases hroot
        have hmember : operand ∈ [0, 0] := hoperand
        obtain rfl : operand = 0 := by simpa using hmember
        cases hbelow with
        | self =>
            cases hnode
            rfl
        | through hleaf hnone _ =>
            cases hleaf
            cases hnone
  rcases passes_follow_the_tree shared with ⟨_, hexists, htree⟩
  rcases htree difference hshared with ⟨hvalue, htext, hsame, hcopied⟩
  exact ⟨hexists (by decide), hshared, hvalue, htext, hseparate, hsame separate hseparate,
    hpruned, hcopied pruned f (by decide) hpruned⟩

end Arena

end PocketCalculator
