import Mathlib.Data.List.Induction
import PocketCalculator.Proofs.Unfolding

/-!
# What a pass computes

## Folding a tree

A pass over an arena leaves at each place what the same reading computes over
the tree that the place unfolds to.  In particular the value of an arena is the
value of its tree.
-/

namespace PocketCalculator

namespace Tree

def fold {α : Type} (r : Arena.Reading α) : Tree -> α
  | number x => r.number x
  | negate operand => r.negate (operand.fold r)
  | binary o left right => r.binary o (left.fold r) (right.fold r)

theorem fold_valueReading (t : Tree) : t.fold Arena.valueReading = t.value := by
  induction t with
  | number x => rfl
  | negate operand ih =>
      rw [fold, ih]
      rfl
  | binary o left right ihleft ihright =>
      rw [fold, ihleft, ihright]
      rfl

end Tree

namespace Arena

variable {α : Type} {r : Reading α} {a : Arena}

/-- The results for the places before a given one are those of their trees. -/
def Computes (r : Reading α) (a : Arena) (done : Array α) : Prop :=
  forall place t, place < done.size -> a.Unfolds place t -> done[place]? = some (t.fold r)

theorem Computes.node? {done : Array α} {node : Node} {t : Tree} (h : Computes r a done)
    (hnode : a.nodes[done.size]? = some node) (ht : a.Unfolds done.size t) :
    r.node? done node = some (t.fold r) := by
  have huses := usesBefore_of_getElem? hnode
  cases ht with
  | number hkind =>
      cases hnode.symm.trans hkind
      rfl
  | @negate place operand t hkind hoperand =>
      cases hnode.symm.trans hkind
      have hbefore : operand < done.size := huses
      rw [Reading.node?, h operand t hbefore hoperand]
      rfl
  | @binary place left right o t u hkind hleft hright =>
      cases hnode.symm.trans hkind
      have hbefore : left < done.size ∧ right < done.size := huses
      rw [Reading.node?, h left t hbefore.1 hleft, h right u hbefore.2 hright]
      rfl

theorem Computes.push {done : Array α} {t : Tree} (h : Computes r a done)
    (ht : a.Unfolds done.size t) : Computes r a (done.push (t.fold r)) := by
  intro place u hplace hu
  rw [Array.size_push] at hplace
  by_cases hlast : place = done.size
  · subst hlast
    rw [Array.getElem?_push_size, hu.unique ht]
  · have hbefore : place < done.size := by
      omega
    rw [Array.getElem?_push_lt hbefore, ← h place u hbefore hu,
      Array.getElem?_eq_getElem hbefore]

/-- A pass reaches the end of any part of the arena that starts at its front. -/
theorem exists_computes (r : Reading α) (a : Arena) {before after : List Node}
    (h : a.nodes.toList = before ++ after) :
    exists done, before.foldlM (fun done node => (r.node? done node).map done.push) #[] =
      some done ∧ done.size = before.length ∧ Computes r a done := by
  induction before using List.reverseRecOn generalizing after with
  | nil =>
      refine ⟨#[], rfl, rfl, ?_⟩
      intro place t hplace
      exact absurd hplace (Nat.not_lt_zero place)
  | append_singleton before node ih =>
      rw [List.append_assoc] at h
      rcases ih h with ⟨done, hdone, hsize, hcomputes⟩
      have hnode : a.nodes[done.size]? = some node := by
        rw [← Array.getElem?_toList, h, hsize]
        simp
      rcases Array.getElem?_eq_some_iff.mp hnode with ⟨hplace, _⟩
      rcases a.exists_unfolds done.size hplace with ⟨t, ht⟩
      refine ⟨done.push (t.fold r), ?_, ?_, hcomputes.push ht⟩
      · simp [List.foldlM_append, hdone, hcomputes.node? hnode ht]
      · rw [Array.size_push, hsize, List.length_append, List.length_singleton]

theorem Unfolds.lt_size {place : Nat} {t : Tree} (h : a.Unfolds place t) :
    place < a.size := by
  cases h with
  | number hnode => exact (Array.getElem?_eq_some_iff.mp hnode).1
  | negate hnode _ => exact (Array.getElem?_eq_some_iff.mp hnode).1
  | binary hnode _ _ => exact (Array.getElem?_eq_some_iff.mp hnode).1

theorem exists_pass? (r : Reading α) (a : Arena) :
    exists done, a.pass? r = some done ∧ done.size = a.size ∧ Computes r a done := by
  have hwhole : a.nodes.toList = a.nodes.toList ++ [] := (List.append_nil _).symm
  rcases exists_computes r a hwhole with ⟨done, hdone, hsize, hcomputes⟩
  refine ⟨done, ?_, hsize, hcomputes⟩
  unfold pass?
  rw [← Array.foldlM_toList]
  exact hdone

theorem root?_of_represents {t : Tree} (r : Reading α) (h : a.Represents t) :
    a.root? r = some (t.fold r) := by
  rcases exists_pass? r a with ⟨done, hpass, hsize, hcomputes⟩
  rw [root?, hpass, Option.bind_some, Array.back?_eq_getElem?, hsize]
  have hroot : a.size - 1 < done.size := by
    rw [hsize]
    exact h.lt_size
  exact hcomputes _ t hroot h

theorem value?_of_represents {t : Tree} (h : a.Represents t) : a.value? = some t.value := by
  rw [← t.fold_valueReading]
  exact root?_of_represents valueReading h

end Arena

end PocketCalculator
