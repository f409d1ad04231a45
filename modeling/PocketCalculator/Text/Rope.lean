import PocketCalculator.Text.Basic

/-!
# Ropes

## Texts put together piece by piece

A rope is a text given as a tree of concatenations.  Putting two ropes together
takes constant time, and a rope that is used twice is shared, not copied.
-/

namespace PocketCalculator

inductive Rope where
  | leaf (t : Text)
  | append (first second : Rope)

namespace Rope

instance : Append Rope :=
  ⟨append⟩

def weight : Rope -> Nat
  | leaf _ => 1
  | append first second => 1 + first.weight + second.weight

def totalWeight : List Rope -> Nat
  | [] => 0
  | r :: ropes => r.weight + totalWeight ropes

/-- Puts the texts of the ropes, last rope first, before the given text. -/
def gather : List Rope -> Text -> Text
  | [], rest => rest
  | leaf t :: ropes, rest => gather ropes (t ++ rest)
  | append first second :: ropes, rest => gather (second :: first :: ropes) rest
termination_by ropes => totalWeight ropes
decreasing_by
  · simp only [totalWeight, weight]
    omega
  · simp only [totalWeight, weight]
    omega

def text (r : Rope) : Text :=
  gather [r] []

def contents : Rope -> Text
  | leaf t => t
  | append first second => first.contents ++ second.contents

theorem gather_eq (ropes : List Rope) (rest : Text) :
    gather ropes rest = (ropes.map contents).reverse.flatten ++ rest := by
  fun_induction gather ropes rest with
  | case1 rest => rfl
  | case2 t ropes rest ih => simp [ih, contents]
  | case3 first second ropes rest ih => simp [ih, contents]

theorem text_eq_contents (r : Rope) : r.text = r.contents := by
  simp [text, gather_eq]

@[simp] theorem text_leaf (t : Text) : (leaf t).text = t := by
  rw [text_eq_contents, contents]

@[simp] theorem text_append (first second : Rope) :
    (first ++ second).text = first.text ++ second.text := by
  rw [text_eq_contents, text_eq_contents, text_eq_contents]
  rfl

end Rope

end PocketCalculator
