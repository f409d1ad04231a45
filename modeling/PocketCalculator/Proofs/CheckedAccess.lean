import PocketCalculator.Text.Basic

/-!
# Checked accesses

## Positions and byte offsets

A text can be looked up at a position, cut between two positions, and split at an
offset that counts the bytes of its characters.  Each of these accesses is only
possible inside the text, and a split only between two characters.  A checked
access has no result elsewhere, and neither has anything computed with it.
-/

namespace PocketCalculator

/-- What is computed, if no access on the way lies outside of what is accessed. -/
abbrev Checked (α : Type) := Option α

namespace Text

/-- Whether a character of a kind stands at a position, looked up before the end only. -/
def standsAt? (p : Char -> Bool) (t : Text) (position : Nat) : Checked Bool :=
  if position < t.length then t[position]?.map p else some false

def slice? (t : Text) (start stop : Nat) : Checked Text :=
  if start ≤ stop ∧ stop ≤ t.length then some ((t.drop start).take (stop - start)) else none

theorem standsAt?_append (p : Char -> Bool) (front rest : Text) :
    standsAt? p (front ++ rest) front.length = some (rest.head?.any p) := by
  cases rest with
  | nil => simp [standsAt?]
  | cons c rest => simp [standsAt?]

theorem slice?_append (front middle rest : Text) :
    slice? (front ++ (middle ++ rest)) front.length (front ++ middle).length =
      some middle := by
  have hbounds : front.length ≤ (front ++ middle).length ∧
      (front ++ middle).length ≤ (front ++ (middle ++ rest)).length := by
    simp
  rw [slice?, if_pos hbounds, List.drop_left, List.length_append, Nat.add_sub_cancel_left,
    List.take_left]

/-!
## Bytes

A character takes one to four bytes.  An offset is a boundary when it is the number
of bytes before some character, or of the whole text.
-/

def byteLength : Text -> Nat
  | [] => 0
  | c :: t => c.utf8Size + byteLength t

@[simp] theorem byteLength_nil : byteLength [] = 0 := rfl

@[simp] theorem byteLength_cons (c : Char) (t : Text) :
    byteLength (c :: t) = c.utf8Size + byteLength t := rfl

@[simp] theorem byteLength_append (s t : Text) :
    byteLength (s ++ t) = byteLength s + byteLength t := by
  induction s with
  | nil => simp
  | cons c s ih => simp [ih, Nat.add_assoc]

/-- The two parts of a text at an offset that is a boundary. -/
def splitAtByte? : Text -> Nat -> Checked (Text × Text)
  | t, 0 => some ([], t)
  | [], _ + 1 => none
  | c :: t, offset + 1 =>
      if c.utf8Size ≤ offset + 1 then
        (splitAtByte? t (offset + 1 - c.utf8Size)).map fun parts => (c :: parts.1, parts.2)
      else none

theorem splitAtByte?_append (front rest : Text) :
    splitAtByte? (front ++ rest) (byteLength front) = some (front, rest) := by
  induction front with
  | nil =>
      rw [List.nil_append, byteLength_nil]
      cases rest <;> rfl
  | cons c front ih =>
      have hpos := c.utf8Size_pos
      rw [List.cons_append, byteLength_cons]
      cases hoffset : c.utf8Size + byteLength front with
      | zero => omega
      | succ offset =>
          have hle : c.utf8Size ≤ offset + 1 := by
            omega
          have hrest : offset + 1 - c.utf8Size = byteLength front := by
            omega
          rw [splitAtByte?, if_pos hle, hrest, ih]
          rfl

/-- Only boundaries split a text, and nothing is lost there. -/
theorem eq_of_splitAtByte? {t front rest : Text} {offset : Nat}
    (h : splitAtByte? t offset = some (front, rest)) :
    front ++ rest = t ∧ byteLength front = offset := by
  fun_induction splitAtByte? t offset generalizing front rest with
  | case1 t =>
      cases h
      exact ⟨rfl, rfl⟩
  | case2 offset => cases h
  | case3 c t offset hle ih =>
      rcases Option.map_eq_some_iff.mp h with ⟨⟨first, second⟩, hparts, hwhole⟩
      cases hwhole
      rcases ih hparts with ⟨rfl, hlength⟩
      refine ⟨rfl, ?_⟩
      rw [byteLength_cons, hlength]
      omega
  | case4 c t offset hle => cases h

/-- The characters of a text with the offsets they begin at, from a first offset on. -/
def offsetsFrom (first : Nat) : Text -> List (Nat × Char)
  | [] => []
  | c :: t => (first, c) :: offsetsFrom (first + c.utf8Size) t

theorem getElem?_offsetsFrom (first : Nat) (t : Text) (n : Nat) :
    (offsetsFrom first t)[n]? =
      t[n]?.map fun c => (first + byteLength (t.take n), c) := by
  induction t generalizing first n with
  | nil => simp [offsetsFrom]
  | cons c t ih =>
      cases n with
      | zero => simp [offsetsFrom]
      | succ n => simp [offsetsFrom, ih, Nat.add_assoc]

end Text

end PocketCalculator
