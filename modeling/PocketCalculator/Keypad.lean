import PocketCalculator.Key

/-!
# The keypad

## Keys in rows

The pad has five rows of four cells.  Three cells of the last row are empty.
-/

namespace PocketCalculator

namespace Keypad

def rows : List (List (Option Key)) :=
  [[some .clear, some (.operator .divide), some (.operator .times),
      some (.operator .minus)],
   [some (.digit 7), some (.digit 8), some (.digit 9), some (.operator .plus)],
   [some (.digit 4), some (.digit 5), some (.digit 6), some .point],
   [some (.digit 1), some (.digit 2), some (.digit 3), some .equals],
   [some (.digit 0), none, none, none]]

def cells : List (Option Key) :=
  rows.flatten

def keys : List Key :=
  cells.filterMap id

def after? (k : Key) : Option Key :=
  keys[keys.idxOf k + 1]?

def place (k : Key) : Nat × Nat :=
  let index := cells.idxOf (some k)
  (index % 4, index / 4)

theorem mem_keys (k : Key) : k ∈ keys := by
  cases k with
  | digit d => revert d; decide
  | operator o => cases o <;> decide
  | point => decide
  | equals => decide
  | clear => decide

/-- The texts of the cells row by row; an empty cell shows nothing. -/
def cellTexts : List Text :=
  cells.map fun cell => (cell.map Key.label).getD []

end Keypad

end PocketCalculator
