import PocketCalculator.Text.CharRanges

/-!
# Blank characters

## The White_Space property

A character is blank when Unicode gives it the property White_Space.  The table
lists the code points that have it as closed ranges in ascending order.
-/

namespace PocketCalculator

namespace Text

def blankRanges : CharRanges :=
  [(0x0009, 0x000D), (0x0020, 0x0020), (0x0085, 0x0085), (0x00A0, 0x00A0),
   (0x1680, 0x1680), (0x2000, 0x200A), (0x2028, 0x2029), (0x202F, 0x202F),
   (0x205F, 0x205F), (0x3000, 0x3000)]

def isBlank (c : Char) : Bool :=
  blankRanges.contains c

def trim (t : Text) : Text :=
  ((t.dropWhile isBlank).reverse.dropWhile isBlank).reverse

def strip (t : Text) : Text :=
  t.filter fun c => !isBlank c

@[simp] theorem strip_nil : strip [] = [] := rfl

theorem strip_append (s t : Text) : strip (s ++ t) = strip s ++ strip t := by
  simp [strip]

theorem isBlank_eq_false_of_mem_strip {c : Char} {t : Text} (h : c ∈ strip t) :
    isBlank c = false := by
  simpa using (List.mem_filter.mp h).right

end Text

end PocketCalculator
