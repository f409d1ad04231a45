/-!
# Texts

## Representation

A text is a list of characters, that is of Unicode scalar values.  The length
of a text therefore counts characters, never bytes, and every cut falls between
two characters.
-/

namespace PocketCalculator

abbrev Text := List Char

namespace Text

def join (separator : Text) (parts : List Text) : Text :=
  separator.intercalate parts

def ofNat (n : Nat) : Text :=
  Nat.toDigits 10 n

end Text

end PocketCalculator
