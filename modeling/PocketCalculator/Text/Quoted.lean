import PocketCalculator.Text.Invisible

/-!
# Quoted texts

## Escapes

Log lines show a text between double quotes and a character between single
quotes.  The quote in use, the backslash and the invisible characters are
escaped, so that the line stays one line and the quoted text can be read off it.
-/

namespace PocketCalculator

namespace Text

def escape (quote : Char) (c : Char) : Text :=
  if c = quote ∨ c = '\\' then ['\\', c]
  else if c = '\n' then ['\\', 'n']
  else if c = '\r' then ['\\', 'r']
  else if c = '\t' then ['\\', 't']
  else if c = '\x00' then ['\\', '0']
  else if isInvisible c then
    '\\' :: 'u' :: '\x7b' :: Nat.toDigits 16 c.toNat ++ ['\x7d']
  else [c]

def quoted (t : Text) : Text :=
  '"' :: t.flatMap (escape '"') ++ ['"']

def quotedChar (c : Char) : Text :=
  '\'' :: escape '\'' c ++ ['\'']

end Text

end PocketCalculator
