import PocketCalculator.Decimal.Shortest

/-!
# Layouts of numbers

## Positional and scientific layout

Both layouts place digits around a point: the value is `0.digits * 10 ^ point`.
The positional layout pads with zeros where the digits do not reach the point;
the scientific layout keeps one digit before the point and writes the exponent
with its sign.
-/

namespace PocketCalculator

namespace Text

def positional (digits : Text) (point : Int) : Text :=
  if point ≤ 0 then
    '0' :: '.' :: List.replicate (-point).toNat '0' ++ digits
  else if digits.length ≤ point then
    digits ++ List.replicate (point - digits.length).toNat '0'
  else
    digits.take point.toNat ++ '.' :: digits.drop point.toNat

def scientific (digits : Text) (point : Int) : Text :=
  let exponent := point - 1
  let sign := if exponent < 0 then '-' else '+'
  let fraction := digits.drop 1
  digits.take 1 ++ (if fraction = [] then [] else '.' :: fraction) ++
    'e' :: sign :: ofNat exponent.natAbs

def signed (negative : Bool) (t : Text) : Text :=
  if negative then '-' :: t else t

end Text

namespace Binary64

/-!
## The display

A result is shown with its shortest digits, positionally from `10 ^ (-6)` up to
but excluding `10 ^ 21` and scientifically elsewhere.  Both zeros read `0`.  A
value that is not finite is never a result; its name is laid out as three digits
would be.
-/

def display : Binary64 -> Text
  | finite negative mantissa exponent h =>
      if mantissa = 0 then ['0']
      else
        let d := Decimal.shortest mantissa exponent h
        Text.signed negative
          (if -6 < d.point ∧ d.point ≤ 21 then Text.positional d.digits d.point
          else Text.scientific d.digits d.point)
  | infinite negative => Text.signed negative (Text.positional "inf".toList 1)
  | nan => Text.positional "NaN".toList 1

/-!
## The log

In the log a number is always written positionally, and the sign of zero is
kept.
-/

def plain : Binary64 -> Text
  | finite negative mantissa exponent h =>
      Text.signed negative
        (if mantissa = 0 then ['0']
        else
          let d := Decimal.shortest mantissa exponent h
          Text.positional d.digits d.point)
  | infinite negative => Text.signed negative "inf".toList
  | nan => "NaN".toList

end Binary64

end PocketCalculator
