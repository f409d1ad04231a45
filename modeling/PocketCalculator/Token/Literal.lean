import PocketCalculator.Text.Basic
import PocketCalculator.Decimal.Basic

/-!
# Literals

## The longest literal

A literal is a run of digits with at most one point, followed perhaps by an
exponent: a marker, an optional sign and a run of digits.  Splitting a literal
off the front of a text takes as much as it can, whether or not the result is a
complete number.  It is complete when it has a digit before the marker and, if
there is a marker, a digit after it.
-/

namespace PocketCalculator

attribute [local instance] naturalPower

structure Exponent where
  marker : Char
  sign : Option Char
  digits : Text
deriving DecidableEq

namespace Exponent

def isMarker (c : Char) : Bool :=
  c = 'e' || c = 'E'

def isSign (c : Char) : Bool :=
  c = '+' || c = '-'

def text (x : Exponent) : Text :=
  x.marker :: x.sign.toList ++ x.digits

/-!
## The magnitude of an exponent

The digits of an exponent are counted from the left until the magnitude has
reached `2 ^ 16`; any digits after that leave it as it is.  Such an exponent
makes a literal of ordinary length zero or infinite in either case.
-/

/-- At this magnitude no further digit is counted. -/
def magnitudeLimit : Nat :=
  2 ^ (16 : Nat)

def countDigit (magnitude : Nat) (c : Char) : Nat :=
  if magnitude < magnitudeLimit then 10 * magnitude + (c.toNat - '0'.toNat)
  else magnitude

def magnitude (digits : Text) : Nat :=
  digits.foldl countDigit 0

def value (x : Exponent) : Int :=
  if x.sign = some '-' then -(magnitude x.digits : Int) else magnitude x.digits

theorem le_ofDigitChars (digits : Text) (start : Nat) :
    start ≤ Nat.ofDigitChars 10 digits start := by
  induction digits generalizing start with
  | nil => exact Nat.le_refl start
  | cons c rest ih =>
      have step := ih (10 * start + (c.toNat - '0'.toNat))
      rw [Nat.ofDigitChars_cons]
      omega

theorem foldl_countDigit {digits : Text} {start : Nat}
    (h : Nat.ofDigitChars 10 digits start < 10 * magnitudeLimit) :
    digits.foldl countDigit start = Nat.ofDigitChars 10 digits start := by
  induction digits generalizing start with
  | nil => rfl
  | cons c rest ih =>
      rw [Nat.ofDigitChars_cons] at h
      have grown := le_ofDigitChars rest (10 * start + (c.toNat - '0'.toNat))
      have small : start < magnitudeLimit := by
        omega
      rw [List.foldl_cons, Nat.ofDigitChars_cons, countDigit, if_pos small]
      exact ih h

/-- A number that is less than ten times the limit is read as it is written. -/
theorem magnitude_eq_ofDigitChars {digits : Text}
    (h : Nat.ofDigitChars 10 digits 0 < 10 * magnitudeLimit) :
    magnitude digits = Nat.ofDigitChars 10 digits 0 :=
  foldl_countDigit h

/-!
## The exponent at the front of a text
-/

def splitSign : Text -> Option Char × Text
  | [] => (none, [])
  | c :: rest => if isSign c then (some c, rest) else (none, c :: rest)

/-- The exponent at the front of a text, if a marker stands there, and the rest. -/
def split : Text -> Option Exponent × Text
  | [] => (none, [])
  | c :: rest =>
      if isMarker c then
        let afterSign := (splitSign rest).2
        (some ⟨c, (splitSign rest).1, afterSign.takeWhile Char.isDigit⟩,
          afterSign.dropWhile Char.isDigit)
      else (none, c :: rest)

theorem splitSign_append (t : Text) :
    (splitSign t).1.toList ++ (splitSign t).2 = t := by
  cases t with
  | nil => rfl
  | cons c rest =>
      by_cases h : isSign c = true
      · simp [splitSign, h]
      · simp [splitSign, h]

theorem split_append (t : Text) :
    ((split t).1.map text).getD [] ++ (split t).2 = t := by
  cases t with
  | nil => rfl
  | cons c rest =>
      by_cases h : isMarker c = true
      · simp [split, text, h, splitSign_append]
      · simp [split, h]

end Exponent

structure Literal where
  whole : Text
  /-- The digits after the point, when there is a point. -/
  fraction : Option Text
  exponent : Option Exponent
deriving DecidableEq

namespace Literal

def opens (c : Char) : Bool :=
  c.isDigit || c = '.'

def mantissaText (x : Literal) : Text :=
  x.whole ++ (x.fraction.map ('.' :: ·)).getD []

def exponentText (x : Literal) : Text :=
  (x.exponent.map Exponent.text).getD []

def text (x : Literal) : Text :=
  x.mantissaText ++ x.exponentText

def splitFraction : Text -> Option Text × Text
  | [] => (none, [])
  | c :: rest =>
      if c = '.' then
        (some (rest.takeWhile Char.isDigit), rest.dropWhile Char.isDigit)
      else (none, c :: rest)

/-- The longest literal at the front of a text, and the rest. -/
def split (t : Text) : Literal × Text :=
  let afterWhole := t.dropWhile Char.isDigit
  let afterFraction := (splitFraction afterWhole).2
  (⟨t.takeWhile Char.isDigit, (splitFraction afterWhole).1,
      (Exponent.split afterFraction).1⟩,
    (Exponent.split afterFraction).2)

theorem splitFraction_append (t : Text) :
    ((splitFraction t).1.map ('.' :: ·)).getD [] ++ (splitFraction t).2 = t := by
  cases t with
  | nil => rfl
  | cons c rest =>
      by_cases h : c = '.'
      · simp [splitFraction, h]
      · simp [splitFraction, h]

theorem split_append (t : Text) : (split t).1.text ++ (split t).2 = t := by
  simp only [split, text, mantissaText, exponentText, List.append_assoc]
  rw [Exponent.split_append, splitFraction_append, List.takeWhile_append_dropWhile]

theorem split_rest_length_lt {c : Char} {rest : Text} (h : opens c = true) :
    (split (c :: rest)).2.length < (c :: rest).length := by
  have whole := congrArg List.length (split_append (c :: rest))
  have nonempty : 0 < (split (c :: rest)).1.text.length := by
    by_cases digit : c.isDigit = true
    · simp [split, text, mantissaText, digit]
    · have point : c = '.' := by
        simpa [opens, digit] using h
      subst point
      simp [split, splitFraction, text, mantissaText]
  rw [List.length_append] at whole
  omega

/-!
## The value of a literal
-/

def isComplete (x : Literal) : Bool :=
  !(x.whole ++ x.fraction.getD []).isEmpty &&
    x.exponent.all fun e => !e.digits.isEmpty

/-- The decimal number that a literal is read as. -/
def decimal (x : Literal) : Decimal :=
  let fraction := x.fraction.getD []
  ⟨Nat.ofDigitChars 10 (x.whole ++ fraction) 0,
    (x.exponent.map Exponent.value).getD 0 - fraction.length⟩

def value? (x : Literal) : Option Binary64 :=
  if x.isComplete then some (x.decimal.toBinary64 false) else none

end Literal

end PocketCalculator
