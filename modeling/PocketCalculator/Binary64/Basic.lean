/-!
# Binary floating point

## The values of the 64-bit format

A finite number of the format is a sign, a mantissa below `2 ^ 53` and an
exponent between `0` and `2045`: it stands for `mantissa * 2 ^ exponent` units,
where one unit is `2 ^ (-1074)`, the smallest positive number of the format.
Every number but the two zeros has exactly one such form, because a mantissa
below `2 ^ 52` is allowed at exponent zero only.  Beside the finite numbers
there are two infinities and a single not-a-number.
-/

namespace PocketCalculator

/-- The built-in power, which is meant here also where another one is in scope. -/
abbrev naturalPower : Pow Nat Nat :=
  instPowNat

attribute [local instance] naturalPower

namespace Binary64

/-- The mantissas and exponents in which finite numbers are kept. -/
def Canonical (mantissa exponent : Nat) : Prop :=
  mantissa < 2 ^ (53 : Nat) ∧ exponent ≤ 2045 ∧ (exponent = 0 ∨ 2 ^ (52 : Nat) ≤ mantissa)

instance (mantissa exponent : Nat) : Decidable (Canonical mantissa exponent) :=
  inferInstanceAs (Decidable (_ ∧ _ ∧ _))

theorem canonical_zero : Canonical 0 0 := by
  decide

end Binary64

inductive Binary64 where
  | finite (negative : Bool) (mantissa exponent : Nat)
      (canonical : Binary64.Canonical mantissa exponent)
  | infinite (negative : Bool)
  | nan
deriving DecidableEq

namespace Binary64

def unitsPerOne : Nat :=
  2 ^ (1074 : Nat)

def zero (negative : Bool) : Binary64 :=
  finite negative 0 0 canonical_zero

def isFinite : Binary64 -> Bool
  | finite .. => true
  | infinite _ => false
  | nan => false

theorem exists_finite {x : Binary64} (h : x.isFinite = true) :
    exists negative mantissa exponent canonical,
      x = finite negative mantissa exponent canonical := by
  cases x with
  | finite negative mantissa exponent canonical =>
      exact ⟨negative, mantissa, exponent, canonical, rfl⟩
  | infinite _ => cases h
  | nan => cases h

def neg : Binary64 -> Binary64
  | finite negative mantissa exponent canonical =>
      finite (!negative) mantissa exponent canonical
  | infinite negative => infinite (!negative)
  | nan => nan

/-!
## Bit patterns

The sixty-four bits hold the sign, eleven bits of biased exponent and
fifty-two bits of fraction, from the most significant bit down.
-/

def packBits (negative : Bool) (biased fraction : Nat) : Nat :=
  (if negative then 2 ^ (63 : Nat) else 0) + biased * 2 ^ (52 : Nat) + fraction

def signOfBits (word : Nat) : Bool :=
  word / 2 ^ (63 : Nat) % 2 == 1

def biasedOfBits (word : Nat) : Nat :=
  word / 2 ^ (52 : Nat) % 2 ^ (11 : Nat)

def fractionOfBits (word : Nat) : Nat :=
  word % 2 ^ (52 : Nat)

theorem signOfBits_packBits (negative : Bool) {biased fraction : Nat}
    (hb : biased < 2 ^ (11 : Nat)) (hf : fraction < 2 ^ (52 : Nat)) :
    signOfBits (packBits negative biased fraction) = negative := by
  unfold signOfBits packBits
  cases negative <;> simp <;> omega

theorem biasedOfBits_packBits (negative : Bool) {biased fraction : Nat}
    (hb : biased < 2 ^ (11 : Nat)) (hf : fraction < 2 ^ (52 : Nat)) :
    biasedOfBits (packBits negative biased fraction) = biased := by
  unfold biasedOfBits packBits
  cases negative <;> simp <;> omega

theorem fractionOfBits_packBits (negative : Bool) (biased : Nat) {fraction : Nat}
    (hf : fraction < 2 ^ (52 : Nat)) :
    fractionOfBits (packBits negative biased fraction) = fraction := by
  unfold fractionOfBits packBits
  cases negative <;> simp <;> omega

/-- The number that a word encodes. -/
def ofBits (word : Nat) : Binary64 :=
  let negative := signOfBits word
  let biased := biasedOfBits word
  let fraction := fractionOfBits word
  if biased = 2047 then
    if fraction = 0 then infinite negative else nan
  else if biased = 0 then
    if h : Canonical fraction 0 then finite negative fraction 0 h else nan
  else if h : Canonical (2 ^ (52 : Nat) + fraction) (biased - 1) then
    finite negative (2 ^ (52 : Nat) + fraction) (biased - 1) h
  else nan

/-- The word that encodes a number; not-a-number is given its quiet pattern. -/
def toBits : Binary64 -> Nat
  | finite negative mantissa exponent _ =>
      if mantissa < 2 ^ (52 : Nat) then packBits negative 0 mantissa
      else packBits negative (exponent + 1) (mantissa - 2 ^ (52 : Nat))
  | infinite negative => packBits negative 2047 0
  | nan => packBits false 2047 (2 ^ (51 : Nat))

theorem ofBits_toBits_finite (negative : Bool) {mantissa exponent : Nat}
    (h : Canonical mantissa exponent) :
    ofBits (finite negative mantissa exponent h).toBits =
      finite negative mantissa exponent h := by
  have parts := h
  rcases parts with ⟨small, inRange, normal⟩
  by_cases subnormal : mantissa < 2 ^ (52 : Nat)
  · have atZero : exponent = 0 := by
      omega
    subst atZero
    have room : (0 : Nat) < 2 ^ (11 : Nat) := by
      decide
    simp only [toBits, if_pos subnormal, ofBits, signOfBits_packBits negative room subnormal,
      biasedOfBits_packBits negative room subnormal,
      fractionOfBits_packBits negative 0 subnormal]
    simp [h]
  · have room : exponent + 1 < 2 ^ (11 : Nat) := by
      omega
    have fits : mantissa - 2 ^ (52 : Nat) < 2 ^ (52 : Nat) := by
      omega
    have restored : 2 ^ (52 : Nat) + (mantissa - 2 ^ (52 : Nat)) = mantissa := by
      omega
    simp only [toBits, if_neg subnormal, ofBits, signOfBits_packBits negative room fits,
      biasedOfBits_packBits negative room fits,
      fractionOfBits_packBits negative (exponent + 1) fits, restored]
    simp [h]
    omega

theorem ofBits_toBits (x : Binary64) : ofBits x.toBits = x := by
  cases x with
  | finite negative mantissa exponent h => exact ofBits_toBits_finite negative h
  | infinite negative => cases negative <;> decide +kernel
  | nan => decide +kernel

end Binary64

end PocketCalculator
