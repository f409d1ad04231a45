import PocketCalculator.Entry
import PocketCalculator.Proofs.CheckedAccess
import PocketCalculator.Proofs.Layouts

/-!
# Cutting by offsets

## Placing digits

The digits of a number are laid out with whole numbers of 32 bits: zeros are
repeated as often as a difference says, and the digits are split where the point
falls.  The differences are never negative where they are repeat counts, and as
the digits take one byte each, the split falls between two of them.
-/

namespace PocketCalculator

namespace Text

/-- A whole number that fits into 32 bits with a sign. -/
def word? (n : Int) : Checked Int :=
  if -2147483648 ≤ n ∧ n < 2147483648 then some n else none

theorem word?_of_small {n : Int} (h : -1000 ≤ n ∧ n ≤ 1000) : word? n = some n := by
  rw [word?, if_pos (by omega)]

/-- The digits around their point, as a result is shown. -/
def place? (digits : Text) (point : Int) : Checked Text := do
  let length <- word? (byteLength digits)
  if length ≤ point ∧ point ≤ 21 then
    let missing <- word? (point - length)
    let zeros <- missing.toNat?
    some (digits ++ List.replicate zeros '0')
  else if 0 < point ∧ point ≤ 21 then
    let offset <- point.toNat?
    let (whole, fraction) <- splitAtByte? digits offset
    some (whole ++ '.' :: fraction)
  else if -6 < point ∧ point ≤ 0 then
    let missing <- word? (-point)
    let zeros <- missing.toNat?
    some ('0' :: '.' :: List.replicate zeros '0' ++ digits)
  else
    let exponent <- word? (point - 1)
    let sign := if exponent < 0 then '-' else '+'
    let (whole, fraction) <- splitAtByte? digits 1
    let magnitude <- word? exponent.natAbs
    let written <- magnitude.toNat?
    some (whole ++ (if fraction = [] then [] else '.' :: fraction) ++
      'e' :: sign :: ofNat written)

def IsSingleByte (t : Text) : Prop :=
  forall c, c ∈ t -> c.utf8Size = 1

theorem isSingleByte_of_all {t : Text} (h : t.all (fun c => c.utf8Size = 1) = true) :
    IsSingleByte t := by
  simpa [IsSingleByte] using h

theorem utf8Size_of_isDigit {c : Char} (h : c.isDigit = true) : c.utf8Size = 1 := by
  have hbounds := toNat_bounds_of_isDigit h
  have hzero : '0'.toNat = 48 := rfl
  rw [Char.utf8Size_eq_one_iff, UInt32.le_iff_toNat_le]
  change c.toNat ≤ 127
  omega

theorem IsSingleByte.byteLength_eq {t : Text} (h : IsSingleByte t) :
    byteLength t = t.length := by
  induction t with
  | nil => rfl
  | cons c t ih =>
      have hrest : IsSingleByte t := fun d hd => h d (List.mem_cons_of_mem c hd)
      rw [byteLength_cons, h c (List.mem_cons_self ..), ih hrest, List.length_cons,
        Nat.add_comm]

theorem IsSingleByte.splitAtByte?_eq {t : Text} (h : IsSingleByte t) {n : Nat}
    (hn : n ≤ t.length) : splitAtByte? t n = some (t.take n, t.drop n) := by
  have hfront : IsSingleByte (t.take n) := fun c hc => h c (List.mem_of_mem_take hc)
  have hbytes : byteLength (t.take n) = n := by
    rw [hfront.byteLength_eq, List.length_take, Nat.min_eq_left hn]
  have hsplit := splitAtByte?_append (t.take n) (t.drop n)
  rwa [List.take_append_drop, hbytes] at hsplit

theorem toNat?_of_nonneg {n : Int} (h : 0 ≤ n) : n.toNat? = some n.toNat :=
  Int.mem_toNat?.mpr (Int.toNat_of_nonneg h).symm

/-- Digits of a number are placed without leaving them, in the layout for their point. -/
theorem place?_eq {digits : Text} {point : Int} (hbytes : IsSingleByte digits)
    (hne : digits ≠ []) (hlength : digits.length ≤ 17)
    (hpoint : -400 ≤ point ∧ point ≤ 400) :
    place? digits point =
      some (if -6 < point ∧ point ≤ 21 then positional digits point
        else scientific digits point) := by
  have hpositive := List.length_pos_iff.mpr hne
  have hwidth : word? (byteLength digits) = some (digits.length : Int) := by
    rw [hbytes.byteLength_eq]
    exact word?_of_small (by omega)
  unfold place?
  rw [hwidth]
  simp only [Option.bind_eq_bind, Option.bind_some]
  by_cases hinteger : (digits.length : Int) ≤ point ∧ point ≤ 21
  · have hmissing : word? (point - digits.length) = some (point - digits.length) :=
      word?_of_small (by omega)
    rw [if_pos hinteger, hmissing, Option.bind_some, toNat?_of_nonneg (by omega),
      if_pos (by omega), positional, if_neg (by omega), if_pos hinteger.1]
    rfl
  · rw [if_neg hinteger]
    by_cases hinner : 0 < point ∧ point ≤ 21
    · -- The point has some of the digits before it and some behind it.
      rw [if_pos hinner, toNat?_of_nonneg (by omega), Option.bind_some,
        hbytes.splitAtByte?_eq (by omega), if_pos (by omega), positional, if_neg (by omega),
        if_neg (by omega)]
      rfl
    · rw [if_neg hinner]
      by_cases hleading : -6 < point ∧ point ≤ 0
      · have hmissing : word? (-point) = some (-point) := word?_of_small (by omega)
        rw [if_pos hleading, hmissing, Option.bind_some, toNat?_of_nonneg (by omega),
          if_pos (by omega), positional, if_pos hleading.2]
        rfl
      · have hexponent : word? (point - 1) = some (point - 1) := word?_of_small (by omega)
        have hmagnitude : word? (point - 1).natAbs = some ((point - 1).natAbs : Int) :=
          word?_of_small (by omega)
        have hlayout : ¬ (-6 < point ∧ point ≤ 21) := by
          omega
        rw [if_neg hleading, hexponent, Option.bind_some,
          hbytes.splitAtByte?_eq (by omega), Option.bind_some, hmagnitude, Option.bind_some,
          if_neg hlayout, scientific]
        rfl

/-- The name of a value that is not finite is placed as three digits are. -/
theorem place?_name {name : Text} (hbytes : name.all (fun c => c.utf8Size = 1) = true)
    (hlength : name.length = 3) : place? name 1 = some (positional name 1) := by
  have hne : name ≠ [] := by
    rintro rfl
    cases hlength
  have hplaced := place?_eq (isSingleByte_of_all hbytes) hne (by omega)
    (by decide : (-400 : Int) ≤ 1 ∧ (1 : Int) ≤ 400)
  rwa [if_pos (by decide)] at hplaced

end Text

namespace Decimal

def layout? (d : Decimal) : Checked Text := do
  let point <- Text.word? d.point
  Text.place? d.digits point

theorem layout?_eq {d : Decimal} (hlength : d.digits.length ≤ 17)
    (hpoint : -400 ≤ d.point ∧ d.point ≤ 400) : d.layout? = some d.layout := by
  have hbytes : Text.IsSingleByte d.digits :=
    fun c hc => Text.utf8Size_of_isDigit (isDigit_of_mem_digits hc)
  have hword : Text.word? d.point = some d.point := Text.word?_of_small (by omega)
  rw [layout?, hword, Option.bind_eq_bind, Option.bind_some,
    Text.place?_eq hbytes d.digits_ne_nil hlength hpoint, layout]

end Decimal

namespace Binary64

def display? : Binary64 -> Checked Text
  | finite negative mantissa exponent h =>
      if mantissa = 0 then some ['0']
      else (Decimal.shortest mantissa exponent h).layout?.map (Text.signed negative)
  | infinite negative => (Text.place? "inf".toList 1).map (Text.signed negative)
  | nan => Text.place? "NaN".toList 1

theorem display?_eq (x : Binary64) : x.display? = some x.display := by
  cases x with
  | finite negative mantissa exponent h =>
      by_cases hzero : mantissa = 0
      · simp only [display?, display, if_pos hzero]
      · have hlayout := Decimal.layout?_eq (Decimal.shortest_length_digits h hzero)
          (Decimal.shortest_point h hzero)
        rw [display?, if_neg hzero, hlayout, Option.map_some, display_of_ne_zero negative h hzero]
  | infinite negative =>
      rw [display?, Text.place?_name (by decide) rfl, display, Option.map_some]
  | nan => rw [display?, Text.place?_name (by decide) rfl, display]

end Binary64

/-!
## Cutting the buffer

After an addition the buffer is cut where the first character beyond the capacity
begins, at an offset in bytes.
-/

namespace Text

theorem splitAtByte?_of_offset {t : Text} {n offset : Nat} {c : Char}
    (h : (offsetsFrom 0 t)[n]? = some (offset, c)) :
    offset < byteLength t ∧ splitAtByte? t offset = some (t.take n, t.drop n) := by
  rw [getElem?_offsetsFrom] at h
  rcases Option.map_eq_some_iff.mp h with ⟨d, hd, hoffset⟩
  cases hoffset
  have hwhole := List.take_append_drop n t
  rcases List.getElem?_eq_some_iff.mp hd with ⟨hn, rfl⟩
  constructor
  · have hpos := t[n].utf8Size_pos
    have hbytes := congrArg byteLength hwhole
    rw [byteLength_append, List.drop_eq_getElem_cons hn, byteLength_cons] at hbytes
    omega
  · have hsplit := splitAtByte?_append (t.take n) (t.drop n)
    rwa [hwhole, ← Nat.zero_add (byteLength (t.take n))] at hsplit

end Text

namespace Entry

/-- The buffer with a key added, cut at an offset if it has become too long. -/
def append? (buffer key : Text) : Checked Text :=
  match (Text.offsetsFrom 0 (buffer ++ key))[capacity]? with
  | some (offset, _) => (Text.splitAtByte? (buffer ++ key) offset).map Prod.fst
  | none => some (buffer ++ key)

theorem append?_eq (buffer key : Text) : append? buffer key = some (append buffer key) := by
  unfold append? append
  split
  · rename_i offset c hoffset
    rw [(Text.splitAtByte?_of_offset hoffset).2]
    rfl
  · rename_i hnone
    rw [Text.getElem?_offsetsFrom, Option.map_eq_none_iff, List.getElem?_eq_none_iff] at hnone
    rw [List.take_of_length_le hnone]

end Entry

end PocketCalculator
