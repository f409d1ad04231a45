import PocketCalculator.Proofs.CheckedAccess
import PocketCalculator.Proofs.PaddedLiterals

/-!
# Reading by positions

## Scans

Tokens can also be read by a position that moves over the characters of a text.
One scan passes over the digits of a mantissa and its point, another one over the
digits of an exponent, and a literal is cut out between the positions that they
reach.  All positions stay inside the text, and what is read there is what
taking pieces off the front reads.
-/

namespace PocketCalculator

namespace Text

def digitsEnd? (t : Text) (position : Nat) : Checked Nat :=
  if position < t.length then
    match t[position]? with
    | none => none
    | some c => if c.isDigit then digitsEnd? t (position + 1) else some position
  else some position
termination_by t.length - position

/-- The position after digits with at most one point, or with none once it was seen. -/
def mantissaEnd? (t : Text) (position : Nat) (pointSeen : Bool) : Checked Nat :=
  if position < t.length then
    match t[position]? with
    | none => none
    | some c =>
        if c.isDigit then mantissaEnd? t (position + 1) pointSeen
        else if c = '.' then
          if pointSeen then some position else mantissaEnd? t (position + 1) true
        else some position
  else some position
termination_by t.length - position

theorem position_lt (front : Text) (c : Char) (rest : Text) :
    front.length < (front ++ c :: rest).length := by
  simp

theorem getElem?_position (front : Text) (c : Char) (rest : Text) :
    (front ++ c :: rest)[front.length]? = some c := by
  simp

theorem position_succ (front : Text) (c : Char) (rest : Text) :
    (front ++ [c]) ++ rest = front ++ c :: rest ∧
      (front ++ [c]).length = front.length + 1 := by
  simp

theorem digitsEnd?_append (front rest : Text) :
    digitsEnd? (front ++ rest) front.length =
      some (front ++ rest.takeWhile Char.isDigit).length := by
  induction rest generalizing front with
  | nil =>
      rw [digitsEnd?]
      simp
  | cons c rest ih =>
      rw [digitsEnd?, if_pos (position_lt front c rest)]
      simp only [getElem?_position]
      by_cases hdigit : c.isDigit = true
      · have hnext := ih (front ++ [c])
        rw [(position_succ front c rest).1, (position_succ front c rest).2] at hnext
        rw [if_pos hdigit, hnext, List.takeWhile_cons_of_pos hdigit, List.append_assoc]
        rfl
      · rw [if_neg hdigit, List.takeWhile_cons_of_neg hdigit, List.append_nil]

theorem mantissaEnd?_pointSeen (t : Text) (position : Nat) :
    mantissaEnd? t position true = digitsEnd? t position := by
  fun_induction digitsEnd? t position with
  | case1 position hinside hnone =>
      rw [mantissaEnd?, if_pos hinside]
      simp only [hnone]
  | case2 position hinside c hc hdigit ih =>
      rw [mantissaEnd?, if_pos hinside]
      simp only [hc, if_pos hdigit, ih]
  | case3 position hinside c hc hdigit =>
      rw [mantissaEnd?, if_pos hinside]
      simp only [hc, if_neg hdigit, if_true, ite_self]
  | case4 position houtside => rw [mantissaEnd?, if_neg houtside]

end Text

namespace Literal

theorem mantissaText_split_of_isDigit {c : Char} (h : c.isDigit = true) (rest : Text) :
    (split (c :: rest)).1.mantissaText = c :: (split rest).1.mantissaText := by
  simp only [split, mantissaText, List.takeWhile_cons_of_pos h, List.dropWhile_cons_of_pos h,
    List.cons_append]

theorem mantissaText_split_of_not_isDigit {c : Char} (h : ¬ c.isDigit = true) (rest : Text) :
    (split (c :: rest)).1.mantissaText =
      if c = '.' then c :: rest.takeWhile Char.isDigit else [] := by
  simp only [split, mantissaText, List.takeWhile_cons_of_neg h, List.dropWhile_cons_of_neg h,
    splitFraction]
  split
  · rename_i hpoint
    rw [hpoint]
    rfl
  · rfl

end Literal

namespace Text

theorem mantissaEnd?_append_false (front rest : Text) :
    mantissaEnd? (front ++ rest) front.length false =
      some (front ++ (Literal.split rest).1.mantissaText).length := by
  induction rest generalizing front with
  | nil =>
      rw [mantissaEnd?]
      simp [Literal.split, Literal.splitFraction, Literal.mantissaText]
  | cons c rest ih =>
      rw [mantissaEnd?, if_pos (position_lt front c rest)]
      simp only [getElem?_position]
      by_cases hdigit : c.isDigit = true
      · have hnext := ih (front ++ [c])
        rw [(position_succ front c rest).1, (position_succ front c rest).2] at hnext
        rw [if_pos hdigit, hnext, Literal.mantissaText_split_of_isDigit hdigit,
          List.append_assoc]
        rfl
      · rw [if_neg hdigit, Literal.mantissaText_split_of_not_isDigit hdigit]
        by_cases hpoint : c = '.'
        · have hnext := digitsEnd?_append (front ++ [c]) rest
          rw [(position_succ front c rest).1, (position_succ front c rest).2] at hnext
          rw [if_pos hpoint, if_pos hpoint, mantissaEnd?_pointSeen, hnext, List.append_assoc]
          rfl
        · rw [if_neg hpoint, if_neg hpoint, List.append_nil]

end Text

/-!
## Literals

A literal is cut out in two pieces, its mantissa and its exponent.  The exponent is
missing when no marker follows the mantissa.
-/

namespace Text

def converted? (mantissa exponent : Text) : Option Binary64 :=
  if mantissa.any Char.isDigit then
    toNumber? ((if mantissa.head? = some '.' then ['0'] else []) ++ mantissa ++
      (if mantissa.getLast? = some '.' then ['0'] else []) ++ exponent)
  else none

def numberUpTo (mantissa exponent : Text) (next : Nat) :
    Except SyntaxError (Binary64 × Nat) :=
  match converted? mantissa exponent with
  | some x => .ok (x, next)
  | none => .error (.invalidNumber (mantissa ++ exponent))

/-- The exponent whose marker stands at a position: where its digits begin and end. -/
def exponentEnd? (t : Text) (marker : Nat) : Checked (Nat × Nat) := do
  let signed <- standsAt? Exponent.isSign t (marker + 1)
  let digits := if signed then marker + 2 else marker + 1
  let stop <- digitsEnd? t digits
  some (digits, stop)

/-- The literal that begins at a position, and the position after it. -/
def literalAt? (t : Text) (start : Nat) : Checked (Except SyntaxError (Binary64 × Nat)) := do
  let middle <- mantissaEnd? t start false
  let mantissa <- slice? t start middle
  let marked <- standsAt? Exponent.isMarker t middle
  if marked then
    let (digits, stop) <- exponentEnd? t middle
    let exponent <- slice? t middle stop
    if stop = digits then some (.error (.invalidNumber (mantissa ++ exponent)))
    else some (numberUpTo mantissa exponent stop)
  else some (numberUpTo mantissa [] middle)

end Text

namespace Exponent

theorem isSome_splitSign (t : Text) : (splitSign t).1.isSome = t.head?.any isSign := by
  cases t with
  | nil => rfl
  | cons c rest =>
      by_cases hsign : isSign c = true
      · simp [splitSign, hsign]
      · simp [splitSign, hsign]

def beginning (marker : Char) (rest : Text) : Exponent :=
  ⟨marker, (splitSign rest).1, (splitSign rest).2.takeWhile Char.isDigit⟩

end Exponent

namespace Text

theorem exponentEnd?_append (front : Text) (marker : Char) (rest : Text) :
    exponentEnd? (front ++ marker :: rest) front.length =
      some ((front ++ marker :: (Exponent.splitSign rest).1.toList).length,
        (front ++ (Exponent.beginning marker rest).text).length) := by
  have hsigned := standsAt?_append Exponent.isSign (front ++ [marker]) rest
  rw [(position_succ front marker rest).1, (position_succ front marker rest).2,
    ← Exponent.isSome_splitSign] at hsigned
  have hdigits := digitsEnd?_append (front ++ marker :: (Exponent.splitSign rest).1.toList)
    (Exponent.splitSign rest).2
  rw [List.append_assoc, List.cons_append, Exponent.splitSign_append] at hdigits
  have hplace : (if (Exponent.splitSign rest).1.isSome = true then front.length + 2
      else front.length + 1) =
        (front ++ marker :: (Exponent.splitSign rest).1.toList).length := by
    cases (Exponent.splitSign rest).1 with
    | none => simp
    | some s => simp
  unfold exponentEnd?
  rw [hsigned]
  simp only [Option.bind_eq_bind, Option.bind_some]
  rw [hplace, hdigits, List.append_assoc]
  rfl

end Text

namespace Exponent

theorem split_of_isMarker {c : Char} (h : isMarker c = true) (rest : Text) :
    split (c :: rest) =
      (some (beginning c rest), (splitSign rest).2.dropWhile Char.isDigit) := by
  rw [split, if_pos h]
  rfl

theorem split_of_unmarked {t : Text} (h : t.head?.any isMarker = false) :
    (split t).1 = none := by
  cases t with
  | nil => rfl
  | cons c rest =>
      have hmarker : ¬ isMarker c = true := by
        simpa using h
      rw [split, if_neg hmarker]

end Exponent

namespace Literal

def readUpTo (l : Literal) (next : Nat) : Except SyntaxError (Binary64 × Nat) :=
  match l.value? with
  | some x => .ok (x, next)
  | none => .error (.invalidNumber l.text)

/-- The pieces of a literal that is cut from a text are read as the literal is. -/
theorem readUpTo_split (t : Text) (next : Nat)
    (h : forall e, e ∈ (split t).1.exponent -> e.digits ≠ []) :
    (split t).1.readUpTo next =
      Text.numberUpTo (split t).1.mantissaText (split t).1.exponentText next := by
  rw [readUpTo, value?_split_eq_converted? t h]
  rfl

theorem readUpTo_of_no_digits {l : Literal} {e : Exponent} (hkind : l.exponent = some e)
    (hdigits : e.digits = []) (next : Nat) :
    l.readUpTo next = .error (.invalidNumber l.text) := by
  have hincomplete : l.isComplete = false := by
    simp [isComplete, hkind, hdigits]
  rw [readUpTo, value?_eq_none_iff.mpr hincomplete]

end Literal

namespace Text

section Pieces

variable (front rest : Text)

theorem slice?_mantissa :
    slice? (front ++ rest) front.length
        (front ++ (Literal.split rest).1.mantissaText).length =
      some (Literal.split rest).1.mantissaText := by
  have hslice := slice?_append front (Literal.split rest).1.mantissaText
    (Literal.afterMantissa rest)
  rwa [Literal.mantissaText_append_afterMantissa] at hslice

theorem standsAt?_afterMantissa (p : Char -> Bool) :
    standsAt? p (front ++ rest) (front ++ (Literal.split rest).1.mantissaText).length =
      some ((Literal.afterMantissa rest).head?.any p) := by
  have hbehind := standsAt?_append p (front ++ (Literal.split rest).1.mantissaText)
    (Literal.afterMantissa rest)
  rwa [List.append_assoc, Literal.mantissaText_append_afterMantissa] at hbehind

theorem slice?_exponent :
    slice? (front ++ rest) (front ++ (Literal.split rest).1.mantissaText).length
        (front ++ (Literal.split rest).1.text).length =
      some (Literal.split rest).1.exponentText := by
  have hslice := slice?_append (front ++ (Literal.split rest).1.mantissaText)
    (Literal.split rest).1.exponentText (Literal.split rest).2
  have hafter : (Literal.split rest).1.exponentText ++ (Literal.split rest).2 =
      Literal.afterMantissa rest :=
    Exponent.split_append (Literal.afterMantissa rest)
  rwa [hafter, List.append_assoc, List.append_assoc,
    Literal.mantissaText_append_afterMantissa] at hslice

theorem literalAt?_of_unmarked
    (h : (Literal.afterMantissa rest).head?.any Exponent.isMarker = false) :
    literalAt? (front ++ rest) front.length =
      some ((Literal.split rest).1.readUpTo
        (front ++ (Literal.split rest).1.text).length) := by
  have hexponent : (Literal.split rest).1.exponent = none :=
    Exponent.split_of_unmarked h
  have htext := Literal.exponentText_of_none hexponent
  unfold literalAt?
  rw [mantissaEnd?_append_false]
  simp only [Option.bind_eq_bind, Option.bind_some]
  rw [slice?_mantissa, standsAt?_afterMantissa, h,
    Literal.readUpTo_split rest _ (by simp [hexponent]), Literal.text, htext, List.append_nil]
  rfl

theorem literalAt?_of_marked {marker : Char} {after : Text}
    (hafter : Literal.afterMantissa rest = marker :: after)
    (hmarker : Exponent.isMarker marker = true) :
    literalAt? (front ++ rest) front.length =
      some ((Literal.split rest).1.readUpTo
        (front ++ (Literal.split rest).1.text).length) := by
  have hmarked : (Literal.afterMantissa rest).head?.any Exponent.isMarker = true := by
    simpa [hafter] using hmarker
  have hexponent : (Literal.split rest).1.exponent =
      some (Exponent.beginning marker after) := by
    rw [Literal.exponent_split, hafter, Exponent.split_of_isMarker hmarker]
  have htext := Literal.exponentText_of_some hexponent
  have hend := exponentEnd?_append (front ++ (Literal.split rest).1.mantissaText) marker after
  have hwhole : (Literal.split rest).1.mantissaText ++ (Literal.split rest).1.exponentText =
      (Literal.split rest).1.text := rfl
  rw [← hafter, List.append_assoc, Literal.mantissaText_append_afterMantissa, ← htext,
    List.append_assoc _ _ (Literal.exponentText _), hwhole] at hend
  unfold literalAt?
  rw [mantissaEnd?_append_false]
  simp only [Option.bind_eq_bind, Option.bind_some]
  rw [slice?_mantissa, standsAt?_afterMantissa, hmarked]
  simp only [Option.bind_some, if_true]
  rw [hend]
  simp only [Option.bind_some]
  rw [slice?_exponent]
  simp only [Option.bind_some]
  have hlength : (Literal.split rest).1.exponentText.length =
      (marker :: (Exponent.splitSign after).1.toList).length +
        (Exponent.beginning marker after).digits.length := by
    rw [htext, ← List.length_append]
    rfl
  have hstop : (front ++ (Literal.split rest).1.text).length =
      (front ++ (Literal.split rest).1.mantissaText ++
        marker :: (Exponent.splitSign after).1.toList).length +
          (Exponent.beginning marker after).digits.length := by
    rw [← hwhole, ← List.append_assoc, List.length_append, hlength, ← Nat.add_assoc,
      ← List.length_append]
  by_cases hdigits : (Exponent.beginning marker after).digits = []
  · rw [hdigits, List.length_nil, Nat.add_zero] at hstop
    rw [if_pos hstop, Literal.readUpTo_of_no_digits hexponent hdigits, hwhole]
  · have hpositive := List.length_pos_iff.mpr hdigits
    rw [if_neg (by omega), Literal.readUpTo_split]
    intro e he
    rw [hexponent] at he
    cases he
    exact hdigits

/-- The literal that begins at a position is the longest one there. -/
theorem literalAt?_append :
    literalAt? (front ++ rest) front.length =
      some ((Literal.split rest).1.readUpTo
        (front ++ (Literal.split rest).1.text).length) := by
  cases hmarked : (Literal.afterMantissa rest).head?.any Exponent.isMarker with
  | false => exact literalAt?_of_unmarked front rest hmarked
  | true =>
      cases hafter : Literal.afterMantissa rest with
      | nil => simp [hafter] at hmarked
      | cons marker after =>
          rw [hafter] at hmarked
          exact literalAt?_of_marked front rest hafter (by simpa using hmarked)

end Pieces

end Text

/-!
## Tokens

The position moves over a sign or to the end of a literal, until it reaches the end
of the text.
-/

namespace Token

def readFrom? (t : Text) (position : Nat) (done : List Token) :
    Checked (Except SyntaxError (List Token)) :=
  if position < t.length then
    match t[position]? with
    | none => none
    | some c =>
        match Operator.ofChar? c with
        | some o => readFrom? t (position + 1) (operator o :: done)
        | none =>
            if Literal.opens c then
              match Text.literalAt? t position with
              | none => none
              | some (.error cause) => some (.error cause)
              | some (.ok (x, next)) =>
                  -- The loop would not end if the position did not move on.
                  if position < next then readFrom? t next (number x :: done) else none
            else some (.error (.unexpectedCharacter c))
  else some (.ok done.reverse)
termination_by t.length - position

theorem readFrom?_append (front : Text) (done : List Token) (rest : Text) :
    readFrom? (front ++ rest) front.length done = some (readOnto done rest) := by
  induction done, rest using readOnto.induct generalizing front with
  | case1 done =>
      rw [readFrom?, readOnto]
      simp
  | case2 done c rest o hsign ih =>
      have hnext := ih (front ++ [c])
      rw [(Text.position_succ front c rest).1, (Text.position_succ front c rest).2] at hnext
      rw [readFrom?, if_pos (Text.position_lt front c rest), readOnto]
      simp only [Text.getElem?_position, hsign, hnext]
  | case3 done c rest hsign hopens x hvalue ih =>
      have hnext := ih (front ++ (Literal.split (c :: rest)).1.text)
      rw [List.append_assoc, Literal.split_append] at hnext
      have hliteral := Text.literalAt?_append front (c :: rest)
      rw [Literal.readUpTo, hvalue] at hliteral
      have hmoves : front.length < (front ++ (Literal.split (c :: rest)).1.text).length := by
        have hshorter : (Literal.split (c :: rest)).2.length < (c :: rest).length :=
          Literal.split_rest_length_lt hopens
        have hwhole := congrArg List.length (Literal.split_append (c :: rest))
        rw [List.length_append] at hwhole ⊢
        omega
      rw [readFrom?, if_pos (Text.position_lt front c rest), readOnto]
      simp only [Text.getElem?_position, hsign, hopens, hliteral, hvalue, hmoves, if_true,
        dite_true, hnext]
  | case4 done c rest hsign hopens hvalue =>
      have hliteral := Text.literalAt?_append front (c :: rest)
      rw [Literal.readUpTo, hvalue] at hliteral
      rw [readFrom?, if_pos (Text.position_lt front c rest), readOnto]
      simp only [Text.getElem?_position, hsign, hopens, hliteral, hvalue, if_true, dite_true]
  | case5 done c rest hsign hopens =>
      rw [readFrom?, if_pos (Text.position_lt front c rest), readOnto]
      simp only [Text.getElem?_position, hsign, hopens, Bool.false_eq_true, if_false, dite_false]

/-- The tokens of a text, read by positions. -/
def readByPositions? (t : Text) : Checked (Except SyntaxError (List Token)) :=
  readFrom? (Text.strip t) 0 []

theorem readByPositions?_eq (t : Text) : readByPositions? t = some (read t) :=
  readFrom?_append [] [] (Text.strip t)

end Token

end PocketCalculator
