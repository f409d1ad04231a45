import PocketCalculator.Proofs.KeyRuns
import PocketCalculator.Proofs.Meaning
import PocketCalculator.Proofs.Offsets
import PocketCalculator.Proofs.Places
import PocketCalculator.Proofs.Positions

/-!
# Runs by checked accesses

## Evaluation

An evaluation whose every access is checked reads the tokens by positions,
assembles the nodes by places, makes their text as the log does, looks up their
value and places the digits of it by offsets.  It always ends, with the answer.
-/

namespace PocketCalculator

namespace Node

def readTokens? (tokens : List Token) :
    Checked (Except SyntaxError (Text × Option Binary64)) :=
  match Postfix.ofTokens tokens with
  | .error cause => some (.error cause)
  | .ok items => assembleAndRead? items

theorem readTokens?_eq (tokens : List Token) :
    readTokens? tokens =
      some ((Postfix.ofTokens tokens >>= Arena.ofPostfix).map fun a => (a.text, a.value?)) := by
  unfold readTokens?
  cases Postfix.ofTokens tokens with
  | error cause => rfl
  | ok items => exact assembleAndRead?_eq items

end Node

namespace Evaluation

def outcomeOf : Option Binary64 -> Outcome
  | some x => .ofValue x
  | none => .refused (.malformed .invalidExpression)

theorem outcome_finishedBy (expression : Text) (value : Option Binary64)
    (events : List Event) :
    (finishedBy expression value events).outcome = outcomeOf value := by
  cases value with
  | none => rfl
  | some x => exact finishedBy_outcome expression x events

def outcome? (expression : Text) : Checked Outcome :=
  if expression.all Text.isBlank then some .blank
  else do
    match <- Token.readByPositions? expression with
    | .error cause => some (.refused (.malformed cause))
    | .ok tokens =>
        match <- Node.readTokens? tokens with
        | .error cause => some (.refused (.malformed cause))
        -- The text is made for the log alone.
        | .ok (_, value) => some (outcomeOf value)

theorem outcome?_eq (expression : Text) :
    outcome? expression = some (evaluate expression) := by
  unfold outcome? evaluate run
  split
  · rfl
  · rw [Token.readByPositions?_eq, Option.bind_eq_bind, Option.bind_some]
    cases Token.read expression with
    | error cause => rfl
    | ok tokens =>
        simp only [Node.readTokens?_eq]
        cases Postfix.ofTokens tokens with
        | error cause => rfl
        | ok items =>
            simp only [bind, Except.bind]
            cases Arena.ofPostfix items with
            | error cause => rfl
            | ok a => exact congrArg some (outcome_finishedBy expression a.value? _).symm

end Evaluation

namespace Outcome

def text? : Outcome -> Checked Text
  | blank => some []
  | number x => x.display?
  | refused cause => some cause.display

theorem text?_eq (outcome : Outcome) : outcome.text? = some outcome.text := by
  cases outcome with
  | blank => rfl
  | number x => exact x.display?_eq
  | refused cause => rfl

end Outcome

def answer? (expression : Text) : Checked Text :=
  (Evaluation.outcome? expression).bind Outcome.text?

theorem answer?_eq (expression : Text) : answer? expression = some (answer expression) := by
  rw [answer?, Evaluation.outcome?_eq, Option.bind_some, Outcome.text?_eq, answer]

/-!
## Keys

Of all that a key does, only adding to the buffer and evaluating it access a text.
-/

namespace Entry

def pressOperator? (buffer : Text) (o : Operator) : Checked Text :=
  if buffer = [] ∧ o ≠ .minus then some buffer
  else if endsWithOperator buffer then some (buffer.dropLast ++ [o.symbol])
  else append? buffer [o.symbol]

def pressCharacter? (buffer : Text) (c : Char) : Checked Text :=
  match Operator.ofChar? c with
  | some o => pressOperator? buffer o
  | none =>
      if c = 'C' then some []
      else if c = '=' then answer? buffer
      else if c = '.' then
        if endsWithPoint buffer then some buffer else append? buffer ['.']
      else append? buffer [c]

def press? (buffer : Text) : Text -> Checked Text
  | [] => some buffer
  | [c] => pressCharacter? buffer c
  | key => append? buffer key

theorem pressOperator?_eq (buffer : Text) (o : Operator) :
    pressOperator? buffer o = some ((pressOperator buffer o).bufferFrom buffer) := by
  unfold pressOperator? pressOperator
  split
  · rfl
  · split
    · rfl
    · exact append?_eq buffer [o.symbol]

theorem pressCharacter?_eq (buffer : Text) (c : Char) :
    pressCharacter? buffer c = some ((pressCharacter buffer c).bufferFrom buffer) := by
  unfold pressCharacter? pressCharacter
  cases Operator.ofChar? c with
  | some o => exact pressOperator?_eq buffer o
  | none =>
      simp only
      split
      · rfl
      · split
        · exact answer?_eq buffer
        · split
          · unfold pressPoint
            split
            · rfl
            · exact append?_eq buffer ['.']
          · exact append?_eq buffer [c]

theorem press?_eq (buffer key : Text) :
    press? buffer key = some ((press buffer key).bufferFrom buffer) := by
  match key with
  | [] => rfl
  | [c] => exact pressCharacter?_eq buffer c
  | c :: d :: rest => exact append?_eq buffer (c :: d :: rest)

def pressAll? (buffer : Text) (keys : List Text) : Checked Text :=
  keys.foldlM press? buffer

theorem pressAll?_eq (buffer : Text) (keys : List Text) :
    pressAll? buffer keys = some (pressAll buffer keys) := by
  induction keys generalizing buffer with
  | nil => rfl
  | cons key keys ih =>
      rw [pressAll?, List.foldlM_cons, press?_eq, Option.bind_eq_bind, Option.bind_some,
        pressAll_cons]
      exact ih _

/-- What is cut off the buffer begins at a boundary inside the text. -/
theorem cut_inside {buffer key : Text} {offset : Nat} {c : Char}
    (h : (Text.offsetsFrom 0 (buffer ++ key))[capacity]? = some (offset, c)) :
    offset < Text.byteLength (buffer ++ key) ∧
      exists rest, Text.splitAtByte? (buffer ++ key) offset =
        some (append buffer key, rest) ∧
          append buffer key ++ rest = buffer ++ key ∧
          Text.byteLength (append buffer key) = offset := by
  rcases Text.splitAtByte?_of_offset h with ⟨hinside, hsplit⟩
  exact ⟨hinside, _, hsplit, Text.eq_of_splitAtByte? hsplit⟩

end Entry

/-!
## All accesses

No text, no tokens, no postfix list, no number and no keys lead to an access
outside of what is accessed, so what is computed by checked accesses is what is
computed.
-/

theorem every_access_is_in_range :
    (forall expression, answer? expression = some (answer expression)) ∧
    (forall tokens, Node.readTokens? tokens =
      some ((Postfix.ofTokens tokens >>= Arena.ofPostfix).map fun a => (a.text, a.value?))) ∧
    (forall items, Node.assembleAndRead? items =
      some ((Arena.ofPostfix items).map fun a => (a.text, a.value?))) ∧
    (forall x : Binary64, x.display? = some x.display) ∧
    (forall buffer keys, Entry.pressAll? buffer keys = some (Entry.pressAll buffer keys)) ∧
    forall (buffer key : Text) (offset : Nat) (c : Char),
      (Text.offsetsFrom 0 (buffer ++ key))[Entry.capacity]? = some (offset, c) ->
        offset < Text.byteLength (buffer ++ key) ∧
          exists rest, Text.splitAtByte? (buffer ++ key) offset =
            some (Entry.append buffer key, rest) ∧
              Entry.append buffer key ++ rest = buffer ++ key ∧
              Text.byteLength (Entry.append buffer key) = offset :=
  ⟨answer?_eq, Node.readTokens?_eq, Node.assembleAndRead?_eq, Binary64.display?_eq,
    Entry.pressAll?_eq, fun _ _ _ _ => Entry.cut_inside⟩

/-- Thirty letters of two bytes are kept of thirty-one. -/
theorem every_access_is_in_range_letters :
    (Text.offsetsFrom 0 (List.replicate 30 'é' ++ ['é']))[Entry.capacity]? = some (60, 'é') ∧
      60 < Text.byteLength (List.replicate 30 'é' ++ ['é']) ∧
      exists rest, Text.splitAtByte? (List.replicate 30 'é' ++ ['é']) 60 =
        some (Entry.append (List.replicate 30 'é') ['é'], rest) ∧
          Entry.append (List.replicate 30 'é') ['é'] ++ rest =
            List.replicate 30 'é' ++ ['é'] ∧
          Text.byteLength (Entry.append (List.replicate 30 'é') ['é']) = 60 := by
  have hoffset : (Text.offsetsFrom 0 (List.replicate 30 'é' ++ ['é']))[Entry.capacity]? =
      some (60, 'é') := by
    decide
  exact ⟨hoffset, every_access_is_in_range.2.2.2.2.2 _ _ _ _ hoffset⟩

end PocketCalculator
