import PocketCalculator.Proofs.Frames
import PocketCalculator.Proofs.Neighbours

/-!
# Keys of the pad

## Typed characters

The digits, the point and the four signs are the characters that expressions are
typed with.  Such a character is added to the buffer unless the buffer ends with
one that it may not follow.
-/

namespace PocketCalculator

namespace Entry

def isTypable (c : Char) : Bool :=
  Literal.opens c || Operator.isSymbol c

/--
Whether a character may follow the buffer: no sign follows a sign, no point
follows a point, and only the minus sign comes first.
-/
def Follows (buffer : Text) (c : Char) : Prop :=
  (Operator.isSymbol c = true -> endsWithOperator buffer = false ∧ (buffer = [] -> c = '-')) ∧
    (c = '.' -> endsWithPoint buffer = false)

theorem endsWithOperator_eq_false_iff {buffer : Text} :
    endsWithOperator buffer = false <->
      forall c, c ∈ buffer.getLast? -> Operator.isSymbol c = false := by
  unfold endsWithOperator
  cases buffer.getLast? with
  | none => simp
  | some c => simp

theorem endsWithOperator_eq_true_iff {buffer : Text} :
    endsWithOperator buffer = true <->
      exists c, c ∈ buffer.getLast? ∧ Operator.isSymbol c = true := by
  unfold endsWithOperator
  cases buffer.getLast? with
  | none => simp
  | some c => simp

theorem endsWithPoint_eq_false_iff {buffer : Text} :
    endsWithPoint buffer = false <-> forall c, c ∈ buffer.getLast? -> isPoint c = false := by
  unfold endsWithPoint isPoint
  cases buffer.getLast? with
  | none => simp
  | some c => simp

variable {buffer : Text} {c : Char}

theorem press_of_follows (hc : isTypable c = true) (h : Follows buffer c) :
    press buffer [c] = .applied (append buffer [c]) [] := by
  change pressCharacter buffer c = _
  unfold pressCharacter
  cases hsign : Operator.ofChar? c with
  | some o =>
      have hsymbol : Operator.isSymbol c = true := by
        rw [Operator.isSymbol, hsign]
        rfl
      rcases h.1 hsymbol with ⟨hends, hopening⟩
      have hallowed : ¬ (buffer = [] ∧ o ≠ .minus) := by
        rintro ⟨hnil, hminus⟩
        rw [hopening hnil] at hsign
        cases hsign
        exact hminus rfl
      simp only [pressOperator, if_neg hallowed, hends, Operator.symbol_of_ofChar? hsign]
      rfl
  | none =>
      have hopens : Literal.opens c = true := by
        simpa [isTypable, Operator.isSymbol, hsign] using hc
      have hclear : c ≠ 'C' := by
        rintro rfl
        exact absurd hopens (by decide)
      have hequals : c ≠ '=' := by
        rintro rfl
        exact absurd hopens (by decide)
      simp only [if_neg hclear, if_neg hequals]
      by_cases hpoint : c = '.'
      · simp only [pressPoint, h.2 hpoint, hpoint]
        rfl
      · simp only [if_neg hpoint]

theorem pressCharacter_of_sign {o : Operator} (h : Operator.ofChar? c = some o) :
    pressCharacter buffer c = pressOperator buffer o := by
  simp only [pressCharacter, h]

theorem bufferFrom_of_not_follows (hc : isTypable c = true) (h : ¬ Follows buffer c) :
    (press buffer [c]).bufferFrom buffer = buffer ∨
      (endsWithOperator buffer = true ∧
        exists o : Operator,
          (press buffer [c]).bufferFrom buffer = buffer.dropLast ++ [o.symbol]) := by
  change (pressCharacter buffer c).bufferFrom buffer = _ ∨
    (_ ∧ exists o : Operator, (pressCharacter buffer c).bufferFrom buffer = _)
  cases hsign : Operator.ofChar? c with
  | some o =>
      rw [pressCharacter_of_sign hsign]
      unfold pressOperator
      by_cases hrefused : buffer = [] ∧ o ≠ .minus
      · rw [if_pos hrefused]
        exact .inl rfl
      · rw [if_neg hrefused]
        by_cases hends : endsWithOperator buffer = true
        · rw [if_pos hends]
          exact .inr ⟨hends, o, rfl⟩
        · apply absurd _ h
          refine ⟨fun _ => ⟨by simpa using hends, ?_⟩, ?_⟩
          · intro hnil
            have hminus : o = .minus := by
              simpa [hnil] using hrefused
            rw [← Operator.symbol_of_ofChar? hsign, hminus]
            rfl
          · rintro rfl
            cases hsign
  | none =>
      have hpoint : c = '.' ∧ endsWithPoint buffer = true := by
        simpa [Follows, Operator.isSymbol, hsign] using h
      rcases hpoint with ⟨rfl, hends⟩
      change (pressPoint buffer).bufferFrom buffer = _ ∨ _
      rw [pressPoint, if_pos hends]
      exact .inl rfl

/-!
## What a key of the pad does

Every key of the pad either leaves the buffer, clears it, answers it, replaces a
sign at its end or adds a character that may follow it.
-/

inductive PadStep (buffer : Text) : Text -> Prop where
  | ignored : PadStep buffer buffer
  | cleared : PadStep buffer []
  | answered : PadStep buffer (answer buffer)
  | replaced (o : Operator) : endsWithOperator buffer = true ->
      PadStep buffer (buffer.dropLast ++ [o.symbol])
  | added (c : Char) : isTypable c = true -> Follows buffer c ->
      PadStep buffer (append buffer [c])

theorem padStep_of_isTypable (hc : isTypable c = true) (buffer : Text) :
    PadStep buffer ((press buffer [c]).bufferFrom buffer) := by
  by_cases hfollows : Follows buffer c
  · rw [press_of_follows hc hfollows]
    exact PadStep.added c hc hfollows
  · rcases bufferFrom_of_not_follows hc hfollows with hsame | ⟨hends, o, hreplaced⟩
    · rw [hsame]
      exact PadStep.ignored
    · rw [hreplaced]
      exact PadStep.replaced o hends

theorem isTypable_symbol (o : Operator) : isTypable o.symbol = true := by
  cases o <;> decide

theorem padStep_label (k : Key) (buffer : Text) :
    PadStep buffer ((press buffer k.label).bufferFrom buffer) := by
  cases k with
  | digit d =>
      have hdigit : isTypable (Nat.digitChar d) = true := by
        revert d
        decide
      exact padStep_of_isTypable hdigit buffer
  | operator o => exact padStep_of_isTypable (isTypable_symbol o) buffer
  | point => exact padStep_of_isTypable (by decide) buffer
  | equals =>
      change PadStep buffer ((press buffer ['=']).bufferFrom buffer)
      rw [bufferFrom_equals]
      exact PadStep.answered
  | clear => exact PadStep.cleared

end Entry

namespace Keypad

theorem mem_cellTexts {key : Text} :
    key ∈ cellTexts <-> key = [] ∨ exists k : Key, key = k.label := by
  constructor
  · intro h
    rcases List.mem_map.mp h with ⟨cell, _, rfl⟩
    cases cell with
    | none => exact .inl rfl
    | some k => exact .inr ⟨k, rfl⟩
  · rintro (rfl | ⟨k, rfl⟩)
    · decide
    · rcases List.mem_filterMap.mp (mem_keys k) with ⟨cell, hcell, hk⟩
      apply List.mem_map.mpr
      exact ⟨cell, hcell, by rw [id_eq] at hk; rw [hk]; rfl⟩

end Keypad

namespace Entry

theorem pressAll_pad_induction (Holds : Text -> Prop)
    (hstep : forall buffer buffer', Holds buffer -> PadStep buffer buffer' -> Holds buffer')
    {buffer : Text} (h : Holds buffer) {keys : List Text}
    (hkeys : forall key, key ∈ keys -> key ∈ Keypad.cellTexts) :
    Holds (pressAll buffer keys) := by
  induction keys generalizing buffer with
  | nil => exact h
  | cons key keys ih =>
      rw [pressAll_cons]
      apply ih
      · apply hstep buffer _ h
        rcases Keypad.mem_cellTexts.mp (hkeys key (List.mem_cons_self ..)) with rfl | ⟨k, rfl⟩
        · exact PadStep.ignored
        · exact padStep_label k buffer
      · intro other hother
        exact hkeys other (List.mem_cons_of_mem key hother)

/-!
## Signs and points stand apart

An answer begins a new buffer, and every addition keeps its distance.
-/

theorem isSymbol_symbol (o : Operator) : Operator.isSymbol o.symbol = true := by
  rw [Operator.isSymbol, Operator.ofChar?_symbol]
  rfl

theorem isPoint_symbol (o : Operator) : isPoint o.symbol = false := by
  cases o <;> decide

structure IsSpaced (buffer : Text) : Prop where
  signs : StandApart Operator.isSymbol buffer
  points : StandApart isPoint buffer

theorem isSpaced_nil : IsSpaced [] :=
  ⟨standApart_nil, standApart_nil⟩

theorem isSpaced_answer (s : Text) : IsSpaced (answer s) :=
  ⟨answer_isSymbol_standApart s, answer_isPoint_standApart s⟩

theorem IsSpaced.append {buffer : Text} {c : Char} (h : IsSpaced buffer)
    (hfollows : Follows buffer c) : IsSpaced (append buffer [c]) := by
  constructor
  · apply StandApart.take
    apply h.signs.concat
    intro hc
    exact endsWithOperator_eq_false_iff.mp (hfollows.1 hc).1
  · apply StandApart.take
    apply h.points.concat
    intro hc
    have hpoint : c = '.' := of_decide_eq_true hc
    exact endsWithPoint_eq_false_iff.mp (hfollows.2 hpoint)

theorem IsSpaced.replace {buffer : Text} (h : IsSpaced buffer)
    (hends : endsWithOperator buffer = true) (o : Operator) :
    IsSpaced (buffer.dropLast ++ [o.symbol]) := by
  rcases endsWithOperator_eq_true_iff.mp hends with ⟨last, hlast, hsymbol⟩
  constructor
  · apply h.signs.replaceLast
    intro b hb
    rw [Option.mem_unique hb hlast]
    exact hsymbol
  · have hbefore : StandApart isPoint buffer.dropLast := by
      rw [List.dropLast_eq_take]
      exact h.points.take _
    apply hbefore.concat
    intro hpoint
    rw [isPoint_symbol] at hpoint
    cases hpoint

theorem IsSpaced.padStep {buffer buffer' : Text} (h : IsSpaced buffer)
    (hstep : PadStep buffer buffer') : IsSpaced buffer' := by
  cases hstep with
  | ignored => exact h
  | cleared => exact isSpaced_nil
  | answered => exact isSpaced_answer buffer
  | replaced o hends => exact h.replace hends o
  | added c hc hfollows => exact h.append hfollows

theorem isSpaced_pressAll {keys : List Text}
    (hkeys : forall key, key ∈ keys -> key ∈ Keypad.cellTexts) : IsSpaced (pressAll [] keys) :=
  pressAll_pad_induction IsSpaced (fun _ _ h hstep => h.padStep hstep) isSpaced_nil hkeys

theorem isSpaced_pressAll_labels (keys : List Key) :
    IsSpaced (pressAll [] (keys.map Key.label)) := by
  apply isSpaced_pressAll
  intro key hkey
  rcases List.mem_map.mp hkey with ⟨k, _, rfl⟩
  exact Keypad.mem_cellTexts.mpr (.inr ⟨k, rfl⟩)

end Entry

theorem Key.label_mem_characters (k : Key) :
    k.label ∈ "0123456789.+-*/=C".toList.map fun c => [c] := by
  cases k with
  | digit d => revert d; decide
  | operator o => cases o <;> decide
  | point => decide
  | equals => decide
  | clear => decide

/--
The keyboard gives no other keys than the pad has, and whatever keys are pressed,
on the pad or over the frames of a window, no two signs and no two points ever
become neighbours in the buffer.
-/
theorem signs_and_points_stand_apart :
    (forall events : List InputEvent,
      (Keyboard.ofEvents events).map Key.label ⊆
        "0123456789.+-*/=C".toList.map fun c => [c]) ∧
    (forall keys : List Key,
      StandApart Operator.isSymbol (Entry.pressAll [] (keys.map Key.label)) ∧
      StandApart isPoint (Entry.pressAll [] (keys.map Key.label))) ∧
    (forall (σ : Type) [Display σ] (display : σ) (keys : List Key),
      StandApart Operator.isSymbol
        ((Calculator.new display).pressAll (keys.map Key.label)).buffer ∧
      StandApart isPoint ((Calculator.new display).pressAll (keys.map Key.label)).buffer) ∧
    (forall (kit : Toolkit) (frames : List Frame),
      StandApart Operator.isSymbol
        ((Window.initial kit).afterAll frames).calculator.buffer ∧
      StandApart isPoint ((Window.initial kit).afterAll frames).calculator.buffer) := by
  have hrun : forall keys : List Key, Entry.IsSpaced (Entry.pressAll [] (keys.map Key.label)) :=
    Entry.isSpaced_pressAll_labels
  refine ⟨?_, ?_, ?_, ?_⟩
  · intro events key hkey
    rcases List.mem_map.mp hkey with ⟨k, _, rfl⟩
    exact k.label_mem_characters
  · intro keys
    exact ⟨(hrun keys).signs, (hrun keys).points⟩
  · intro σ _ display keys
    rw [Calculator.pressAll_buffer]
    exact ⟨(hrun keys).signs, (hrun keys).points⟩
  · intro kit frames
    rcases (Window.initial kit).exists_keys_afterAll frames with ⟨keys, hkeys⟩
    rw [hkeys, Calculator.pressAll_buffer]
    exact ⟨(hrun keys).signs, (hrun keys).points⟩

end PocketCalculator
