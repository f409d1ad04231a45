import PocketCalculator.Proofs.LongestLexemes

/-!
# Reading lexemes

## The lexemes that are read

The reader takes one lexeme after another and turns each into its token.  It
stops at the end of the text, at a character that begins no lexeme, or at a
literal that is not complete.
-/

namespace PocketCalculator

namespace Token

def IsTokenOf (w : Text) : Token -> Prop
  | number x => Literal.ReadAs w x
  | operator o => w = [o.symbol]

/-- Reading lexemes, with their tokens, off the front of a text. -/
inductive Takes : Text -> List Text -> List Token -> Text -> Prop where
  | nothing (t : Text) : Takes t [] [] t
  | operator {t rest : Text} {lexemes : List Text} {tokens : List Token} (o : Operator) :
      Takes t lexemes tokens rest ->
      Takes (o.symbol :: t) ([o.symbol] :: lexemes) (.operator o :: tokens) rest
  | number {l : Literal} {t rest : Text} {lexemes : List Text} {tokens : List Token} :
      l.IsWellFormed -> Literal.split (l.text ++ t) = (l, t) ->
      Takes t lexemes tokens rest ->
      Takes (l.text ++ t) (l.text :: lexemes) (.number l.number :: tokens) rest

/-- Where no further lexeme is read. -/
inductive Stops : Text -> Prop where
  | atEnd : Stops []
  | unexpected {c : Char} {after : Text} :
      Operator.ofChar? c = none -> Literal.opens c = false -> Stops (c :: after)
  | incomplete {c : Char} {after : Text} :
      Literal.opens c = true -> (Literal.split (c :: after)).1.isComplete = false ->
      Stops (c :: after)

theorem exists_takes (done : List Token) (t : Text) :
    exists lexemes tokens rest, Takes t lexemes tokens rest ∧ Stops rest := by
  induction done, t using readOnto.induct with
  | case1 done => exact ⟨[], [], [], .nothing [], .atEnd⟩
  | case2 done c rest o hsign ih =>
      rcases ih with ⟨lexemes, tokens, left, htakes, hstops⟩
      rw [← Operator.symbol_of_ofChar? hsign]
      exact ⟨_, _, left, .operator o htakes, hstops⟩
  | case3 done c rest hsign hopens x hvalue ih =>
      rcases ih with ⟨lexemes, tokens, left, htakes, hstops⟩
      have hwell := Literal.isWellFormed_of_isComplete (Literal.isComplete_of_value? hvalue)
      have hwhole := Literal.split_append (c :: rest)
      have hsplit : Literal.split ((Literal.split (c :: rest)).1.text ++
          (Literal.split (c :: rest)).2) =
          ((Literal.split (c :: rest)).1, (Literal.split (c :: rest)).2) := by
        rw [hwhole]
      have hnumber := Takes.number hwell hsplit htakes
      rw [hwhole] at hnumber
      exact ⟨_, _, left, hnumber, hstops⟩
  | case4 done c rest hsign hopens hvalue =>
      exact ⟨[], [], c :: rest, .nothing _,
        .incomplete hopens (Literal.value?_eq_none_iff.mp hvalue)⟩
  | case5 done c rest hsign hopens =>
      exact ⟨[], [], c :: rest, .nothing _, .unexpected hsign (Bool.eq_false_iff.mpr hopens)⟩

namespace Takes

variable {t rest : Text} {lexemes : List Text} {tokens : List Token}

theorem readOnto_eq (h : Takes t lexemes tokens rest) (done : List Token) :
    readOnto done t = readOnto (tokens.reverse ++ done) rest := by
  induction h generalizing done with
  | nothing t => rfl
  | operator o hrest ih =>
      rw [readOnto_symbol, ih, List.reverse_cons, List.append_assoc, List.singleton_append]
  | number hl hsplit hrest ih =>
      rw [readOnto_of_split hl done hsplit, ih, List.reverse_cons, List.append_assoc,
        List.singleton_append]

theorem flatten (h : Takes t lexemes tokens rest) : lexemes.flatten ++ rest = t := by
  induction h with
  | nothing t => rfl
  | operator o hrest ih => rw [List.flatten_cons, List.append_assoc, ih, List.singleton_append]
  | number hl hsplit hrest ih => rw [List.flatten_cons, List.append_assoc, ih]

theorem isTokenOf (h : Takes t lexemes tokens rest) :
    List.Forall₂ IsTokenOf lexemes tokens := by
  induction h with
  | nothing t => exact .nil
  | operator o hrest ih => exact .cons rfl ih
  | number hl hsplit hrest ih => exact .cons ⟨_, hl, rfl, rfl⟩ ih

theorem munches (h : Takes t lexemes tokens rest) {others : List Text} {left : Text}
    (hrest : Text.Munches rest others left) : Text.Munches t (lexemes ++ others) left := by
  induction h with
  | nothing t => exact hrest
  | operator o _ ih => exact .step (Text.isLongest_operator o _) (ih hrest)
  | number hl hsplit _ ih => exact .step (Text.isLongest_literal hl hsplit) (ih hrest)

/-- The same lexemes are read before any rest that begins alike, or before nothing. -/
theorem change (h : Takes t lexemes tokens rest) {other : Text}
    (hhead : forall c, c ∈ other.head? -> c ∈ rest.head?) :
    Takes (lexemes.flatten ++ other) lexemes tokens other := by
  induction h with
  | nothing t => exact .nothing other
  | operator o hrest ih => exact .operator o (ih hhead)
  | @number l t rest lexemes tokens hl hsplit hrest ih =>
      rw [List.flatten_cons, List.append_assoc]
      refine .number hl (Literal.split_text_append_of_head hl hsplit ?_) (ih hhead)
      rw [← hrest.flatten]
      cases lexemes.flatten with
      | nil => exact hhead
      | cons d w => exact fun c hc => hc

end Takes

/-!
## Where reading stops

The front of a text up to where the reader stops can be read by itself, and only
what stands there decides the error.
-/

theorem read_of_takes {s : Text} {lexemes : List Text} {tokens : List Token} {rest : Text}
    (h : Takes (Text.strip s) lexemes tokens rest) : read s = readOnto tokens.reverse rest := by
  rw [read, h.readOnto_eq, List.append_nil]

theorem read_of_takes_all {s : Text} {lexemes : List Text} {tokens : List Token}
    (h : Takes (Text.strip s) lexemes tokens []) : read s = .ok tokens := by
  rw [read_of_takes h, readOnto, List.reverse_reverse]

theorem readOnto_unexpected {c : Char} (hsign : Operator.ofChar? c = none)
    (hopens : Literal.opens c = false) (done : List Token) (after : Text) :
    readOnto done (c :: after) = .error (.unexpectedCharacter c) := by
  rw [readOnto, hsign]
  simp [hopens]

theorem readOnto_incomplete {c : Char} {after : Text} (hopens : Literal.opens c = true)
    (h : (Literal.split (c :: after)).1.isComplete = false) (done : List Token) :
    readOnto done (c :: after) =
      .error (.invalidNumber (Literal.split (c :: after)).1.text) := by
  have hvalue := Literal.value?_eq_none_iff.mpr h
  rw [readOnto, Literal.ofChar?_of_opens hopens]
  simp only [hopens, hvalue, dite_true]

/-- Why nothing more is read behind the front `u`. -/
inductive IsRefused (u : Text) : Text -> SyntaxError -> Prop where
  | unexpected {c : Char} {after : Text} : c.isDigit = false -> c ≠ '.' ->
      (forall o : Operator, c ≠ o.symbol) ->
      (forall later, read (u ++ c :: later) = .error (.unexpectedCharacter c)) ->
      IsRefused u (c :: after) (.unexpectedCharacter c)
  | invalid {c : Char} {after m x rest : Text} : c.isDigit = true ∨ c = '.' ->
      Text.IsLongest Literal.IsMantissaRun m (c :: after) -> m ++ rest = c :: after ->
      Text.IsLongest Exponent.IsRun x rest ->
      (forall d, d ∈ m -> d.isDigit = false) ∨
        (x ≠ [] ∧ forall d, d ∈ x -> d.isDigit = false) ->
      IsRefused u (c :: after) (.invalidNumber (m ++ x))

section Front

variable {s : Text} {lexemes : List Text} {tokens : List Token} {rest : Text}
  (h : Takes (Text.strip s) lexemes tokens rest)

include h

theorem strip_flatten : Text.strip lexemes.flatten = lexemes.flatten := by
  apply Text.strip_eq_self
  intro c hc
  apply Text.isBlank_eq_false_of_mem_strip (t := s)
  rw [← h.flatten]
  exact List.mem_append_left rest hc

theorem read_flatten : read lexemes.flatten = .ok tokens := by
  have halone : Takes (lexemes.flatten ++ []) lexemes tokens [] := by
    apply h.change
    intro c hc
    cases hc
  rw [List.append_nil, ← strip_flatten h] at halone
  exact read_of_takes_all halone

theorem isRefused_unexpected {c : Char} {after : Text} (hrest : rest = c :: after)
    (hsign : Operator.ofChar? c = none) (hopens : Literal.opens c = false) :
    IsRefused lexemes.flatten rest (.unexpectedCharacter c) := by
  subst hrest
  have hnot : c.isDigit = false ∧ c ≠ '.' := by
    simpa [Literal.opens] using hopens
  refine .unexpected hnot.1 hnot.2 ?_ ?_
  · intro o ho
    rw [ho, Operator.ofChar?_symbol] at hsign
    cases hsign
  · intro later
    have hblank : Text.isBlank c = false := by
      apply Text.isBlank_eq_false_of_mem_strip (t := s)
      rw [← h.flatten]
      exact List.mem_append_right _ (List.mem_cons_self ..)
    have hstrip : Text.strip (lexemes.flatten ++ c :: later) =
        lexemes.flatten ++ c :: Text.strip later := by
      rw [Text.strip_append, strip_flatten h]
      simp [Text.strip, hblank]
    have hother : Takes (Text.strip (lexemes.flatten ++ c :: later)) lexemes tokens
        (c :: Text.strip later) := by
      rw [hstrip]
      exact h.change (fun d hd => hd)
    rw [read_of_takes hother, readOnto_unexpected hsign hopens]

end Front

theorem isRefused_incomplete (u : Text) {c : Char} {after : Text}
    (hopens : Literal.opens c = true)
    (h : (Literal.split (c :: after)).1.isComplete = false) :
    IsRefused u (c :: after) (.invalidNumber (Literal.split (c :: after)).1.text) := by
  have hbegins : c.isDigit = true ∨ c = '.' := by
    simpa [Literal.opens] using hopens
  refine .invalid hbegins (Literal.isLongest_mantissaText _)
    (Literal.mantissaText_append_afterMantissa _) (Literal.isLongest_exponentText _) ?_
  rcases Literal.lacks_of_isComplete h with hdigits | ⟨_, e, he, hnil⟩
  · exact .inl fun d hd => Literal.not_isDigit_of_mem_mantissaText hdigits hd
  · right
    have hbegun := Exponent.isBegun_of_split he
    rw [Literal.exponentText_of_some he, Exponent.text, hnil, List.append_nil]
    refine ⟨List.cons_ne_nil _ _, ?_⟩
    intro d hd
    rcases List.mem_cons.mp hd with rfl | hd
    · exact not_isDigit_of_isMarker hbegun.marker
    · exact not_isDigit_of_isSign (hbegun.sign d (Option.mem_toList.mp hd))

/-- The longest lexemes of a text, and what comes of reading it. -/
theorem exists_munches_read (s : Text) :
    exists lexemes rest, Text.Munches (Text.strip s) lexemes rest ∧
      ((rest = [] ∧
          exists tokens, read s = .ok tokens ∧ List.Forall₂ IsTokenOf lexemes tokens) ∨
        (rest ≠ [] ∧
          exists cause, read s = .error cause ∧
            exists u r, Text.strip s = u ++ r ∧ (exists tokens, read u = .ok tokens) ∧
              IsRefused u r cause)) := by
  rcases exists_takes [] (Text.strip s) with ⟨lexemes, tokens, rest, htakes, hstops⟩
  have hread := read_of_takes htakes
  have hparts := htakes.flatten.symm
  have hfront : exists tokens, read lexemes.flatten = .ok tokens :=
    ⟨tokens, read_flatten htakes⟩
  cases hstops with
  | atEnd =>
      have hmunches := htakes.munches (.stop fun w hw => Text.not_front_of_nil hw)
      rw [List.append_nil] at hmunches
      exact ⟨lexemes, [], hmunches,
        .inl ⟨rfl, tokens, read_of_takes_all htakes, htakes.isTokenOf⟩⟩
  | unexpected hsign hopens =>
      have hmunches := htakes.munches (.stop (Text.not_front_of_unexpected hsign hopens _))
      rw [List.append_nil] at hmunches
      refine ⟨lexemes, _, hmunches, .inr ⟨List.cons_ne_nil _ _, _, ?_, _, _, hparts, hfront,
        isRefused_unexpected htakes rfl hsign hopens⟩⟩
      rw [hread, readOnto_unexpected hsign hopens]
  | incomplete hopens hincomplete =>
      rcases Text.exists_munches_of_incomplete hopens hincomplete with ⟨others, left, hrest, hne⟩
      refine ⟨lexemes ++ others, left, htakes.munches hrest, .inr ⟨hne, _, ?_, _, _, hparts,
        hfront, isRefused_incomplete _ hopens hincomplete⟩⟩
      rw [hread, readOnto_incomplete hopens hincomplete]

theorem exists_lexemes_of_read {s : Text} {tokens : List Token} (h : read s = .ok tokens) :
    exists lexemes, lexemes.flatten = Text.strip s ∧ List.Forall₂ IsTokenOf lexemes tokens := by
  rcases exists_munches_read s with ⟨lexemes, rest, hmunches, houtcome⟩
  rcases houtcome with ⟨rfl, others, hread, htokens⟩ | ⟨_, cause, hread, _⟩
  · cases hread.symm.trans h
    have hparts := hmunches.flatten
    rw [List.append_nil] at hparts
    exact ⟨lexemes, hparts, htokens⟩
  · cases hread.symm.trans h

/--
The reader takes the longest lexemes of a text without its blanks.  It succeeds
when they are the whole text, with one token for each lexeme, and otherwise
refuses what stands behind a front that can be read.
-/
theorem read_takes_the_longest_lexemes (s : Text) :
    exists lexemes rest, Text.Munches (Text.strip s) lexemes rest ∧
      (forall others left, Text.Munches (Text.strip s) others left ->
        others = lexemes ∧ left = rest) ∧
      lexemes.flatten ++ rest = Text.strip s ∧
      ((exists tokens, read s = .ok tokens) <-> rest = []) ∧
      (forall tokens, read s = .ok tokens -> List.Forall₂ IsTokenOf lexemes tokens) ∧
      forall cause, read s = .error cause ->
        exists u r, Text.strip s = u ++ r ∧ (exists tokens, read u = .ok tokens) ∧
          IsRefused u r cause := by
  rcases exists_munches_read s with ⟨lexemes, rest, hmunches, houtcome⟩
  refine ⟨lexemes, rest, hmunches, fun others left => hmunches.unique, hmunches.flatten, ?_⟩
  rcases houtcome with ⟨hall, tokens, hread, htokens⟩ | ⟨hne, cause, hread, hrefused⟩
  · rw [hread]
    refine ⟨iff_of_true ⟨tokens, rfl⟩ hall, ?_, ?_⟩
    · intro others hothers
      cases hothers
      exact htokens
    · intro cause hcause
      cases hcause
  · rw [hread]
    refine ⟨iff_of_false ?_ hne, ?_, ?_⟩
    · intro hsome
      rcases hsome with ⟨tokens, htokens⟩
      cases htokens
    · intro tokens htokens
      cases htokens
    · intro other hother
      cases hother
      exact hrefused

end Token

end PocketCalculator
