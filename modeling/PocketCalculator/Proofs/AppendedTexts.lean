import PocketCalculator.Proofs.PaddedLiterals

/-!
# Reading appended texts

## Before a sign

A text that can be read leaves no exponent open at its end, so a sign behind it
begins a new lexeme.  What begins with a sign is therefore read behind such a text
as it is read alone.
-/

namespace PocketCalculator

namespace Token

theorem Stops.readOnto_cases {rest : Text} (h : Stops rest) :
    (rest = [] ∧ forall done, readOnto done rest = .ok done.reverse) ∨
      exists cause, forall done, readOnto done rest = .error cause := by
  cases h with
  | atEnd =>
      left
      refine ⟨rfl, ?_⟩
      intro done
      rw [readOnto]
  | unexpected hsign hopens =>
      exact .inr ⟨_, fun done => readOnto_unexpected hsign hopens done _⟩
  | incomplete hopens hincomplete =>
      exact .inr ⟨_, fun done => readOnto_incomplete hopens hincomplete done⟩

theorem exists_takes_of_read {s : Text} {tokens : List Token} (h : read s = .ok tokens) :
    exists lexemes, Takes (Text.strip s) lexemes tokens [] := by
  rcases exists_takes [] (Text.strip s) with ⟨lexemes, others, rest, htakes, hstops⟩
  rw [read_of_takes htakes] at h
  rcases hstops.readOnto_cases with ⟨rfl, hend⟩ | ⟨cause, hrefused⟩
  · rw [hend, List.reverse_reverse] at h
    cases h
    exact ⟨lexemes, htakes⟩
  · rw [hrefused] at h
    cases h

namespace Takes

variable {t rest : Text} {lexemes : List Text} {tokens : List Token}

theorem append_of_closes (h : Takes t lexemes tokens rest) (hend : rest = []) {other : Text}
    (hother : Literal.Closes other) : Takes (t ++ other) lexemes tokens other := by
  induction h with
  | nothing t =>
      rw [hend]
      exact .nothing other
  | operator o _ ih => exact .operator o (ih hend)
  | @number l t rest lexemes tokens hl hsplit _ ih =>
      rw [List.append_assoc]
      refine .number hl ?_ (ih hend)
      -- Only behind the last literal there is now something else than before.
      cases t with
      | nil => exact Literal.split_text_append hl hother
      | cons c t => exact Literal.split_text_append_of_head hl hsplit (fun d hd => hd)

theorem trans (h : Takes t lexemes tokens rest) {others : List Text} {second : List Token}
    {left : Text} (hrest : Takes rest others second left) :
    Takes t (lexemes ++ others) (tokens ++ second) left := by
  induction h with
  | nothing t => exact hrest
  | operator o _ ih => exact .operator o (ih hrest)
  | number hl hsplit _ ih => exact .number hl hsplit (ih hrest)

end Takes

/-- Tokens that were read before are put in front of what is read behind them. -/
theorem read_append_of_closes {a b : Text} {first : List Token} (ha : read a = .ok first)
    (hb : Literal.Closes (Text.strip b)) : read (a ++ b) = (read b).map (first ++ ·) := by
  rcases exists_takes_of_read ha with ⟨lexemes, hfirst⟩
  rcases exists_takes [] (Text.strip b) with ⟨others, second, rest, hsecond, hstops⟩
  have hbefore := hfirst.append_of_closes rfl hb
  rw [← Text.strip_append] at hbefore
  rw [read_of_takes hsecond, read_of_takes (hbefore.trans hsecond)]
  rcases hstops.readOnto_cases with ⟨_, hend⟩ | ⟨cause, hrefused⟩
  · rw [hend, hend, List.reverse_reverse, List.reverse_reverse]
    rfl
  · rw [hrefused, hrefused]
    rfl

theorem closes_of_head?_symbol {t : Text} {o : Operator} (h : t.head? = some o.symbol) :
    Literal.Closes t := by
  rcases List.head?_eq_some_iff.mp h with ⟨rest, rfl⟩
  exact Literal.closes_symbol o rest

theorem exists_munches_of_symbol {s : Text} {o : Operator}
    (h : (Text.strip s).head? = some o.symbol) :
    exists lexemes rest, Text.Munches (Text.strip s) ([o.symbol] :: lexemes) rest := by
  rcases List.head?_eq_some_iff.mp h with ⟨t, ht⟩
  have hstrip : Text.strip t = t := by
    apply Text.strip_eq_self
    intro c hc
    apply Text.isBlank_eq_false_of_mem_strip (t := s)
    rw [ht]
    exact List.mem_cons_of_mem _ hc
  rcases exists_munches_read t with ⟨lexemes, rest, hmunches, _⟩
  rw [hstrip] at hmunches
  rw [ht]
  exact ⟨lexemes, rest, .step (Text.isLongest_operator o t) hmunches⟩

/--
A text that can be read is read alike when a sign follows it, and from that sign on
the rest is read as it is alone: the tokens are put together, or the error is that
of the rest.  The longest lexemes of the whole are those of the two texts, so no
literal of the first one takes the sign.
-/
theorem reading_is_compositional_at_signs {a b : Text} {first : List Token} {o : Operator}
    (ha : read a = .ok first) (hb : (Text.strip b).head? = some o.symbol) :
    (forall second, read b = .ok second -> read (a ++ b) = .ok (first ++ second)) ∧
    (forall cause, read b = .error cause -> read (a ++ b) = .error cause) ∧
    exists lexemes others rest,
      Text.Munches (Text.strip a) lexemes [] ∧ List.Forall₂ IsTokenOf lexemes first ∧
      Text.Munches (Text.strip b) ([o.symbol] :: others) rest ∧
      Text.Munches (Text.strip (a ++ b)) (lexemes ++ [o.symbol] :: others) rest := by
  have hcloses := closes_of_head?_symbol hb
  have hread := read_append_of_closes ha hcloses
  refine ⟨?_, ?_, ?_⟩
  · intro second hsecond
    rw [hread, hsecond]
    rfl
  · intro cause hcause
    rw [hread, hcause]
    rfl
  · rcases exists_takes_of_read ha with ⟨lexemes, hfirst⟩
    rcases exists_munches_of_symbol hb with ⟨others, rest, hbehind⟩
    have halone := hfirst.munches (.stop fun w hw => Text.not_front_of_nil hw)
    have hwhole := (hfirst.append_of_closes rfl hcloses).munches hbehind
    rw [List.append_nil] at halone
    rw [← Text.strip_append] at hwhole
    exact ⟨lexemes, others, rest, halone, hfirst.isTokenOf, hbehind, hwhole⟩

/-- A sign behind an exponent, before what can be read and before what cannot. -/
theorem reading_is_compositional_at_signs_exponent :
    let l : Literal := ⟨['1'], none, some ⟨'e', none, ['5']⟩⟩
    read "1 e5".toList = .ok [.number l.number] ∧
    read "1 e5 +1e5".toList = .ok [.number l.number, .operator .plus, .number l.number] ∧
    read "1 e5 -e".toList = .error (.unexpectedCharacter 'e') := by
  intro l
  have hl : l.IsWellFormed := Literal.isWellFormed_of_isComplete (t := "1e5".toList) (by decide)
  have hfirst : read "1 e5".toList = .ok [.number l.number] := by
    have htakes : Takes "1e5".toList [l.text] [.number l.number] [] :=
      .number hl (by decide) (.nothing [])
    exact read_of_takes_all htakes
  have hplus : read " +1e5".toList = .ok [.operator .plus, .number l.number] := by
    have htakes : Takes "+1e5".toList [['+'], l.text] [.operator .plus, .number l.number] [] :=
      .operator .plus (.number hl (by decide) (.nothing []))
    exact read_of_takes_all htakes
  have hminus : read " -e".toList = .error (.unexpectedCharacter 'e') := by
    have htakes : Takes "-e".toList [['-']] [.operator .minus] ['e'] :=
      .operator .minus (.nothing ['e'])
    exact (read_of_takes (s := " -e".toList) htakes).trans
      (readOnto_unexpected rfl (by decide) _ [])
  refine ⟨hfirst, ?_, ?_⟩
  · exact (reading_is_compositional_at_signs (o := .plus) hfirst (by decide)).1 _ hplus
  · exact (reading_is_compositional_at_signs (o := .minus) hfirst (by decide)).2.1 _ hminus

end Token

end PocketCalculator
