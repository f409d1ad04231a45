import PocketCalculator.Proofs.LiteralValues
import PocketCalculator.Proofs.Yard
import PocketCalculator.Token.Lexer

/-!
# Lexing expressions

## Derivations of texts

The grammar of expressions describes texts when its numbers are complete
literals and its operators are signs.  The reader takes the longest literal it
can, which is no restriction here: in an expression a literal is followed by a
sign or by nothing, and neither can go on a literal.
-/

namespace PocketCalculator

namespace Literal

/-- Whether a text is a complete literal that is read as the number. -/
def ReadAs (t : Text) (x : Binary64) : Prop :=
  exists l : Literal, l.IsWellFormed ∧ l.text = t ∧ l.number = x

theorem not_readAs_nil (x : Binary64) : ¬ ReadAs [] x := by
  intro h
  rcases h with ⟨l, hl, htext, _⟩
  rcases exists_cons_text hl with ⟨c, rest, hcons, _⟩
  rw [hcons] at htext
  cases htext

theorem ofChar?_of_opens {c : Char} (h : opens c = true) : Operator.ofChar? c = none := by
  cases hsign : Operator.ofChar? c with
  | none => rfl
  | some o =>
      rw [← Operator.symbol_of_ofChar? hsign] at h
      revert h
      cases o <;> decide

end Literal

namespace Text

abbrev Factor := Grammar.Factor Literal.ReadAs Operator.symbol

abbrev Term := Grammar.Term Literal.ReadAs Operator.symbol

abbrev Sum := Grammar.Sum Literal.ReadAs Operator.symbol

end Text

namespace Token

theorem readOnto_symbol (done : List Token) (o : Operator) (rest : Text) :
    readOnto done (o.symbol :: rest) = readOnto (.operator o :: done) rest := by
  rw [readOnto, Operator.ofChar?_symbol]

theorem readOnto_of_split {x : Literal} (h : x.IsWellFormed) (done : List Token)
    {rest : Text} (hsplit : Literal.split (x.text ++ rest) = (x, rest)) :
    readOnto done (x.text ++ rest) = readOnto (.number x.number :: done) rest := by
  rcases Literal.exists_cons_text h with ⟨c, t, htext, hopens⟩
  rw [htext, List.cons_append] at hsplit ⊢
  rw [readOnto, Literal.ofChar?_of_opens hopens]
  simp only [hopens, hsplit, Literal.value?_of_isWellFormed h, dite_true]

theorem readOnto_literal {x : Literal} (h : x.IsWellFormed) (done : List Token)
    {rest : Text} (hrest : Literal.Closes rest) :
    readOnto done (x.text ++ rest) = readOnto (.number x.number :: done) rest :=
  readOnto_of_split h done (Literal.split_text_append h hrest)

/-!
## From a derivation to its tokens
-/

/-- Read before anything that closes a literal, the text adds exactly the tokens. -/
structure Lexes (w : Text) (tokens : List Token) : Prop where
  reads : forall done rest, Literal.Closes rest ->
    readOnto done (w ++ rest) = readOnto (tokens.reverse ++ done) rest
  minus : tokens.head? = some (.operator .minus) -> w.head? = some '-'

theorem lexes_literal {x : Literal} (h : x.IsWellFormed) :
    Lexes x.text [.number x.number] := by
  constructor
  · intro done rest hrest
    exact readOnto_literal h done hrest
  · intro hminus
    cases hminus

theorem Lexes.negation {w : Text} {tokens : List Token} (h : Lexes w tokens) :
    Lexes ('-' :: w) (.operator .minus :: tokens) := by
  constructor
  · intro done rest hrest
    have hminus := readOnto_symbol done .minus (w ++ rest)
    rw [List.cons_append, List.reverse_cons, List.append_assoc, List.singleton_append]
    exact hminus.trans (h.reads _ rest hrest)
  · intro _
    rfl

theorem Lexes.join {u w : Text} {first second : List Token} (hu : Lexes u first)
    (hne : first ≠ []) (o : Operator) (hw : Lexes w second) :
    Lexes (u ++ o.symbol :: w) (first ++ .operator o :: second) := by
  constructor
  · intro done rest hrest
    have hclosed := Literal.closes_symbol o (w ++ rest)
    calc readOnto done (u ++ o.symbol :: w ++ rest)
        = readOnto done (u ++ o.symbol :: (w ++ rest)) := by simp
      _ = readOnto (first.reverse ++ done) (o.symbol :: (w ++ rest)) :=
          hu.reads done _ hclosed
      _ = readOnto (.operator o :: (first.reverse ++ done)) (w ++ rest) :=
          readOnto_symbol _ o _
      _ = readOnto (second.reverse ++ .operator o :: (first.reverse ++ done)) rest :=
          hw.reads _ rest hrest
      _ = readOnto ((first ++ .operator o :: second).reverse ++ done) rest := by simp
  · intro hminus
    cases first with
    | nil => exact absurd rfl hne
    | cons t first =>
        have hhead := hu.minus hminus
        cases u with
        | nil => cases hhead
        | cons c u => exact hhead

theorem exists_tokens_of_factor {w : Text} {t : Tree} (h : Text.Factor w t) :
    exists tokens, Postfix.Factor tokens t ∧ Lexes w tokens := by
  cases h with
  | number hleaf =>
      rcases hleaf with ⟨l, hl, rfl, rfl⟩
      exact ⟨_, Grammar.Factor.number rfl, lexes_literal hl⟩
  | negation hleaf =>
      rcases hleaf with ⟨l, hl, rfl, rfl⟩
      exact ⟨_, Grammar.Factor.negation rfl, (lexes_literal hl).negation⟩

theorem exists_tokens_of_term {w : Text} {t : Tree} (h : Text.Term w t) :
    exists tokens, Postfix.Term tokens t ∧ Lexes w tokens := by
  induction h with
  | factor hfactor =>
      rcases exists_tokens_of_factor hfactor with ⟨tokens, htokens, hlexes⟩
      exact ⟨tokens, Grammar.Term.factor htokens, hlexes⟩
  | @scale u w a b o hterm hscale hfactor ih =>
      rcases ih with ⟨first, hfirst, hleft⟩
      rcases exists_tokens_of_factor hfactor with ⟨second, hsecond, hright⟩
      have hne := hfirst.ne_nil Postfix.not_isNumber_nil
      exact ⟨_, Grammar.Term.scale hfirst hscale hsecond, hleft.join hne o hright⟩

theorem exists_tokens_of_sum {w : Text} {t : Tree} (h : Text.Sum w t) :
    exists tokens, Postfix.Sum tokens t ∧ Lexes w tokens := by
  induction h with
  | term hterm =>
      rcases exists_tokens_of_term hterm with ⟨tokens, htokens, hlexes⟩
      exact ⟨tokens, Grammar.Sum.term htokens, hlexes⟩
  | @add u w a b o hsum hadd hterm hsafe ih =>
      rcases ih with ⟨first, hfirst, hleft⟩
      rcases exists_tokens_of_term hterm with ⟨second, hsecond, hright⟩
      have hne := hfirst.ne_nil Postfix.not_isNumber_nil
      have hapart : o = .minus -> second.head? ≠ some (.operator .minus) := by
        intro ho hminus
        exact hsafe ho (hright.minus hminus)
      exact ⟨_, Grammar.Sum.add hfirst hadd hsecond hapart, hleft.join hne o hright⟩

theorem exists_readOnto_of_sum {w : Text} {t : Tree} (h : Text.Sum w t) :
    exists tokens, Postfix.Sum tokens t ∧ readOnto [] w = .ok tokens := by
  rcases exists_tokens_of_sum h with ⟨tokens, htokens, hlexes⟩
  have hread := hlexes.reads [] [] Literal.closes_nil
  rw [List.append_nil, List.append_nil, readOnto, List.reverse_reverse] at hread
  exact ⟨tokens, htokens, hread⟩

/-!
## From tokens to a derivation

The reader accepts more than the grammar, two literals side by side for one.
Its tokens still spell the text, and tokens that are a sum spell a sum.
-/

inductive Spells : List Token -> Text -> Prop where
  | nil : Spells [] []
  | operator {tokens : List Token} {t : Text} (o : Operator) :
      Spells tokens t -> Spells (.operator o :: tokens) (o.symbol :: t)
  | number {tokens : List Token} {w t : Text} {x : Binary64} :
      Literal.ReadAs w x -> Spells tokens t -> Spells (.number x :: tokens) (w ++ t)

theorem readAs_of_split {t : Text} {x : Binary64} (h : (Literal.split t).1.value? = some x) :
    Literal.ReadAs (Literal.split t).1.text x := by
  have hwell := Literal.isWellFormed_of_isComplete (Literal.isComplete_of_value? h)
  rw [Literal.value?_of_isWellFormed hwell] at h
  exact ⟨_, hwell, rfl, Option.some.inj h⟩

theorem spells_of_readOnto {done tokens : List Token} {t : Text}
    (h : readOnto done t = .ok tokens) :
    exists added, tokens = done.reverse ++ added ∧ Spells added t := by
  induction done, t using readOnto.induct with
  | case1 done =>
      rw [readOnto] at h
      cases h
      exact ⟨[], (List.append_nil _).symm, Spells.nil⟩
  | case2 done c rest o hsign ih =>
      rw [readOnto, hsign] at h
      rcases ih h with ⟨added, rfl, hadded⟩
      rw [← Operator.symbol_of_ofChar? hsign]
      exact ⟨.operator o :: added, by simp, Spells.operator o hadded⟩
  | case3 done c rest hsign hopens x hvalue ih =>
      rw [readOnto, hsign] at h
      simp only [hopens, hvalue, dite_true] at h
      rcases ih h with ⟨added, rfl, hadded⟩
      refine ⟨.number x :: added, by simp, ?_⟩
      rw [← Literal.split_append (c :: rest)]
      exact Spells.number (readAs_of_split hvalue) hadded
  | case4 done c rest hsign hopens hvalue =>
      rw [readOnto, hsign] at h
      simp only [hopens, hvalue, dite_true] at h
      cases h
  | case5 done c rest hsign hopens =>
      rw [readOnto, hsign] at h
      simp only [hopens] at h
      cases h

theorem Spells.exists_split {first second : List Token} {o : Operator} {t : Text}
    (h : Spells (first ++ .operator o :: second) t) :
    exists u w, t = u ++ o.symbol :: w ∧ Spells first u ∧ Spells second w := by
  induction first generalizing t with
  | nil =>
      cases h with
      | operator _ hrest => exact ⟨[], _, rfl, Spells.nil, hrest⟩
  | cons head first ih =>
      cases h with
      | operator p hrest =>
          rcases ih hrest with ⟨u, w, rfl, hu, hw⟩
          exact ⟨p.symbol :: u, w, rfl, Spells.operator p hu, hw⟩
      | @number _ v t x hleaf hrest =>
          rcases ih hrest with ⟨u, w, rfl, hu, hw⟩
          exact ⟨v ++ u, w, (List.append_assoc ..).symm, Spells.number hleaf hu, hw⟩

theorem Spells.readAs {w : Text} {x : Binary64} (h : Spells [.number x] w) :
    Literal.ReadAs w x := by
  cases h with
  | number hleaf hrest =>
      cases hrest
      rw [List.append_nil]
      exact hleaf

theorem Spells.head?_minus {tokens : List Token} {w : Text} (h : Spells tokens w)
    (hminus : w.head? = some '-') : tokens.head? = some (.operator .minus) := by
  cases h with
  | nil => cases hminus
  | operator o hrest =>
      have hsymbol : o.symbol = Operator.minus.symbol := Option.some.inj hminus
      rw [Operator.eq_of_symbol_eq hsymbol]
      rfl
  | number hleaf hrest =>
      rcases hleaf with ⟨l, hl, rfl, _⟩
      rcases Literal.exists_cons_text hl with ⟨c, rest, hcons, hopens⟩
      rw [hcons] at hminus
      cases hminus
      exact absurd hopens (by decide)

theorem factor_of_spells {tokens : List Token} {t : Tree} (h : Postfix.Factor tokens t)
    {w : Text} (hw : Spells tokens w) : Text.Factor w t := by
  cases h with
  | number hleaf =>
      rw [hleaf] at hw
      exact Grammar.Factor.number hw.readAs
  | negation hleaf =>
      rw [hleaf] at hw
      cases hw with
      | operator _ hrest => exact Grammar.Factor.negation hrest.readAs

theorem term_of_spells {tokens : List Token} {t : Tree} (h : Postfix.Term tokens t)
    {w : Text} (hw : Spells tokens w) : Text.Term w t := by
  induction h generalizing w with
  | factor hfactor => exact Grammar.Term.factor (factor_of_spells hfactor hw)
  | scale hterm hscale hfactor ih =>
      rcases hw.exists_split with ⟨u, v, rfl, hu, hv⟩
      exact Grammar.Term.scale (ih hu) hscale (factor_of_spells hfactor hv)

theorem sum_of_spells {tokens : List Token} {t : Tree} (h : Postfix.Sum tokens t)
    {w : Text} (hw : Spells tokens w) : Text.Sum w t := by
  induction h generalizing w with
  | term hterm => exact Grammar.Sum.term (term_of_spells hterm hw)
  | add hsum hadd hterm hsafe ih =>
      rcases hw.exists_split with ⟨u, v, rfl, hu, hv⟩
      refine Grammar.Sum.add (ih hu) hadd (term_of_spells hterm hv) ?_
      intro ho hminus
      exact hsafe ho (hv.head?_minus hminus)

theorem sum_of_readOnto {w : Text} {tokens : List Token} {t : Tree}
    (hread : readOnto [] w = .ok tokens) (h : Postfix.Sum tokens t) : Text.Sum w t := by
  rcases spells_of_readOnto hread with ⟨added, rfl, hspells⟩
  exact sum_of_spells h hspells

end Token

end PocketCalculator
