import PocketCalculator.Proofs.LexemeReading
import PocketCalculator.Proofs.Meaning
import PocketCalculator.Proofs.PlainNumbers
import PocketCalculator.Proofs.Refusals

/-!
# Reading the log back

## Numbers that stand apart

The spaces between the tokens of the log are lost when it is read.  What keeps two
numbers from running together is that the yard accepts no two numbers side by side.
-/

namespace PocketCalculator

namespace Token

def isNumber : Token -> Bool
  | number _ => true
  | operator _ => false

end Token

namespace Postfix

theorem standApart_isNumber_of_ofTokens {tokens : List Token} {items : List Item}
    (h : ofTokens tokens = .ok items) : StandApart Token.isNumber tokens := by
  rintro a b ⟨before, after, rfl⟩ ⟨ha, hb⟩
  have hpair : before ++ [a, b] = (before ++ [a]) ++ [b] := by
    simp
  rcases run_of_ofTokens h with ⟨y, hrun, _⟩
  rcases Yard.run_append_eq_ok hrun with ⟨z, hfront, _⟩
  rw [hpair] at hfront
  rcases Yard.run_append_eq_ok hfront with ⟨w, hfirst, hlast⟩
  rcases Yard.run_cons_eq_ok hlast with ⟨v, hstep, _⟩
  cases a with
  | operator o => cases ha
  | number x =>
      cases b with
      | operator o => cases hb
      | number x' =>
          have hexpected := Yard.run_expected hfirst
          rw [expectedAfter_concat_number] at hexpected
          exact (Yard.step_number_eq_ok hstep).1 hexpected

end Postfix

namespace Token

theorem Spells.closes {tokens : List Token} {t : Text} (h : Spells tokens t)
    (hhead : forall b, b ∈ tokens.head? -> isNumber b = false) : Literal.Closes t := by
  cases h with
  | nil => exact Literal.closes_nil
  | operator o hrest => exact Literal.closes_symbol o _
  | number hleaf hrest => cases hhead _ rfl

/-- Tokens are read from the text they spell if their numbers stand apart. -/
theorem Spells.readOnto_eq {tokens : List Token} {t : Text} (h : Spells tokens t)
    (hapart : StandApart isNumber tokens) (done : List Token) :
    readOnto done t = .ok (done.reverse ++ tokens) := by
  induction h generalizing done with
  | nil => rw [readOnto, List.append_nil]
  | operator o hrest ih =>
      rw [readOnto_symbol, ih (standApart_cons.mp hapart).2, List.reverse_cons,
        List.append_assoc, List.singleton_append]
  | number hleaf hrest ih =>
      rcases standApart_cons.mp hapart with ⟨hnext, htail⟩
      have hcloses := hrest.closes fun b hb => Bool.eq_false_iff.mpr fun hnumber =>
        hnext b hb ⟨rfl, hnumber⟩
      rcases hleaf with ⟨l, hl, rfl, rfl⟩
      rw [readOnto_literal hl done hcloses, ih htail, List.reverse_cons, List.append_assoc,
        List.singleton_append]

theorem Spells.exists_readAs {tokens : List Token} {t : Text} (h : Spells tokens t)
    {x : Binary64} (hx : .number x ∈ tokens) : exists w, Literal.ReadAs w x := by
  induction h with
  | nil => cases hx
  | operator o hrest ih =>
      cases hx with
      | tail _ hx => exact ih hx
  | number hleaf hrest ih =>
      cases hx with
      | head => exact ⟨_, hleaf⟩
      | tail _ hx => exact ih hx

theorem isUnsigned_of_read {s : Text} {tokens : List Token} (h : read s = .ok tokens)
    {x : Binary64} (hx : .number x ∈ tokens) : x.IsUnsigned := by
  rcases spells_of_readOnto h with ⟨added, rfl, hspells⟩
  rcases hspells.exists_readAs hx with ⟨w, hw⟩
  exact hw.isUnsigned

/-!
## The text of tokens without its blanks
-/

theorem spells_text {tokens : List Token}
    (h : forall x, .number x ∈ tokens -> Literal.ReadAs x.plain x) :
    Spells tokens (tokens.map text).flatten := by
  induction tokens with
  | nil => exact .nil
  | cons token tokens ih =>
      have hrest := ih fun x hx => h x (List.mem_cons_of_mem token hx)
      cases token with
      | operator o => exact .operator o hrest
      | number x => exact .number (h x (List.mem_cons_self ..)) hrest

theorem strip_text (token : Token) : Text.strip token.text = token.text :=
  Text.strip_eq_self token.isBlank_of_mem_text

end Token

theorem Text.strip_join {separator : Text} (h : strip separator = []) (parts : List Text) :
    strip (join separator parts) = (parts.map strip).flatten := by
  induction parts with
  | nil => rfl
  | cons part parts ih =>
      cases parts with
      | nil => simp [join]
      | cons next parts =>
          have hjoin : join separator (part :: next :: parts) =
              part ++ separator ++ join separator (next :: parts) :=
            List.intercalate_cons_cons
          rw [hjoin, strip_append, strip_append, h, ih, List.append_nil]
          rfl

theorem Token.strip_listText (tokens : List Token) :
    Text.strip (listText tokens) = (tokens.map text).flatten := by
  have hspace : Text.strip [' '] = [] := by
    decide
  have hsame : Text.strip ∘ text = text := funext strip_text
  rw [listText, Text.strip_join hspace, List.map_map, hsame]

/-!
## Reading the tokens of the log
-/

theorem Token.read_listText {tokens : List Token} (hapart : StandApart isNumber tokens)
    (h : forall x, .number x ∈ tokens -> Literal.ReadAs x.plain x) :
    read (listText tokens) = .ok tokens := by
  rw [read, strip_listText, (spells_text h).readOnto_eq hapart]
  rfl

theorem Evaluation.evaluate_eq_of_read {s t : Text} {tokens : List Token}
    {items : List Postfix.Item} (hs : Token.read s = .ok tokens)
    (ht : Token.read t = .ok tokens) (h : Postfix.ofTokens tokens = .ok items) :
    evaluate t = evaluate s := by
  have hne : forall u, Token.read u = .ok tokens -> Text.strip u ≠ [] := by
    intro u hu hnil
    rw [Token.read, hnil, Token.readOnto] at hu
    cases hu
    cases h
  rcases Postfix.exists_sum_of_ofTokens h with ⟨tree, hsum⟩
  rw [evaluate_of_tokens (hne t ht) ht hsum, evaluate_of_tokens (hne s hs) hs hsum]

/--
The tokens of an expression whose numbers are finite are read back from the log:
its spaces are dropped, each of its numbers is one literal, and what is left gives
the same tokens and with them the same outcome.
-/
theorem logged_tokens_are_read_back {s : Text} {tokens : List Token}
    {items : List Postfix.Item} (hread : Token.read s = .ok tokens)
    (hitems : Postfix.ofTokens tokens = .ok items)
    (hfinite : forall x, .number x ∈ tokens -> x.isFinite = true) :
    Text.strip (Token.listText tokens) = (tokens.map Token.text).flatten ∧
    (forall x, .number x ∈ tokens -> Literal.ReadAs x.plain x) ∧
    Token.read (Token.listText tokens) = .ok tokens ∧
    evaluate (Token.listText tokens) = evaluate s := by
  have hplain : forall x, .number x ∈ tokens -> Literal.ReadAs x.plain x :=
    fun x hx => x.readAs_plain (hfinite x hx) (Token.isUnsigned_of_read hread hx)
  have hagain := Token.read_listText (Postfix.standApart_isNumber_of_ofTokens hitems) hplain
  exact ⟨Token.strip_listText tokens, hplain, hagain,
    Evaluation.evaluate_eq_of_read hread hagain hitems⟩

/-- A negated product of a number that is large and one that is small. -/
theorem logged_tokens_are_read_back_product :
    let large : Literal := ⟨['1'], none, some ⟨'e', none, ['2', '1']⟩⟩
    let small : Literal := ⟨['1'], none, some ⟨'e', some '-', ['7']⟩⟩
    let s : Text := "-1e21 * 1e-7".toList
    let tokens : List Token :=
      [.operator .minus, .number large.number, .operator .times, .number small.number]
    Token.read s = .ok tokens ∧
    Token.listText tokens = "- 1000000000000000000000 * 0.0000001".toList ∧
    Token.read (Token.listText tokens) = .ok tokens ∧
    evaluate (Token.listText tokens) = evaluate s := by
  intro large small s tokens
  have hlarge : large.IsWellFormed :=
    Literal.isWellFormed_of_isComplete (t := "1e21".toList) (by decide)
  have hsmall : small.IsWellFormed :=
    Literal.isWellFormed_of_isComplete (t := "1e-7".toList) (by decide)
  have hread : Token.read s = .ok tokens := by
    have htakes : Token.Takes "-1e21*1e-7".toList [['-'], large.text, ['*'], small.text]
        tokens [] :=
      .operator .minus (.number hlarge (by decide) (.operator .times
        (.number hsmall (by decide) (.nothing []))))
    exact Token.read_of_takes_all htakes
  have hitems : Postfix.ofTokens tokens =
      .ok [.number large.number, .negate, .number small.number, .operator .times] := rfl
  have hfinite : forall x, .number x ∈ tokens -> x.isFinite = true := by
    intro x hx
    have hcases : x = large.number ∨ x = small.number := by
      simpa [tokens] using hx
    rcases hcases with rfl | rfl
    · decide +kernel
    · decide +kernel
  have hagain := logged_tokens_are_read_back hread hitems hfinite
  have htext : Token.listText tokens = "- 1000000000000000000000 * 0.0000001".toList := by
    decide +kernel
  exact ⟨hread, htext, hagain.2.2.1, hagain.2.2.2⟩

end PocketCalculator
