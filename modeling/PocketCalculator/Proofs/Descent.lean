import PocketCalculator.Proofs.Acceptance
import PocketCalculator.Proofs.Unfolding

/-!
# Parsing by recursive descent

## The reference parser

The parser reads a factor, then as many further factors as scaling operators
join to it, then as many further terms as additive operators join to those.
Each reader returns the tree it has read and the tokens after it.  On what the
yard accepts, the arena made from the postfix list holds the tree that this
parser returns.
-/

namespace PocketCalculator

namespace Descent

def factor? : List Token -> Option (Tree × List Token)
  | .number x :: rest => some (.number x, rest)
  | .operator .minus :: .number x :: rest => some (.negate (.number x), rest)
  | _ => none

theorem factor?_rest_length_lt {tokens rest : List Token} {t : Tree}
    (h : factor? tokens = some (t, rest)) : rest.length < tokens.length := by
  unfold factor? at h
  split at h
  · cases h
    exact Nat.lt_succ_self _
  · cases h
    rw [List.length_cons, List.length_cons]
    omega
  · cases h

/-- The term that goes on after the tree read so far. -/
def termFrom? (left : Tree) : List Token -> Option (Tree × List Token)
  | .operator o :: tokens =>
      if o.IsScaling then
        match _ : factor? tokens with
        | some (right, rest) => termFrom? (.binary o left right) rest
        | none => none
      else some (left, .operator o :: tokens)
  | tokens => some (left, tokens)
termination_by tokens => tokens.length
decreasing_by
  have hshorter := factor?_rest_length_lt ‹_›
  rw [List.length_cons]
  omega

def term? (tokens : List Token) : Option (Tree × List Token) :=
  match factor? tokens with
  | some (left, rest) => termFrom? left rest
  | none => none

theorem termFrom?_rest_length_le {left t : Tree} {tokens rest : List Token}
    (h : termFrom? left tokens = some (t, rest)) : rest.length ≤ tokens.length := by
  fun_induction termFrom? left tokens with
  | case1 left o tokens hscale right after hfactor ih =>
      have hshorter := factor?_rest_length_lt hfactor
      have hrest := ih h
      rw [List.length_cons]
      omega
  | case2 left o tokens hscale hfactor => cases h
  | case3 left o tokens hscale =>
      cases h
      exact Nat.le_refl _
  | case4 left tokens hother =>
      cases h
      exact Nat.le_refl _

theorem term?_rest_length_lt {tokens rest : List Token} {t : Tree}
    (h : term? tokens = some (t, rest)) : rest.length < tokens.length := by
  unfold term? at h
  split at h
  · rename_i left after hfactor
    have hshorter := factor?_rest_length_lt hfactor
    have hrest := termFrom?_rest_length_le h
    omega
  · cases h

def sumFrom? (left : Tree) : List Token -> Option (Tree × List Token)
  | .operator o :: tokens =>
      if o.IsAdditive then
        match _ : term? tokens with
        | some (right, rest) => sumFrom? (.binary o left right) rest
        | none => none
      else some (left, .operator o :: tokens)
  | tokens => some (left, tokens)
termination_by tokens => tokens.length
decreasing_by
  have hshorter := term?_rest_length_lt ‹_›
  rw [List.length_cons]
  omega

def sum? (tokens : List Token) : Option (Tree × List Token) :=
  match term? tokens with
  | some (left, rest) => sumFrom? left rest
  | none => none

/-- The tree of the tokens, if they are one expression and nothing else. -/
def parse? (tokens : List Token) : Option Tree :=
  match sum? tokens with
  | some (t, []) => some t
  | _ => none

/-!
## The parser finds the derivation

A term is read up to an operator that does not continue it, and a sum up to the
end of the tokens.
-/

open Postfix

theorem factor?_append {tokens : List Token} {t : Tree} (h : Factor tokens t)
    (rest : List Token) : factor? (tokens ++ rest) = some (t, rest) := by
  cases h with
  | number hx =>
      cases hx
      rfl
  | negation hx =>
      cases hx
      rfl

theorem termFrom?_scale {o : Operator} (hscale : o.IsScaling) {tokens rest : List Token}
    {left right : Tree} (h : factor? tokens = some (right, rest)) :
    termFrom? left (.operator o :: tokens) = termFrom? (.binary o left right) rest := by
  rw [termFrom?, if_pos hscale]
  split
  · rename_i hother
    cases h.symm.trans hother
    rfl
  · rename_i hother
    cases h.symm.trans hother

theorem sumFrom?_add {o : Operator} (hadd : o.IsAdditive) {tokens rest : List Token}
    {left right : Tree} (h : term? tokens = some (right, rest)) :
    sumFrom? left (.operator o :: tokens) = sumFrom? (.binary o left right) rest := by
  rw [sumFrom?, if_pos hadd]
  split
  · rename_i hother
    cases h.symm.trans hother
    rfl
  · rename_i hother
    cases h.symm.trans hother

def EndsTerm : List Token -> Prop
  | [] => True
  | .operator o :: _ => o.IsAdditive
  | .number _ :: _ => False

theorem termFrom?_of_endsTerm {rest : List Token} (h : EndsTerm rest) (left : Tree) :
    termFrom? left rest = some (left, rest) := by
  cases rest with
  | nil => rw [termFrom?]; simp
  | cons token rest =>
      cases token with
      | number x => exact absurd h id
      | operator o => rw [termFrom?, if_neg (Operator.not_isScaling_of_isAdditive h)]

theorem term?_append {tokens : List Token} {t : Tree} (h : Term tokens t)
    (rest : List Token) : term? (tokens ++ rest) = termFrom? t rest := by
  induction h generalizing rest with
  | factor hfactor =>
      unfold term?
      rw [factor?_append hfactor]
  | @scale u w a b o hterm hscale hfactor ih =>
      rw [List.append_assoc, List.cons_append, ih,
        termFrom?_scale hscale (factor?_append hfactor rest)]

theorem sum?_append {tokens : List Token} {t : Tree} (h : Sum tokens t)
    {rest : List Token} (hrest : EndsTerm rest) :
    sum? (tokens ++ rest) = sumFrom? t rest := by
  induction h generalizing rest with
  | term hterm =>
      unfold sum?
      rw [term?_append hterm, termFrom?_of_endsTerm hrest]
  | @add u w a b o hsum hadd hterm hsafe ih =>
      have hright : term? (w ++ rest) = some (b, rest) := by
        rw [term?_append hterm, termFrom?_of_endsTerm hrest]
      have hleft : EndsTerm (.operator o :: (w ++ rest)) := hadd
      rw [List.append_assoc, List.cons_append, ih hleft, sumFrom?_add hadd hright]

theorem parse?_of_sum {tokens : List Token} {t : Tree} (h : Sum tokens t) :
    parse? tokens = some t := by
  have hsum : sum? tokens = sumFrom? t [] := by
    have hend : EndsTerm [] := trivial
    simpa using sum?_append h hend
  have hdone : sumFrom? t [] = some (t, []) := by
    rw [sumFrom?]
    simp
  unfold parse?
  rw [hsum, hdone]

end Descent

/-!
## Tokens, items and nodes

Each token gives one item of the postfix list and one node of the arena.  The
numbers keep their order.
-/

namespace Token

def number? : Token -> Option Binary64
  | number x => some x
  | operator _ => none

end Token

namespace Postfix

theorem factor_length_listing {tokens : List Token} {t : Tree} (h : Factor tokens t) :
    t.listing.length = tokens.length := by
  cases h with
  | number hx =>
      cases hx
      rfl
  | negation hx =>
      cases hx
      rfl

theorem term_length_listing {tokens : List Token} {t : Tree} (h : Term tokens t) :
    t.listing.length = tokens.length := by
  induction h with
  | factor hfactor => exact factor_length_listing hfactor
  | scale hterm hscale hfactor ih =>
      simp [Tree.listing, ih, factor_length_listing hfactor]

theorem sum_length_listing {tokens : List Token} {t : Tree} (h : Sum tokens t) :
    t.listing.length = tokens.length := by
  induction h with
  | term hterm => exact term_length_listing hterm
  | add hsum hadd hterm hsafe ih =>
      simp [Tree.listing, ih, term_length_listing hterm]

theorem factor_numbers {tokens : List Token} {t : Tree} (h : Factor tokens t) :
    t.numbers = tokens.filterMap Token.number? := by
  cases h with
  | number hx =>
      cases hx
      rfl
  | negation hx =>
      cases hx
      rfl

theorem term_numbers {tokens : List Token} {t : Tree} (h : Term tokens t) :
    t.numbers = tokens.filterMap Token.number? := by
  induction h with
  | factor hfactor => exact factor_numbers hfactor
  | @scale u w a b o hterm hscale hfactor ih =>
      rw [Tree.numbers, ih, factor_numbers hfactor, List.filterMap_append,
        List.filterMap_cons_none rfl]

theorem sum_numbers {tokens : List Token} {t : Tree} (h : Sum tokens t) :
    t.numbers = tokens.filterMap Token.number? := by
  induction h with
  | term hterm => exact term_numbers hterm
  | @add u w a b o hsum hadd hterm hsafe ih =>
      rw [Tree.numbers, ih, term_numbers hterm, List.filterMap_append,
        List.filterMap_cons_none rfl]

/--
The yard accepts exactly the alternations without a double minus, and what it
accepts is assembled into an arena that holds the tree of the reference parser.
-/
theorem ofTokens_agrees_with_descent (tokens : List Token) :
    ((exists items, ofTokens tokens = .ok items) <->
      (exists first rest, tokens = alternation first rest) ∧ ¬ HasDoubleMinus tokens) ∧
    (forall items, ofTokens tokens = .ok items ->
      exists a t, Arena.ofPostfix items = .ok a ∧ a.size = tokens.length ∧
        a.Represents t ∧ Descent.parse? tokens = some t ∧
        t.numbers = tokens.filterMap Token.number?) := by
  constructor
  · constructor
    · rintro ⟨items, hitems⟩
      exact alternation_of_ofTokens hitems
    · rintro ⟨⟨first, rest, rfl⟩, hsafe⟩
      rcases exists_sum_of_alternation first rest hsafe with ⟨t, hsum⟩
      exact ⟨t.listing, ofTokens_of_sum hsum⟩
  · intro items hitems
    rcases exists_sum_of_ofTokens hitems with ⟨t, hsum⟩
    have hlisting : items = t.listing := by
      rw [ofTokens_of_sum hsum] at hitems
      cases hitems
      rfl
    rcases Arena.ofPostfix_listing t with ⟨a, harena, hsize, htree⟩
    refine ⟨a, t, ?_, ?_, htree, Descent.parse?_of_sum hsum, sum_numbers hsum⟩
    · rw [hlisting]
      exact harena
    · rw [hsize]
      exact sum_length_listing hsum

theorem ofTokens_agrees_with_descent_product :
    ofTokens [.operator .minus, .number (.zero false), .operator .times,
        .number .nan, .operator .minus, .number (.zero true)] =
      .ok [.number (.zero false), .negate, .number .nan, .operator .times,
        .number (.zero true), .operator .minus] ∧
    exists a t,
      Arena.ofPostfix [.number (.zero false), .negate, .number .nan, .operator .times,
        .number (.zero true), .operator .minus] = .ok a ∧
      a.size = 6 ∧ a.Represents t ∧
      Descent.parse? [.operator .minus, .number (.zero false), .operator .times,
        .number .nan, .operator .minus, .number (.zero true)] = some t ∧
      t.numbers = [.zero false, .nan, .zero true] :=
  ⟨rfl, (ofTokens_agrees_with_descent
    [.operator .minus, .number (.zero false), .operator .times,
      .number .nan, .operator .minus, .number (.zero true)]).2 _ rfl⟩

end Postfix

end PocketCalculator
