import PocketCalculator.Proofs.PlainNumbers
import PocketCalculator.Proofs.Sharing

/-!
# Texts of the log are unambiguous

## Texts of one class of characters

Where a text of characters of some class is followed by a character outside of the
class, or by nothing, one sees where it ends.
-/

namespace PocketCalculator

namespace Text

def StartsOutside (p : Char -> Bool) (t : Text) : Prop :=
  forall c, c ∈ t.head? -> p c = false

theorem startsOutside_nil (p : Char -> Bool) : StartsOutside p [] := by
  intro c hc
  cases hc

theorem startsOutside_cons {p : Char -> Bool} {c : Char} (h : p c = false) (t : Text) :
    StartsOutside p (c :: t) := by
  intro d hd
  cases hd
  exact h

theorem append_inj_of_startsOutside {p : Char -> Bool} {t u r s : Text}
    (ht : forall c, c ∈ t -> p c = true) (hu : forall c, c ∈ u -> p c = true)
    (hr : StartsOutside p r) (hs : StartsOutside p s) (h : t ++ r = u ++ s) : t = u ∧ r = s := by
  have hsame : t = u := by
    rw [← takeWhile_append_of_head? ht hr, h, takeWhile_append_of_head? hu hs]
  rw [hsame] at h
  exact ⟨hsame, List.append_cancel_left h⟩

/-!
## Lists of words

A list of texts is written with single spaces.  If none of them is empty or has a
blank, the list can be told from what is written.
-/

/-- Whether a text may stand between spaces and be told from them. -/
def IsWord (t : Text) : Prop :=
  t ≠ [] ∧ forall c, c ∈ t -> isBlank c = false

theorem eq_nil_of_join_eq_nil {words : List Text}
    (hwords : forall word, word ∈ words -> IsWord word) (h : join [' '] words = []) :
    words = [] := by
  by_contra hne
  have hsplit := splitOn_join hne fun word hword => (hwords word hword).2
  rw [h, List.splitOn_nil] at hsplit
  rw [← hsplit] at hwords
  exact (hwords [] (List.mem_singleton_self _)).1 rfl

theorem join_injective {words others : List Text}
    (hwords : forall word, word ∈ words -> IsWord word)
    (hothers : forall word, word ∈ others -> IsWord word)
    (h : join [' '] words = join [' '] others) : words = others := by
  by_cases hnil : words = []
  · rw [hnil] at h
    rw [hnil, eq_nil_of_join_eq_nil hothers h.symm]
  · have hne : others ≠ [] := by
      rintro rfl
      exact hnil (eq_nil_of_join_eq_nil hwords h)
    rw [← splitOn_join hnil fun word hword => (hwords word hword).2, h,
      splitOn_join hne fun word hword => (hothers word hword).2]

theorem join_map_injective {α : Type} {f : α -> Text} (hinjective : Function.Injective f)
    (hwords : forall x, IsWord (f x)) :
    Function.Injective fun xs : List α => join [' '] (xs.map f) := by
  intro xs ys h
  have hlist : forall zs : List α, forall word, word ∈ zs.map f -> IsWord word := by
    intro zs word hword
    rcases List.mem_map.mp hword with ⟨x, _, rfl⟩
    exact hwords x
  exact List.map_injective_iff.mpr hinjective (join_injective (hlist xs) (hlist ys) h)

end Text

/-!
## Tokens and items
-/

namespace Operator

theorem isMagnitudeCharacter_symbol (o : Operator) :
    Binary64.isMagnitudeCharacter o.symbol = false := by
  cases o <;> decide

end Operator

namespace Binary64

def isPlainCharacter (c : Char) : Bool :=
  c == '-' || isMagnitudeCharacter c

theorem isPlainCharacter_of_mem (x : Binary64) :
    forall c, c ∈ x.plain -> isPlainCharacter c = true := by
  intro c hc
  rw [plain_eq_signed] at hc
  unfold isPlainCharacter
  rcases Text.mem_signed.mp hc with ⟨_, rfl⟩ | hmagnitude
  · rfl
  · rw [x.isMagnitudeCharacter_of_mem c hmagnitude, Bool.or_true]

theorem plain_append_inj {x y : Binary64} {r s : Text}
    (hr : Text.StartsOutside isPlainCharacter r) (hs : Text.StartsOutside isPlainCharacter s)
    (h : x.plain ++ r = y.plain ++ s) : x = y ∧ r = s := by
  rcases Text.append_inj_of_startsOutside x.isPlainCharacter_of_mem y.isPlainCharacter_of_mem
    hr hs h with ⟨hplain, hrest⟩
  exact ⟨plain_injective hplain, hrest⟩

theorem exists_magnitude_mem_plain (x : Binary64) :
    exists c, c ∈ x.plain ∧ isMagnitudeCharacter c = true := by
  rcases List.exists_mem_of_ne_nil _ x.plain_abs_ne_nil with ⟨c, hc⟩
  refine ⟨c, ?_, x.isMagnitudeCharacter_of_mem c hc⟩
  rw [plain_eq_signed]
  exact Text.mem_signed.mpr (.inr hc)

theorem plain_ne_nil (x : Binary64) : x.plain ≠ [] := by
  rcases x.exists_magnitude_mem_plain with ⟨c, hc, _⟩
  exact List.ne_nil_of_mem hc

theorem plain_ne_symbol (x : Binary64) (o : Operator) : x.plain ≠ [o.symbol] := by
  intro h
  rcases x.exists_magnitude_mem_plain with ⟨c, hc, hmagnitude⟩
  rw [h] at hc
  rw [List.mem_singleton.mp hc, o.isMagnitudeCharacter_symbol] at hmagnitude
  cases hmagnitude

end Binary64

namespace Token

theorem isWord_text (token : Token) : Text.IsWord token.text := by
  refine ⟨?_, token.isBlank_of_mem_text⟩
  cases token with
  | number x => exact x.plain_ne_nil
  | operator o => exact List.cons_ne_nil _ _

theorem text_injective : Function.Injective text := by
  intro a b h
  cases a with
  | number x =>
      cases b with
      | number y => rw [Binary64.plain_injective h]
      | operator o => exact absurd h (x.plain_ne_symbol o)
  | operator o =>
      cases b with
      | number y => exact absurd h.symm (y.plain_ne_symbol o)
      | operator other => rw [Operator.eq_of_symbol_eq (List.singleton_inj.mp h)]

theorem listText_injective : Function.Injective listText :=
  Text.join_map_injective text_injective isWord_text

end Token

namespace Postfix

namespace Item

theorem isWord_text (item : Item) : Text.IsWord item.text := by
  refine ⟨?_, item.isBlank_of_mem_text⟩
  cases item with
  | number x => exact x.plain_ne_nil
  | negate => exact List.cons_ne_nil _ _
  | operator o => exact List.cons_ne_nil _ _

theorem plain_ne_negate (x : Binary64) : x.plain ≠ text negate := by
  intro h
  have hletter : 'g' ∈ text negate := by
    decide
  rw [← h] at hletter
  cases x.isPlainCharacter_of_mem 'g' hletter

theorem text_injective : Function.Injective text := by
  intro a b h
  cases a with
  | number x =>
      cases b with
      | number y => rw [Binary64.plain_injective h]
      | negate => exact absurd h (plain_ne_negate x)
      | operator o => exact absurd h (x.plain_ne_symbol o)
  | negate =>
      cases b with
      | number y => exact absurd h.symm (plain_ne_negate y)
      | negate => rfl
      | operator o => cases List.cons.inj h |>.2
  | operator o =>
      cases b with
      | number y => exact absurd h.symm (y.plain_ne_symbol o)
      | negate => cases List.cons.inj h |>.2
      | operator other => rw [Operator.eq_of_symbol_eq (List.singleton_inj.mp h)]

theorem listText_injective : Function.Injective listText :=
  Text.join_map_injective text_injective isWord_text

end Item

end Postfix

/-!
## Trees

A number in a tree is followed by a space, a closing parenthesis or the end of the
text.  So a tree is told from its text together with what stands behind it, from
the front: the text of an operation opens with a parenthesis, and no number does.
A minus sign behind the parenthesis belongs to a negation, or to a number at the
left of an operation.  What ends that number tells the two cases apart.
-/

namespace Tree

theorem plain_append_ne_open (x : Binary64) (r s : Text) : x.plain ++ r ≠ '(' :: s := by
  intro h
  rcases List.exists_cons_of_ne_nil x.plain_ne_nil with ⟨c, rest, hplain⟩
  have hc := x.isPlainCharacter_of_mem c (by rw [hplain]; exact List.mem_cons_self ..)
  rw [hplain] at h
  rw [(List.cons.inj h).1] at hc
  cases hc

/-- Before a closing parenthesis, the first number of a tree is not followed by a space. -/
theorem exists_front (t : Tree) (r : Text) :
    exists front c rest, t.text ++ ')' :: r = front ++ c :: rest ∧
      (forall d, d ∈ front -> Binary64.isPlainCharacter d = true) ∧
      Binary64.isPlainCharacter c = false ∧ c ≠ ' ' := by
  cases t with
  | number x => exact ⟨x.plain, ')', r, rfl, x.isPlainCharacter_of_mem, by decide, by decide⟩
  | negate operand =>
      exact ⟨[], '(', _, rfl, List.forall_mem_nil _, by decide, by decide⟩
  | binary o left right =>
      exact ⟨[], '(', _, rfl, List.forall_mem_nil _, by decide, by decide⟩

/-- Behind its parenthesis a negation does not read on like an operation. -/
theorem negation_ne_operation (t left : Tree) (r s : Text) :
    '-' :: (t.text ++ ')' :: r) ≠ left.text ++ ' ' :: s := by
  intro h
  cases left with
  | number x =>
      rcases exists_front t r with ⟨front, c, rest, hfront, hplain, hc, hne⟩
      have hminus : forall d, d ∈ '-' :: front -> Binary64.isPlainCharacter d = true := by
        intro d hd
        cases hd with
        | head => decide
        | tail _ hd => exact hplain d hd
      rw [hfront, ← List.cons_append] at h
      have hrest := (Text.append_inj_of_startsOutside hminus x.isPlainCharacter_of_mem
        (Text.startsOutside_cons hc rest) (Text.startsOutside_cons (by decide) s) h).2
      exact hne (List.cons.inj hrest).1
  | negate operand => cases (List.cons.inj h).1
  | binary o left right => cases (List.cons.inj h).1

theorem negate_append (t : Tree) (r : Text) :
    (negate t).text ++ r = '(' :: '-' :: (t.text ++ ')' :: r) := by
  simp [text]

theorem binary_append (o : Operator) (t u : Tree) (r : Text) :
    (binary o t u).text ++ r =
      '(' :: (t.text ++ ' ' :: o.symbol :: ' ' :: (u.text ++ ')' :: r)) := by
  simp [text]

theorem text_append_inj {t u : Tree} {r s : Text}
    (hr : Text.StartsOutside Binary64.isPlainCharacter r)
    (hs : Text.StartsOutside Binary64.isPlainCharacter s)
    (h : t.text ++ r = u.text ++ s) : t = u ∧ r = s := by
  have hspace : forall rest, Text.StartsOutside Binary64.isPlainCharacter (' ' :: rest) :=
    Text.startsOutside_cons (by decide)
  have hclose : forall rest, Text.StartsOutside Binary64.isPlainCharacter (')' :: rest) :=
    Text.startsOutside_cons (by decide)
  induction t generalizing u r s with
  | number x =>
      cases u with
      | number y =>
          rcases Binary64.plain_append_inj hr hs h with ⟨rfl, hrest⟩
          exact ⟨rfl, hrest⟩
      | negate operand => exact absurd h (plain_append_ne_open x r _)
      | binary o left right => exact absurd h (plain_append_ne_open x r _)
  | negate operand ih =>
      rw [negate_append] at h
      cases u with
      | number y => exact absurd h.symm (plain_append_ne_open y s _)
      | negate other =>
          rw [negate_append] at h
          rcases ih (hclose r) (hclose s) (List.cons.inj (List.cons.inj h).2).2 with
            ⟨rfl, hrest⟩
          exact ⟨rfl, (List.cons.inj hrest).2⟩
      | binary o left right =>
          rw [binary_append] at h
          exact absurd (List.cons.inj h).2 (negation_ne_operation operand left r _)
  | binary o left right ihleft ihright =>
      rw [binary_append] at h
      cases u with
      | number y => exact absurd h.symm (plain_append_ne_open y s _)
      | negate other =>
          rw [negate_append] at h
          exact absurd (List.cons.inj h).2.symm (negation_ne_operation other left s _)
      | binary sign first second =>
          rw [binary_append] at h
          rcases ihleft (hspace _) (hspace _) (List.cons.inj h).2 with ⟨rfl, hbehind⟩
          rcases List.cons.inj (List.cons.inj hbehind).2 with ⟨hsymbol, hsecond⟩
          rcases ihright (hclose r) (hclose s) (List.cons.inj hsecond).2 with ⟨rfl, hrest⟩
          exact ⟨by rw [Operator.eq_of_symbol_eq hsymbol], (List.cons.inj hrest).2⟩

theorem text_injective : Function.Injective text := by
  intro t u h
  have hnil := Text.startsOutside_nil Binary64.isPlainCharacter
  rw [← List.append_nil t.text, ← List.append_nil u.text] at h
  exact (text_append_inj hnil hnil h).1

end Tree

/--
The log never writes two different things alike: not two lists of tokens, not two
postfix lists, and not two arenas that stand for different trees.  So a negation, a
number and an operation differ in their texts, whichever of them has a minus sign.
-/
theorem log_texts_are_unambiguous :
    (forall tokens others : List Token,
      Token.listText tokens = Token.listText others -> tokens = others) ∧
    (forall items others : List Postfix.Item,
      Postfix.Item.listText items = Postfix.Item.listText others -> items = others) ∧
    (forall a b : Arena, 0 < a.size -> 0 < b.size -> a.text = b.text ->
      exists t, a.Represents t ∧ b.Represents t ∧
        forall u, a.Represents u ∨ b.Represents u -> u = t) ∧
    forall (x : Binary64) (o : Operator) (t left right : Tree),
      (Tree.negate t).text ≠ (Tree.number x).text ∧
      (Tree.number x).text ≠ (Tree.binary o left right).text ∧
      (Tree.binary o left right).text ≠ (Tree.negate t).text := by
  refine ⟨?_, ?_, ?_, ?_⟩
  · intro tokens others h
    exact Token.listText_injective h
  · intro items others h
    exact Postfix.Item.listText_injective h
  · intro a b ha hb h
    rcases a.exists_unfolds (a.size - 1) (by omega) with ⟨t, ht⟩
    rcases b.exists_unfolds (b.size - 1) (by omega) with ⟨u, hu⟩
    have hsame : t = u := by
      apply Tree.text_injective
      rw [← Arena.text_of_represents ht, h, Arena.text_of_represents hu]
    subst hsame
    refine ⟨t, ht, hu, ?_⟩
    intro v hv
    rcases hv with hv | hv
    · exact hv.unique ht
    · exact hv.unique hu
  · intro x o t left right
    refine ⟨?_, ?_, ?_⟩
    · intro h
      cases Tree.text_injective h
    · intro h
      cases Tree.text_injective h
    · intro h
      cases Tree.text_injective h

/--
A negation of six, minus six, a negation of minus six and a difference with minus
six, and two arenas of that difference which differ in a node that is not used.
-/
theorem log_texts_are_unambiguous_six :
    let six : Binary64 := .finite false (3 * 2 ^ 51) 1024 (by decide)
    let minusSix : Binary64 := .finite true (3 * 2 ^ 51) 1024 (by decide)
    let difference : Tree := .binary .minus (.number six) (.number minusSix)
    let compact : Arena := ((Arena.empty.push (.number six) trivial).push (.number minusSix)
      trivial).push (.binary .minus 0 1) ⟨by decide, by decide⟩
    let padded : Arena := (((Arena.empty.push (.number six) trivial).push (.number minusSix)
      trivial).push (.negate 1) (by decide)).push (.binary .minus 0 1) ⟨by decide, by decide⟩
    (Tree.negate (.number six)).text = "(-6)".toList ∧
    (Tree.number minusSix).text = "-6".toList ∧
    (Tree.negate (.number minusSix)).text = "(--6)".toList ∧
    difference.text = "(6 - -6)".toList ∧
    difference.text ≠ (Tree.negate (.number minusSix)).text ∧
    Token.listText [.operator .minus, .number six] ≠ Token.listText [.number minusSix] ∧
    Postfix.Item.listText [.number six, .negate] ≠ Postfix.Item.listText [.number minusSix] ∧
    padded.text = compact.text ∧
    exists t, padded.Represents t ∧ compact.Represents t ∧ t = difference := by
  intro six minusSix difference compact padded
  have hcompact : compact.Represents difference := .binary rfl (.number rfl) (.number rfl)
  have hpadded : padded.Represents difference := .binary rfl (.number rfl) (.number rfl)
  have htext : padded.text = compact.text := by
    rw [Arena.text_of_represents hcompact, Arena.text_of_represents hpadded]
  rcases log_texts_are_unambiguous with ⟨htokens, hitems, harenas, htrees⟩
  refine ⟨by decide +kernel, by decide +kernel, by decide +kernel, by decide +kernel,
    (htrees six .minus (.number minusSix) (.number six) (.number minusSix)).2.2, ?_, ?_,
    htext, ?_⟩
  · intro h
    cases congrArg List.length (htokens _ _ h)
  · intro h
    cases congrArg List.length (hitems _ _ h)
  · rcases harenas padded compact (by decide) (by decide) htext with ⟨t, ht, hu, hall⟩
    exact ⟨t, ht, hu, (hall difference (.inl hpadded)).symm⟩

end PocketCalculator
