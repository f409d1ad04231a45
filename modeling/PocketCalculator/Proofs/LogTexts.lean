import PocketCalculator.Event
import PocketCalculator.Proofs.Rereading

/-!
# Texts in the log

## Items without blanks

In the log a number, a token or an item of a postfix list has no blank in its
text, so a list of them that is written with single spaces is split at the spaces
into just these texts again.
-/

namespace PocketCalculator

theorem Text.mem_signed {negative : Bool} {t : Text} {c : Char} :
    c ∈ signed negative t <-> (negative = true ∧ c = '-') ∨ c ∈ t := by
  cases negative with
  | false => simp [signed]
  | true => simp [signed]

theorem Text.isBlank_of_mem_signed {t : Text} (h : forall c, c ∈ t -> isBlank c = false)
    (negative : Bool) : forall c, c ∈ signed negative t -> isBlank c = false := by
  intro c hc
  rcases mem_signed.mp hc with ⟨_, rfl⟩ | hmember
  · exact isBlank_symbol .minus
  · exact h c hmember

theorem Text.isBlank_of_all {t : Text} (h : t.all (fun c => !isBlank c) = true) :
    forall c, c ∈ t -> isBlank c = false := by
  intro c hc
  simpa using List.all_eq_true.mp h c hc

theorem Binary64.isBlank_of_mem_plain (x : Binary64) :
    forall c, c ∈ x.plain -> Text.isBlank c = false := by
  cases x with
  | finite negative mantissa exponent h =>
      apply Text.isBlank_of_mem_signed
      intro c hc
      split at hc
      · exact Literal.isBlank_of_mem_readAs readAs_zero hc
      · exact Literal.isBlank_of_mem_readAs (Decimal.readAs_positional _) hc
  | infinite negative =>
      exact Text.isBlank_of_mem_signed (Text.isBlank_of_all (by decide)) negative
  | nan => exact Text.isBlank_of_all (by decide)

theorem Token.isBlank_of_mem_text (token : Token) :
    forall c, c ∈ token.text -> Text.isBlank c = false := by
  cases token with
  | number x => exact x.isBlank_of_mem_plain
  | operator o =>
      intro c hc
      rw [List.mem_singleton.mp hc]
      exact Text.isBlank_symbol o

theorem Postfix.Item.isBlank_of_mem_text (item : Item) :
    forall c, c ∈ item.text -> Text.isBlank c = false := by
  cases item with
  | number x => exact x.isBlank_of_mem_plain
  | negate => exact Text.isBlank_of_all (by decide)
  | operator o =>
      intro c hc
      rw [List.mem_singleton.mp hc]
      exact Text.isBlank_symbol o

/-!
## Splitting a list at its spaces
-/

theorem Text.splitOn_join {parts : List Text} (hne : parts ≠ [])
    (h : forall part, part ∈ parts -> forall c, c ∈ part -> isBlank c = false) :
    (join [' '] parts).splitOn ' ' = parts := by
  apply List.splitOn_intercalate ' ' _ hne
  intro part hpart hspace
  have hblank : isBlank ' ' = true := by
    decide
  rw [h part hpart ' ' hspace] at hblank
  cases hblank

theorem Token.splitOn_listText {tokens : List Token} (hne : tokens ≠ []) :
    (listText tokens).splitOn ' ' = tokens.map text := by
  apply Text.splitOn_join
  · simpa using hne
  · intro part hpart
    rcases List.mem_map.mp hpart with ⟨token, _, rfl⟩
    exact token.isBlank_of_mem_text

theorem Postfix.Item.splitOn_listText {items : List Item} (hne : items ≠ []) :
    (listText items).splitOn ' ' = items.map text := by
  apply Text.splitOn_join
  · simpa using hne
  · intro part hpart
    rcases List.mem_map.mp hpart with ⟨item, _, rfl⟩
    exact item.isBlank_of_mem_text

end PocketCalculator
