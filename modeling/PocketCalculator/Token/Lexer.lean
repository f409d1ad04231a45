import PocketCalculator.Error
import PocketCalculator.Text.Blank
import PocketCalculator.Token.Basic
import PocketCalculator.Token.Literal

/-!
# Reading tokens

## From text to tokens

Blanks are dropped first, wherever they stand.  What is left is cut from the
front into operator signs and longest literals; the first piece that is neither
ends the reading with an error.
-/

namespace PocketCalculator

namespace Token

/-- The tokens of a text without blanks, put after those already read, latest first. -/
def readOnto (done : List Token) : Text -> Except SyntaxError (List Token)
  | [] => .ok done.reverse
  | c :: rest =>
      match Operator.ofChar? c with
      | some o => readOnto (operator o :: done) rest
      | none =>
          if _ : Literal.opens c = true then
            match (Literal.split (c :: rest)).1.value? with
            | some x => readOnto (number x :: done) (Literal.split (c :: rest)).2
            | none => .error (.invalidNumber (Literal.split (c :: rest)).1.text)
          else .error (.unexpectedCharacter c)
termination_by t => t.length
decreasing_by
  · exact Nat.lt_succ_self rest.length
  · exact Literal.split_rest_length_lt ‹Literal.opens c = true›

def read (t : Text) : Except SyntaxError (List Token) :=
  readOnto [] (Text.strip t)

end Token

end PocketCalculator
