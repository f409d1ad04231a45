import PocketCalculator.Text.Alphanumeric
import PocketCalculator.Text.Blank
import PocketCalculator.Token.Literal

/-!
# Patterns

## Values in a condition

A condition may ask for the value of a field, by a truth value, a number or a
pattern.  The program opens no span that a value could be asked of, so it only
matters whether the value can be read: every truth value is a pattern too, and so
is every number that does not begin with a plus sign.

A pattern is a regular expression.  Comparisons without regard to case, the
classes of digits, spaces and words, and the borders of words need tables of
characters that are not at hand, so a pattern that asks for one of them cannot be
read unless it keeps to ASCII characters.
-/

namespace PocketCalculator

namespace CommandLine

namespace Pattern

/-- What is in force at a place of a pattern. -/
structure Flags where
  ignoresCase : Bool
  ignoresBlanks : Bool
  isUnicode : Bool
deriving DecidableEq

namespace Flags

def initial : Flags :=
  ⟨false, false, true⟩

def set (f : Flags) (letter : Char) (isOn : Bool) : Flags :=
  if letter = 'i' then { f with ignoresCase := isOn }
  else if letter = 'x' then { f with ignoresBlanks := isOn }
  else if letter = 'u' then { f with isUnicode := isOn }
  else f

/-- The text after the blanks and comments that are looked past. -/
def skip (f : Flags) : Text -> Text
  | [] => []
  | c :: rest =>
      if !f.ignoresBlanks then c :: rest
      else if Text.isBlank c then skip f rest
      else if c = '#' then skipComment f rest
      else c :: rest
where
  /-- The text after the comment that it begins with. -/
  skipComment (f : Flags) : Text -> Text
    | [] => []
    | c :: rest => if c = '\n' then skip f rest else skipComment f rest

end Flags

/-!
## Single characters
-/

inductive Primitive where
  /-- A character, perhaps written as a byte. -/
  | literal (c : Char) (isByte : Bool)
  /-- The digits, spaces or words, or everything else. -/
  | named (isNegated : Bool)
  | wordBorder
  | anchor
deriving DecidableEq

def hexValue (c : Char) : Nat :=
  if c.isDigit then c.toNat - '0'.toNat else c.toLower.toNat - 'a'.toNat + 10

def isHexDigit (c : Char) : Bool :=
  c.isDigit || ('a' ≤ c.toLower && c.toLower ≤ 'f')

def hexadecimal? (count : Nat) (t : Text) : Option (Char × Text) :=
  let digits := t.take count
  let value := digits.foldl (fun n c => 16 * n + hexValue c) 0
  if digits.length = count && digits.all isHexDigit && decide value.isValidChar then
    some (Char.ofNat value, t.drop count)
  else none

/-- What a backslash makes of the text after it. -/
def escaped? : Text -> Option (Primitive × Text)
  | [] => none
  | c :: rest =>
      if c = 'x' then (hexadecimal? 2 rest).map fun read => (.literal read.1 true, read.2)
      else if c = 'u' then
        (hexadecimal? 4 rest).map fun read => (.literal read.1 false, read.2)
      else if c = 'U' then
        (hexadecimal? 8 rest).map fun read => (.literal read.1 false, read.2)
      else if "dsw".toList.contains c then some (.named false, rest)
      else if "DSW".toList.contains c then some (.named true, rest)
      else if "bB<>".toList.contains c then some (.wordBorder, rest)
      else if "Az".toList.contains c then some (.anchor, rest)
      else if "aftnrv".toList.contains c then some (.literal c false, rest)
      else if c.isAlphanum || 0x7F < c.toNat then none
      else some (.literal c false, rest)

def primitive? : Text -> Option (Primitive × Text)
  | [] => none
  | c :: rest => if c = '\\' then escaped? rest else some (.literal c false, rest)

def Flags.allow (f : Flags) : Primitive -> Bool
  | .literal c isByte =>
      if f.isUnicode then !f.ignoresCase else !isByte || c.toNat ≤ 0x7F
  | .named isNegated => !f.isUnicode && !isNegated
  | .wordBorder => !f.isUnicode
  | .anchor => true

def Flags.allowMember (f : Flags) : Primitive -> Bool
  | .literal c _ => f.isUnicode || c.toNat ≤ 0x7F
  | .named isNegated => !f.isUnicode && !isNegated
  | _ => false

/-!
## Sets of characters
-/

def asciiClassNames : List Text :=
  ["alnum", "alpha", "ascii", "blank", "cntrl", "digit", "graph", "lower", "print", "punct",
    "space", "upper", "word", "xdigit"].map String.toList

def asciiClass? : Text -> Option Text
  | ':' :: rest =>
      let named := if rest.head? = some '^' then rest.drop 1 else rest
      let name := named.takeWhile (· != ':')
      match named.drop name.length with
      | ':' :: ']' :: after => if asciiClassNames.contains name then some after else none
      | _ => none
  | _ => none

def openSet? (f : Flags) (t : Text) : Option Text :=
  let inside := f.skip t
  let isNegated := inside.head? = some '^'
  let members := if isNegated then f.skip (inside.drop 1) else inside
  if f.isUnicode && f.ignoresCase || !f.isUnicode && isNegated then none
  else if members.head? = some ']' then some (members.drop 1)
  else some (members.dropWhile (· = '-'))

def member? (f : Flags) (t : Text) : Option Text := do
  let (first, afterFirst) <- primitive? t
  if !f.allowMember first then none
  else
    match f.skip afterFirst with
    | '-' :: rest =>
        match (f.skip rest).head? with
        | some ']' => some ('-' :: rest)
        | some '-' => some ('-' :: rest)
        | _ => do
            let (last, afterLast) <- primitive? (f.skip rest)
            match first, last with
            | .literal low _, .literal high _ =>
                if f.allowMember last && low ≤ high then some afterLast else none
            | _, _ => none
    | rest => some rest

/--
The text after a set, given its members and how many sets are open.  Every step
takes at least one character, so the length of the text is fuel enough.
-/
def afterSet? (f : Flags) : Nat -> Nat -> Text -> Option Text
  | 0, _, _ => none
  | fuel + 1, depth, t =>
      match f.skip t with
      | [] => none
      | ']' :: rest => if depth ≤ 1 then some rest else afterSet? f fuel (depth - 1) rest
      | '[' :: rest =>
          match asciiClass? rest with
          | some after => afterSet? f fuel depth after
          | none => (openSet? f rest).bind (afterSet? f fuel (depth + 1))
      | '&' :: '&' :: rest => afterSet? f fuel depth rest
      | '-' :: '-' :: rest => afterSet? f fuel depth rest
      | '~' :: '~' :: rest => afterSet? f fuel depth rest
      | rest => (member? f rest).bind (afterSet? f fuel depth)

def set? (f : Flags) (t : Text) : Option Text :=
  (openSet? f t).bind (afterSet? f (t.length + 1) 1)

/-!
## Groups
-/

inductive Opening where
  | plain (rest : Text)
  | named (name rest : Text)
  /-- Flags for the group, or for the rest of the group around it. -/
  | flagged (f : Flags) (isGroup : Bool) (rest : Text)

def flags? (f : Flags) (isOn : Bool) (seen : Text) : Text -> Option Opening
  | [] => none
  | c :: rest =>
      if c = ':' || c = ')' then
        if seen.head? = some '-' || c = ')' && seen = [] then none
        else some (.flagged f (c = ':') rest)
      else if seen.contains c then none
      else if c = '-' then flags? f false (c :: seen) rest
      else if "imsUuxR".toList.contains c then flags? (f.set c isOn) isOn (c :: seen) rest
      else none

def isNameCharacter (c : Char) : Bool :=
  c = '_' || c = '.' || c = '[' || c = ']' || Text.isAlphanumeric c

def name? (t : Text) : Option Opening :=
  let name := t.takeWhile (· != '>')
  let isName := name.all isNameCharacter &&
    name.head?.any fun c => c = '_' || Text.isAlphanumeric c && !c.isDigit
  match t.drop name.length with
  | _ :: rest => if isName then some (.named name rest) else none
  | [] => none

def opening? (f : Flags) (t : Text) : Option Opening :=
  match f.skip t with
  | '?' :: 'P' :: '<' :: rest => name? rest
  | '?' :: '<' :: rest => name? rest
  | '?' :: rest => flags? f true [] rest
  | rest => some (.plain rest)

/-!
## Whole patterns
-/

/-- What is known at a place of a pattern. -/
structure Reader where
  flags : Flags
  /-- Whether something stands before the place that can be repeated. -/
  hasOperand : Bool
  /-- The flags around the groups that are open, innermost first. -/
  enclosing : List Flags
  names : List Text

namespace Reader

def initial : Reader :=
  ⟨.initial, false, [], []⟩

def entered (r : Reader) (inside : Flags) : Reader :=
  { r with flags := inside, hasOperand := false, enclosing := r.flags :: r.enclosing }

def enter? (r : Reader) : Opening -> Option (Reader × Text)
  | .plain rest => some (r.entered r.flags, rest)
  | .named name rest =>
      if r.names.contains name then none
      else some ({ r.entered r.flags with names := name :: r.names }, rest)
  | .flagged f true rest => some (r.entered f, rest)
  | .flagged f false rest => some ({ r with flags := f, hasOperand := false }, rest)

def step? (r : Reader) (c : Char) (rest : Text) : Option (Reader × Text) :=
  let operand := { r with hasOperand := true }
  match c with
  | '(' => (opening? r.flags rest).bind r.enter?
  | ')' =>
      match r.enclosing with
      | [] => none
      | around :: others =>
          some ({ operand with flags := around, enclosing := others }, rest)
  | '|' => some ({ r with hasOperand := false }, rest)
  | '[' => (set? r.flags rest).map fun after => (operand, after)
  | '\x7b' => none
  | '.' => if r.flags.isUnicode then some (operand, rest) else none
  | '^' => some (operand, rest)
  | '$' => some (operand, rest)
  | _ =>
      if c = '?' || c = '*' || c = '+' then
        if r.hasOperand then some (r, if rest.head? = some '?' then rest.drop 1 else rest)
        else none
      else
        (primitive? (c :: rest)).bind fun read =>
          if r.flags.allow read.1 then some (operand, read.2) else none

/-- Whether the rest of a pattern can be read; every part takes at least one character. -/
def reads : Nat -> Reader -> Text -> Bool
  | 0, _, _ => false
  | fuel + 1, r, t =>
      match r.flags.skip t with
      | [] => r.enclosing.isEmpty
      | c :: rest => (r.step? c rest).any fun next => reads fuel next.1 next.2

end Reader

def isReadable (t : Text) : Bool :=
  Reader.initial.reads (t.length + 1) t

def isPositiveNumber : Text -> Bool
  | '+' :: t =>
      let (literal, rest) := Literal.split t
      literal.isComplete && rest.isEmpty ||
        ["inf", "infinity", "nan"].any fun name => t.map Char.toLower = name.toList
  | _ => false

def isValue (t : Text) : Bool :=
  isPositiveNumber t || isReadable t

end Pattern

end CommandLine

end PocketCalculator
