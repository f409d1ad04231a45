import PocketCalculator.Text.Basic

/-!
# Texts for a terminal

## Leaving out control sequences

A message may repeat what the user wrote, and that may hold control characters
and escape sequences.  They are left out, so that a message cannot act on the
terminal.  A sequence begins with the escape character; which character ends it
depends on its kind.

White space among the control characters is kept.  Inside an unfinished sequence
it suspends the sequence: what follows is kept until another control character
resumes the sequence, or a character after the ASCII characters gives it up.

The end of the text ends an unfinished sequence too, so each repeated text is
freed of its sequences on its own and cannot swallow what stands after it.
-/

namespace PocketCalculator

namespace Text

/-- The kinds of sequences and their parts. -/
inductive Sequence where
  | nothing
  /-- The escape character. -/
  | escape
  /-- An escape sequence of more than one character. -/
  | intermediate
  /-- A sequence with parameters and a final letter. -/
  | control
  /-- A command to the terminal, ended by a bell. -/
  | command
  /-- A sequence for a device, before its parameters. -/
  | device
  /-- The parameters of a sequence for a device. -/
  | deviceParameters
  /-- What follows the parameters of a sequence for a device. -/
  | deviceIntermediate
  /-- A string, ended by a terminator or by the next sequence. -/
  | string
deriving DecidableEq

namespace Sequence

def isKeptSpace (c : Char) : Bool :=
  c = '\t' || c = '\n' || c = '\x0c' || c = '\r'

def begunBy (c : Char) : Sequence :=
  if c = '[' then control
  else if c = ']' then command
  else if c = 'P' then device
  else if c = 'X' || c = '^' || c = '_' then string
  else if c < '0' then intermediate
  else nothing

def afterPrintable (s : Sequence) (c : Char) : Sequence :=
  match s with
  | nothing => nothing
  | escape => begunBy c
  | intermediate => if c < '0' then intermediate else nothing
  | control => if c < '@' then control else nothing
  | command => command
  | device =>
      if c < '0' then deviceIntermediate
      else if c < '@' then deviceParameters
      else string
  | deviceParameters =>
      if c < '0' then deviceIntermediate
      else if c < '<' then deviceParameters
      else string
  | deviceIntermediate => if c < '0' then deviceIntermediate else string
  | string => string

/-- The terminator of a string is a byte, wherever it occurs in a character. -/
def isTerminator (c : Char) : Bool :=
  (String.utf8EncodeChar c).contains 0x9C

def afterOther (s : Sequence) (c : Char) : Sequence :=
  if s = string && isTerminator c then nothing else s

def yieldsToSpace : Sequence -> Bool
  | nothing => true
  | escape => true
  | intermediate => true
  | control => true
  | _ => false

end Sequence

/-- What the characters read so far have begun. -/
structure Unfinished where
  sequence : Sequence
  /-- Whether white space has come up inside the sequence and it has not been resumed. -/
  isSuspended : Bool
deriving DecidableEq

namespace Unfinished

def nothing : Unfinished :=
  ⟨.nothing, false⟩

def isKeeping (u : Unfinished) : Bool :=
  u.isSuspended || u.sequence = .nothing

def step (u : Unfinished) (c : Char) : Unfinished × Bool :=
  if c = '\x1b' then (⟨.escape, false⟩, false)
  else if c = '\x18' || c = '\x1a' then (nothing, false)
  else if Sequence.isKeptSpace c && (u.isSuspended || u.sequence.yieldsToSpace) then
    (⟨u.sequence, true⟩, true)
  else if c = '\x07' && u.sequence = .command then (nothing, false)
  else if c < ' ' || c = '\x7f' then (⟨u.sequence, false⟩, false)
  else if u.isKeeping then (if c < '\x7f' then u else nothing, true)
  else if c < '\x7f' then (⟨u.sequence.afterPrintable c, false⟩, false)
  else (⟨u.sequence.afterOther c, false⟩, false)

end Unfinished

def keptAfter (u : Unfinished) : Text -> Text
  | [] => []
  | c :: rest =>
      let next := u.step c
      if next.2 then c :: keptAfter next.1 rest else keptAfter next.1 rest

/-- The text without control characters and sequences. -/
def forTerminal (t : Text) : Text :=
  keptAfter .nothing t

def firstLine : Text -> Text
  | [] => []
  | '\n' :: _ => []
  | '\r' :: '\n' :: _ => []
  | c :: rest => c :: firstLine rest

end Text

end PocketCalculator
