import PocketCalculator.CommandLine.Platform
import PocketCalculator.Text.Terminal

/-!
# Arguments

## From arguments to options

The arguments are read from left to right.  A value for `--eval` may be attached
with an equals sign or follow as the next argument; then it must not look like
an option.  A value that follows is settled only when the next option is
recognised, or at the end of the arguments, so an argument that is not
recognised is reported before a missing value or a repeated option.
-/

namespace PocketCalculator

namespace CommandLine

inductive Information where
  | help
  | version
deriving DecidableEq

inductive Known where
  | eval
  | verbose
  | information (i : Information)
deriving DecidableEq

namespace Known

def ofLong? (name : Text) : Option Known :=
  if name = "eval".toList then some eval
  else if name = "verbeux".toList then some verbose
  else if name = "help".toList then some (information .help)
  else if name = "version".toList then some (information .version)
  else none

def ofShort? : Char -> Option Known
  | 'v' => some verbose
  | 'h' => some (information .help)
  | 'V' => some (information .version)
  | _ => none

def name : Known -> Text
  | eval => "--eval <EXPR>".toList
  | verbose => "--verbeux".toList
  | information .help => "--help".toList
  | information .version => "--version".toList

end Known

inductive UsageError where
  | unexpectedArgument (argument : Text)
  | unexpectedValue (value : Text) (option : Known)
  | missingValue (option : Known)
  | repeated (option : Known)
deriving DecidableEq

namespace UsageError

def message : UsageError -> Text
  | unexpectedArgument argument =>
      "error: unexpected argument '".toList ++ argument.forTerminal ++ "' found".toList
  | unexpectedValue value option =>
      "error: unexpected value '".toList ++ value.forTerminal ++ "' for '".toList ++
        option.name ++ "' found; no more were expected".toList
  | missingValue option =>
      "error: a value is required for '".toList ++ option.name ++
        "' but none was supplied".toList
  | repeated option =>
      "error: the argument '".toList ++ option.name ++
        "' cannot be used multiple times".toList

end UsageError

inductive Stop where
  | information (i : Information)
  | usage (e : UsageError)
deriving DecidableEq

/-- An `--eval` whose value is not yet settled. -/
inductive Awaited where
  | nothing
  | value
  | settling (value : Text)
deriving DecidableEq

structure Reader where
  options : Options
  awaited : Awaited
  /-- Whether `--` has been read, after which no option is recognised. -/
  isTrailing : Bool
deriving DecidableEq

namespace Reader

def start : Reader :=
  ⟨⟨none, false⟩, .nothing, false⟩

def setExpression (r : Reader) (value : Text) : Except Stop Reader :=
  match r.options.expression with
  | some _ => .error (.usage (.repeated .eval))
  | none => .ok { r with options := { r.options with expression := some value } }

def settle (r : Reader) : Except Stop Reader :=
  match r.awaited with
  | .nothing => .ok r
  | .value => .error (.usage (.missingValue .eval))
  | .settling value => setExpression { r with awaited := .nothing } value

def takeKnown (r : Reader) (option : Known) : Except Stop Reader := do
  let r <- r.settle
  match option with
  | .eval => .ok { r with awaited := .value }
  | .verbose =>
      if r.options.isVerbose then .error (.usage (.repeated .verbose))
      else .ok { r with options := { r.options with isVerbose := true } }
  | .information i => .error (.information i)

def takeAttached (r : Reader) (option : Known) (value : Text) : Except Stop Reader :=
  match option with
  | .eval => r.settle >>= fun r => r.setExpression value
  | _ => .error (.usage (.unexpectedValue value option))

def takeLong (r : Reader) (body : Text) : Except Stop Reader :=
  let name := body.takeWhile (· != '=')
  match Known.ofLong? name with
  | none => .error (.usage (.unexpectedArgument ('-' :: '-' :: name)))
  | some option =>
      match body.dropWhile (· != '=') with
      | [] => r.takeKnown option
      | _ :: value => r.takeAttached option value

def takeShort (r : Reader) (letters : Text) : Except Stop Reader :=
  letters.foldlM (fun r letter =>
    match Known.ofShort? letter with
    | none => .error (.usage (.unexpectedArgument ['-', letter]))
    | some option => r.takeKnown option) r

def takePlain (r : Reader) (argument : Text) : Except Stop Reader :=
  match r.awaited, r.isTrailing with
  | .value, false => .ok { r with awaited := .settling argument }
  | _, _ => .error (.usage (.unexpectedArgument argument))

def step (r : Reader) (argument : Text) : Except Stop Reader :=
  if r.isTrailing then r.takePlain argument
  else
    match argument with
    | ['-', '-'] => .ok { r with isTrailing := true }
    | '-' :: '-' :: body => r.takeLong body
    | ['-'] => r.takePlain argument
    | '-' :: letters => r.takeShort letters
    | _ => r.takePlain argument

end Reader

namespace Options

/-- The options that the arguments give. -/
def ofArguments (arguments : List Text) : Except Stop Options := do
  let r <- arguments.foldlM Reader.step Reader.start
  let r <- r.settle
  .ok r.options

end Options

end CommandLine

end PocketCalculator
