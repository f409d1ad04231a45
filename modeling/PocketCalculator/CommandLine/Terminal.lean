import PocketCalculator.CommandLine.Arguments
import PocketCalculator.CommandLine.Filter

/-!
# The terminal

## A platform without a screen

A terminal reads the arguments and the filters, and writes an event on one line.
It has no screen to open a window on.
-/

namespace PocketCalculator

namespace Event

def levelName : Level -> Text
  | .error => "ERROR".toList
  | .warn => "WARN".toList
  | .info => "INFO".toList
  | .debug => "DEBUG".toList
  | .trace => "TRACE".toList

def Field.text (f : Field) : Text :=
  f.name ++ '=' :: if f.isQuoted then f.value.quoted else f.value

def line (e : Event) : Text :=
  Text.join [' '] (levelName e.level :: e.message :: e.fields.map Field.text)

end Event

namespace CommandLine

def helpLines : List Text :=
  ["Calculatrice arithmétique (+ - * /)".toList,
   [],
   "Usage: calculatrice_web [OPTIONS]".toList,
   [],
   "Options:".toList,
   ("      --eval <EXPR>  Évalue une expression, affiche le résultat et quitte " ++
     "(pas de fenêtre)").toList,
   "  -v, --verbeux      Journal détaillé (debug). RUST_LOG reste prioritaire".toList,
   "  -h, --help         Print help".toList,
   "  -V, --version      Print version".toList]

def versionLine : Text :=
  "calculatrice 0.1.0".toList

def informationLines : Information -> List Text
  | .help => helpLines
  | .version => [versionLine]

def Stop.run : Stop -> Run
  | .information i => ⟨0, informationLines i, none⟩
  | .usage e => ⟨2, [], some e.message.firstLine⟩

def Platform.terminal : Platform where
  options arguments := (Options.ofArguments arguments).mapError Stop.run
  filter? t := (Filter.ofText? t).map Filter.shows
  filter t := (Filter.ofText t).shows
  line := Event.line
  windowEvents := []
  windowError := some "WinitEventLoop".toList

end CommandLine

end PocketCalculator
