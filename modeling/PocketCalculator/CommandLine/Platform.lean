import PocketCalculator.Event

/-!
# Platforms

## What the program relies on

Reading the arguments and the written filters, writing the log lines and showing
the window are not the program's own work.  They are a parameter of it.
-/

namespace PocketCalculator

namespace CommandLine

structure Options where
  /-- The expression to evaluate instead of opening a window. -/
  expression : Option Text
  isVerbose : Bool
deriving DecidableEq

structure Run where
  exitCode : Nat
  outputLines : List Text
  /-- The first line of the error output, if there is one. -/
  errorLine : Option Text
deriving DecidableEq

structure Platform where
  /-- The options that the arguments give, or the run that ends while they are read. -/
  options : List Text -> Except Run Options
  /-- The events that a written filter shows; all of it must be readable. -/
  filter? : Text -> Option (Event -> Bool)
  /-- The events that a written filter shows without the parts that cannot be read. -/
  filter : Text -> Event -> Bool
  line : Event -> Text
  /-- What is reported while the window is open. -/
  windowEvents : List Event
  /-- The error that closes the window, if it is not closed by the user. -/
  windowError : Option Text

end CommandLine

end PocketCalculator
