import PocketCalculator.CommandLine.Program
import PocketCalculator.CommandLine.Terminal

/-!
# The command line

Passes the arguments and the written filter to the program and prints what it
gives.
-/

open PocketCalculator

def main (arguments : List String) : IO UInt32 := do
  let asked <- IO.getEnv "RUST_LOG"
  let run := CommandLine.run .terminal (arguments.map String.toList)
    (asked.map String.toList)
  let stdout <- IO.getStdout
  let stderr <- IO.getStderr
  for line in run.outputLines do
    stdout.putStrLn (String.ofList line)
  if let some line := run.errorLine then
    stderr.putStrLn (String.ofList line)
  return UInt32.ofNat run.exitCode
