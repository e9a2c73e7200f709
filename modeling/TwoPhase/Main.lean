import TwoPhase.CommandLine.Run

/-!
# The program

Runs the command line that it was started with. Results go to the standard output, warnings
and reports to the standard error.
-/

open TwoPhase.CommandLine

/-- Prints the outcome of the command line and ends with its exit code. -/
def main (arguments : List String) : IO UInt32 := do
  let outcome := run arguments
  IO.print outcome.stdout
  for warning in outcome.warnings do
    IO.eprintln s!"WARN {warning}"
  IO.eprint outcome.errorText
  if outcome.exitCode = Outcome.usageExitCode then IO.eprint usage
  return outcome.exitCode.toUInt32
