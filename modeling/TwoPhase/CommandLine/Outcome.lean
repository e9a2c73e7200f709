/-!
# Outcomes of a command

What a command leaves behind: its exit code, what it printed, the warnings it gave and, if it
failed, a report. A report names what could not be done and possibly why; the reason is
indented under a heading of its own, line by line.
-/

namespace TwoPhase.CommandLine

/-- Why a command failed. -/
structure Report where
  /-- What could not be done. -/
  failure : String
  /-- Why. -/
  cause : Option String
deriving DecidableEq, Repr

namespace Report

/-- Puts blanks at the start of every line. -/
def indent (s : String) : String :=
  String.ofList ("    ".toList ++
    s.toList.flatMap fun c => if c = '\n' then "\n    ".toList else [c])

/-- The text of a report. -/
def text (r : Report) : String :=
  match r.cause with
  | none => s!"Error: {r.failure}\n"
  | some cause => s!"Error: {r.failure}\n\nCaused by:\n{indent cause}\n"

end Report

/-- What a command leaves behind. -/
structure Outcome where
  exitCode : Nat
  stdout : String
  warnings : List String
  report : Option Report
deriving DecidableEq, Repr

namespace Outcome

/-- A command that printed something and did not fail. -/
def printed (stdout : String) : Outcome := ⟨0, stdout, [], none⟩

/-- The exit code for a command line that was refused. -/
def usageExitCode : Nat := 2

/-- A command line that was refused. -/
def misused : Outcome := ⟨usageExitCode, "", [], none⟩

/-- The text of the report, if there is one. -/
def errorText (o : Outcome) : String :=
  match o.report with
  | some report => report.text
  | none => ""

end Outcome
end TwoPhase.CommandLine
