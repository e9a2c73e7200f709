import TwoPhase.CommandLine.Compile
import TwoPhase.Text.Json

/-!
# Running a command line

Every command line has an outcome. One that is refused leaves nothing but its exit code.
-/

namespace TwoPhase.CommandLine

/-- The name of the program. -/
def programName : String := "synthc"

/-- The forms of a command line. -/
def usage : String :=
  "Usage: synthc [-v]... compile [-m NAME] [--plugin ID]... [-P ARG]... [--emit-ir] " ++
    "[--call TARGET]\n" ++
  "       synthc [-v]... identity [--json]\n" ++
  "       synthc --version\n"

/-- Coordinates as a document. -/
def coordinatesDocument (c : Build.Coordinates) : Text.Json :=
  .object [("artifact", .text c.artifact), ("group", .text c.group), ("version", .text c.version)]

/-- The identity and its artifacts as a document. -/
def identityDocument (identity : Identity) : Text.Json :=
  .object
    [("identity", .object
        [("artifact", .text identity.artifact), ("group", .text identity.group),
          ("id", .text identity.id), ("runtime_artifact", .text identity.runtimeArtifact),
          ("version", .text identity.version)]),
      ("plugin_artifact", coordinatesDocument (Build.pluginArtifact identity)),
      ("runtime_artifact", coordinatesDocument (Build.runtimeArtifact identity))]

/-- The identity and its artifacts as lines. -/
def identityLines (identity : Identity) : String :=
  s!"id:       {identity.id}\n" ++
  s!"plugin:   {(Build.pluginArtifact identity).text}\n" ++
  s!"runtime:  {(Build.runtimeArtifact identity).text}\n"

/-- Runs the command `identity`. -/
def identity (json : Bool) : Outcome :=
  if json then .printed ((identityDocument .shipped).render 0 ++ "\n")
  else .printed (identityLines .shipped)

/-- The outcome of a command line. -/
def run (arguments : List String) : Outcome :=
  match parse arguments with
  | none => .misused
  | some .version => .printed s!"{programName} {Identity.shipped.version}\n"
  | some .help => .printed usage
  | some (.compile options) => compile options
  | some (.identity json) => identity json

end TwoPhase.CommandLine
