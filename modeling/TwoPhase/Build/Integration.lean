import TwoPhase.Build.Compilation
import TwoPhase.Identity

/-!
# The build integration of the plugin

What a build does to use the plugin: it adds the run-time library to the dependencies
and asks for the plugin. It applies to every compilation and passes no options on.
-/

namespace TwoPhase.Build

/-- The artifact that holds the plugin. -/
def pluginArtifact (identity : Identity) : Coordinates :=
  ⟨identity.group, identity.artifact, identity.version⟩

/-- The artifact that holds the run-time library. -/
def runtimeArtifact (identity : Identity) : Coordinates :=
  ⟨identity.group, identity.runtimeArtifact, identity.version⟩

/-- An option for the plugin. -/
structure PluginOption where
  key : String
  value : String
deriving DecidableEq, Repr

/-- Whether the plugin is meant for a compilation: it is for every one. -/
def isApplicable (_ : Compilation) : Bool := true

/-- Prepares a compilation for the plugin; answers the options to pass on. -/
def apply (identity : Identity) (c : Compilation) : List PluginOption × Compilation :=
  let (_, c) := c.addDependency ⟨runtimeArtifact identity, .implementation⟩
  ([], c.requestPlugin identity.id)

end TwoPhase.Build
