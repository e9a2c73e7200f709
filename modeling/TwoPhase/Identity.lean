/-!
# The identity of the plugin

The id by which builds and the compiler name the plugin, and the published artifacts that
belong to it: the plugin itself and the library that generated code needs when it runs.
-/

namespace TwoPhase

/-- Under which names a plugin is published. -/
structure Identity where
  id : String
  group : String
  artifact : String
  /-- The library that is needed at run time. -/
  runtimeArtifact : String
  /-- The version of both artifacts. -/
  version : String
deriving DecidableEq, Repr

/-- The identity of the shipped plugin. -/
def Identity.shipped : Identity :=
  ⟨"org.demo.synth", "org.demo", "synth-plugin", "synth-runtime", "0.2.0"⟩

end TwoPhase
