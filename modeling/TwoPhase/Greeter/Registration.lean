import TwoPhase.Greeter.Declarations
import TwoPhase.Greeter.Bodies
import TwoPhase.Plugin.Loader
import TwoPhase.Identity

/-!
# The greeter as a plugin

Both halves are made around one fresh key, so each pair recognises its own declarations and no
other pair's. The plugin has no options and refuses every one.
-/

namespace TwoPhase.Greeter

/-- The label of the greeter's keys. -/
def keyLabel : String := "SimpleClassGenerator"

/-- The two halves around one key. -/
def pair (key : Key) : Extensions := ⟨[declarations key], [bodies key]⟩

/-- The registrar of the plugin. -/
def registrar : Registrar where
  pluginId := Identity.shipped.id
  register _ installed supply :=
    let (key, supply) := supply.mint keyLabel
    (installed ++ pair key, supply)
  appends _ _ _ := ⟨_, rfl⟩

/-- The option processor of the plugin. -/
def optionProcessor : OptionProcessor where
  pluginId := Identity.shipped.id
  options := []
  process name _ config := (.error (.unexpectedOption Identity.shipped.id name), config)

/-- The entry points of the plugin, by the names in its manifests. -/
def entryPoints : EntryPoints where
  registrars := [("synth_plugin::registrar::SimplePluginRegistrar", registrar)]
  processors := [("synth_plugin::options::SimpleCommandLineProcessor", optionProcessor)]

/-- The manifest of the plugin's registrar. -/
def registrarManifest : String :=
  "# Compiler plugin registrars provided by this crate\n" ++
    "synth_plugin::registrar::SimplePluginRegistrar\n"

/-- The manifest of the plugin's option processor. -/
def processorManifest : String :=
  "# Command-line processors provided by this crate\n" ++
    "synth_plugin::options::SimpleCommandLineProcessor\n"

/-- The manifests that the plugin ships. -/
def manifests : Except LoadError (List Manifest) := do
  let registrars ← Manifest.parse registrarService registrarManifest
  let processors ← Manifest.parse processorService processorManifest
  return [registrars, processors]

end TwoPhase.Greeter
