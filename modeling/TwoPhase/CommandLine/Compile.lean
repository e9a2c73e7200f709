import TwoPhase.CommandLine.Arguments
import TwoPhase.CommandLine.Outcome
import TwoPhase.Build.Integration
import TwoPhase.Greeter.Registration
import TwoPhase.Ir.Dump
import TwoPhase.Machine.Run

/-!
# The command `compile`

Attaches the shipped plugin and those asked for, resolves and lowers everything they declare,
and then prints the module or calls a method if that was asked for. What was printed before a
failure stays printed.
-/

namespace TwoPhase.CommandLine

/-- Adds a reason to what could not be done. -/
def because {ε α : Type} (failure : String) (message : ε → String) :
    Except ε α → Except Report α
  | .ok a => .ok a
  | .error e => .error ⟨failure, some (message e)⟩

/-- What the build asks for: the shipped plugin first, then the plugins of the options. -/
def requested (options : CompileOptions) : List Build.PluginOption × Build.Compilation :=
  let (passed, compilation) := Build.apply Identity.shipped (.start options.module)
  (passed, options.plugins.foldl Build.Compilation.requestPlugin compilation)

/-- The configuration of a compilation. The first option that cannot be read is an error. -/
def configure (options : CompileOptions) (passed : List Build.PluginOption) :
    Except Report Configuration := do
  let start := passed.foldl
    (fun config option => config.addArgument ⟨Identity.shipped.id, option.key, option.value⟩)
    (Configuration.start options.module)
  options.pluginOptions.foldlM
    (fun config raw =>
      match PluginArgument.parse raw with
      | .ok argument => .ok (config.addArgument argument)
      | .error e => .error ⟨e.message, none⟩)
    start

/-- Finds the entry points that the shipped manifests name. -/
def discover : Except Report Loader := do
  let manifests ← because "Failed to read plugin manifests" LoadError.message Greeter.manifests
  because "Failed to discover plugins" LoadError.message
    (Loader.ofManifests Greeter.entryPoints manifests)

/-- Attaches plugins in order, up to the first failure. -/
def attachAll (loader : Loader) : List String → Setup → Except Report Setup
  | [], setup => .ok setup
  | id :: rest, setup =>
      match loader.attach id setup with
      | (.ok (), setup) => attachAll loader rest setup
      | (.error e, _) =>
          let available := ", ".intercalate loader.pluginIds
          .error ⟨s!"Failed to attach plugin '{id}' (available: {available})", some e.message⟩

/-- The warning about options for a plugin that was not attached. -/
def strayWarning (plugin : String) : String :=
  s!"Ignoring options for a plugin that is not attached plugin={Text.quote plugin}"

/-- The warnings about options for plugins that were not attached, in the order of their texts. -/
def strayOptions (config : Configuration) (attached : List String) : List String :=
  Order.sortDistinct
    ((config.pluginsWithOptions.filter (!attached.contains ·)).map strayWarning)

/-- Resolves and lowers everything that the attached plugins declare. -/
def compileSetup (setup : Setup) : Except Report Program := do
  match (Resolver.start setup.config.module setup.extensions).resolveAll Resolver.patience with
  | none => .error ⟨"Declaration resolution failed", none⟩
  | some (.error e, _) => .error ⟨"Declaration resolution failed", some e.message⟩
  | some (.ok (), resolver) => because "Lowering failed" CompileError.message resolver.lower

/-- Refuses a call target. -/
def badTarget (target : String) : Report := ⟨s!"Expected CLASS.METHOD, got '{target}'", none⟩

/-- Takes a call target apart: what precedes the last dot is the class. -/
def splitTarget (target : String) : Except Report (ClassId × Name) :=
  match Text.cutLast '.' target.toList with
  | none => .error (badTarget target)
  | some (path, method) =>
      match ClassId.parse? (String.ofList path) with
      | none => .error (badTarget target)
      | some id => .ok (id, ⟨String.ofList method⟩)

/-- Constructs the class of a call target and calls the method on the object. -/
def callTarget (program : Program) (target : String) : Except Report Value := do
  let (id, method) ← splitTarget target
  match program.construct Program.ampleFuel id .start with
  | none => .error ⟨s!"Failed to construct '{id.text}'", none⟩
  | some (.error e, _) => .error ⟨s!"Failed to construct '{id.text}'", some e.message⟩
  | some (.ok ref, machine) =>
      match program.call Program.ampleFuel ref method [] machine with
      | none => .error ⟨s!"Failed to call '{target}'", none⟩
      | some (.error e, _) => .error ⟨s!"Failed to call '{target}'", some e.message⟩
      | some (.ok value, _) => .ok value

/-- Prints and calls what was asked for. -/
def present (options : CompileOptions) (program : Program) (warnings : List String) : Outcome :=
  let dump := if options.emitIr then program.module.dump else ""
  match options.call with
  | none => ⟨0, dump, warnings, none⟩
  | some target =>
      match callTarget program target with
      | .error report => ⟨1, dump, warnings, some report⟩
      | .ok value => ⟨0, dump ++ value.text ++ "\n", warnings, none⟩

/-- Attaches all plugins of a compilation. -/
def prepare (options : CompileOptions) : Except Report (Setup × List String) := do
  let (passed, compilation) := requested options
  let config ← configure options passed
  let loader ← discover
  let setup ← attachAll loader compilation.requestedPlugins (.start config)
  return (setup, compilation.requestedPlugins)

/-- Runs the command. -/
def compile (options : CompileOptions) : Outcome :=
  match prepare options with
  | .error report => ⟨1, "", [], some report⟩
  | .ok (setup, attached) =>
      let warnings := strayOptions setup.config attached
      match compileSetup setup with
      | .error report => ⟨1, "", warnings, some report⟩
      | .ok program => present options program warnings

end TwoPhase.CommandLine
