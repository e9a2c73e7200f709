import TwoPhase.Plugin.EntryPoint
import TwoPhase.Plugin.Manifest

/-!
# The plugin loader

Manifests say which entry points are wanted; the loader looks them up among those that are
supplied, and holds what it found. Attaching a plugin takes its options and then installs its
extensions, the processor and the registrar being the first that have the plugin's id.

Attaching installs all of the plugin's extensions or none: if it fails at any step, the
extensions are those from before.
-/

namespace TwoPhase

/-- The entry points that are supplied, by the names that manifests use. -/
structure EntryPoints where
  registrars : List (String × Registrar)
  processors : List (String × OptionProcessor)

/-- The service whose manifest lists registrars. -/
def registrarService : String := "synth_host.CompilerPluginRegistrar"

/-- The service whose manifest lists option processors. -/
def processorService : String := "synth_host.CommandLineProcessor"

/-- The entry points that were found. -/
structure Loader where
  registrars : List Registrar
  processors : List OptionProcessor

/-- What plugins are attached to: the configuration, the extensions installed so far and the
supply of keys. -/
structure Setup where
  config : Configuration
  extensions : Extensions
  keys : KeySupply

/-- The set-up before any plugin is attached. -/
def Setup.start (config : Configuration) : Setup := ⟨config, .none, .initial⟩

namespace Loader

/-- The loader that found nothing. -/
def empty : Loader := ⟨[], []⟩

/-- Adds a registrar behind the others. -/
def addRegistrar (loader : Loader) (registrar : Registrar) : Loader :=
  { loader with registrars := loader.registrars ++ [registrar] }

/-- Adds an option processor behind the others. -/
def addProcessor (loader : Loader) (processor : OptionProcessor) : Loader :=
  { loader with processors := loader.processors ++ [processor] }

/-- Adds the entry point that one entry of a manifest names. Entries for other services are
passed over. -/
def addEntry (points : EntryPoints) (service : String) (loader : Loader) (name : String) :
    Except LoadError Loader :=
  if service = registrarService then
    match points.registrars.lookup name with
    | some registrar => .ok (loader.addRegistrar registrar)
    | none => .error (.unknownEntryPoint service name)
  else if service = processorService then
    match points.processors.lookup name with
    | some processor => .ok (loader.addProcessor processor)
    | none => .error (.unknownEntryPoint service name)
  else .ok loader

/-- Finds the entry points that manifests name, in order. -/
def ofManifests (points : EntryPoints) (manifests : List Manifest) : Except LoadError Loader :=
  manifests.foldlM
    (fun loader manifest => manifest.entries.foldlM (addEntry points manifest.service) loader) empty

/-- The ids of the plugins whose option processors were found. -/
def pluginIds (loader : Loader) : List String := loader.processors.map (·.pluginId)

/-- The first option processor with the given id. -/
def processor? (loader : Loader) (id : String) : Option OptionProcessor :=
  loader.processors.find? (·.pluginId == id)

/-- The first registrar with the given id. -/
def registrar? (loader : Loader) (id : String) : Option Registrar :=
  loader.registrars.find? (·.pluginId == id)

/-- Lets a registrar install its extensions. If that turns out to be providers of one kind only,
they are taken out again. -/
def install (id : String) (registrar : Registrar) (setup : Setup) :
    Except LoadError Unit × Setup :=
  let before := setup.extensions.counts
  let (extensions, keys) := registrar.register setup.config setup.extensions setup.keys
  let after := extensions.counts
  let declarations := after.1 - before.1
  let bodies := after.2 - before.2
  if (declarations == 0) != (bodies == 0) then
    (.error (.incompleteRegistration id declarations bodies),
      { setup with keys, extensions := extensions.truncate before })
  else (.ok (), { setup with keys, extensions })

/-- Attaches the plugin with the given id. -/
def attach (loader : Loader) (id : String) (setup : Setup) : Except LoadError Unit × Setup :=
  match loader.processor? id, loader.registrar? id with
  | none, _ => (.error (.pluginNotFound id), setup)
  | some _, none =>
      let advertised := ", ".intercalate (loader.registrars.map (·.pluginId))
      (.error (.identityMismatch id advertised), setup)
  | some processor, some registrar =>
      match processor.apply setup.config with
      | (.error reason, config) => (.error (.config reason), { setup with config })
      | (.ok (), config) => install id registrar { setup with config }

end Loader
end TwoPhase
