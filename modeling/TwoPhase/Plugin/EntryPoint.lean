import TwoPhase.Configuration
import TwoPhase.Provider.Extensions

/-!
# Entry points of a plugin

A plugin is known to the loader by two things that share its id. The option processor takes the
plugin's options, one by one, and stores what they say in the configuration. The registrar
brings the plugin's extensions and installs them.
-/

namespace TwoPhase

/-- An option that a plugin declares. -/
structure OptionDecl where
  name : String
  /-- What a help text puts in the place of the value. -/
  placeholder : String
  /-- What a help text says about the option. -/
  description : String
  /-- Attaching fails when the option is not given. -/
  required : Bool
  /-- Whether the option may be given more than once. -/
  repeatable : Bool
deriving DecidableEq, Repr

/-- Takes the options addressed to one plugin. -/
structure OptionProcessor where
  pluginId : String
  /-- The declared options. -/
  options : List OptionDecl
  /-- Takes one option, given by name and value. What was stored before a refusal stays. -/
  process : String → String → Configuration → Except ConfigError Unit × Configuration

/-- Brings the extensions of one plugin. It may mint keys for them, and it may look at what is
installed already. -/
structure Registrar where
  pluginId : String
  /-- Installs the plugin's extensions among the others, for a given configuration. -/
  register : Configuration → Extensions → KeySupply → Extensions × KeySupply
  /-- It puts them behind the others and leaves those alone. -/
  appends : ∀ config installed keys,
    ∃ added, (register config installed keys).1 = installed ++ added

namespace OptionProcessor

/-- Whether an option of that name is declared. -/
def declares (p : OptionProcessor) (name : String) : Bool := p.options.any (·.name == name)

/-- Hands options over one after the other. The first that is refused, or taken without being
declared, ends it. -/
def takeAll (p : OptionProcessor) :
    List (String × String) → Configuration → Except ConfigError Unit × Configuration
  | [], config => (.ok (), config)
  | (name, value) :: rest, config =>
      match p.process name value config with
      | (.error e, config) => (.error e, config)
      | (.ok (), config) =>
          if p.declares name then p.takeAll rest config
          else (.error (.unexpectedOption p.pluginId name), config)

/-- The first declared option that is needed and not among those given. -/
def missing? (p : OptionProcessor) (given : List (String × String)) : Option OptionDecl :=
  p.options.find? fun option => option.required && !given.any (·.1 == option.name)

/-- Takes all options addressed to the plugin and checks that none is missing. The options are
those given before the first is taken. -/
def apply (p : OptionProcessor) (config : Configuration) :
    Except ConfigError Unit × Configuration :=
  let given := config.options p.pluginId
  match p.takeAll given config with
  | (.error e, config) => (.error e, config)
  | (.ok (), config) =>
      match p.missing? given with
      | some option => (.error (.missingRequiredOption p.pluginId option.name), config)
      | none => (.ok (), config)

end OptionProcessor
end TwoPhase
