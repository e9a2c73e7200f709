import TwoPhase.Text.Cut
import TwoPhase.Order.Map

/-!
# Configuration

The settings of one compilation: the name of the module, the options given to each plugin in the
order in which they were given, and the values that plugins stored while they read their options.
Options are kept under the id of the plugin that they are addressed to, values under their key; a
list is made when the first option or value comes.

An option is written `plugin:<id>:<key>=<value>`. The value is everything behind the first
`=`, and the key everything between that and the last `:` before it; so the id may hold colons
and the value anything.
-/

namespace TwoPhase

/-- Why options are refused. -/
inductive ConfigError where
  /-- The plugin does not take the option. -/
  | unexpectedOption (plugin name : String)
  /-- The argument is not of the form of an option. -/
  | malformedOption (raw : String)
  /-- An option that the plugin needs was not given. -/
  | missingRequiredOption (plugin name : String)
deriving DecidableEq, Repr

/-- The error in words. -/
def ConfigError.message : ConfigError → String
  | unexpectedOption plugin name => s!"Unsupported option '{name}' for plugin '{plugin}'"
  | malformedOption raw =>
      s!"Malformed plugin option '{raw}': expected plugin:<id>:<key>=<value>"
  | missingRequiredOption plugin name =>
      s!"Required option '{name}' for plugin '{plugin}' is missing"

/-- One option addressed to a plugin. -/
structure PluginArgument where
  plugin : String
  name : String
  value : String
deriving DecidableEq, Repr

namespace PluginArgument

/-- Splits an argument into id, key and value; id and key must not be empty. -/
def split? (raw : List Char) : Option (List Char × List Char × List Char) := do
  let rest ← "plugin:".toList.isPrefixOf? raw
  let (head, value) ← Text.cutFirst '=' rest
  let (plugin, name) ← Text.cutLast ':' head
  if plugin.isEmpty || name.isEmpty then none else some (plugin, name, value)

/-- Reads an argument. -/
def parse (raw : String) : Except ConfigError PluginArgument :=
  match split? raw.toList with
  | some (plugin, name, value) =>
      .ok ⟨String.ofList plugin, String.ofList name, String.ofList value⟩
  | none => .error (.malformedOption raw)

end PluginArgument

/-- The settings of one compilation. -/
structure Configuration where
  /-- The name of the module. -/
  module : String
  /-- Names and values of the options under the plugin that they are addressed to, in order. -/
  pluginOptions : Order.Map String (List (String × String))
  /-- The values stored under each key, in order. -/
  values : Order.Map String (List String)
deriving DecidableEq, Repr

namespace Configuration

/-- The settings without options and values. -/
def start (module : String) : Configuration := ⟨module, .empty, .empty⟩

/-- Adds an option. -/
def addArgument (c : Configuration) (argument : PluginArgument) : Configuration :=
  { c with
    pluginOptions := c.pluginOptions.push argument.plugin (argument.name, argument.value) }

/-- Names and values of the options addressed to a plugin, in order. -/
def options (c : Configuration) (plugin : String) : List (String × String) :=
  c.pluginOptions.listed plugin

/-- The plugins that options are addressed to, each once.  Their order does not matter. -/
def pluginsWithOptions (c : Configuration) : List String := c.pluginOptions.keys

/-- Stores a value under a key, behind those stored there before. -/
def put (c : Configuration) (key value : String) : Configuration :=
  { c with values := c.values.push key value }

/-- The values stored under a key, in order. -/
def get (c : Configuration) (key : String) : List String := c.values.listed key

theorem options_put (c : Configuration) (key value plugin : String) :
    (c.put key value).options plugin = c.options plugin := rfl

/-- An option is seen by the plugin it is addressed to, and by no other. -/
theorem options_addArgument (c : Configuration) (argument : PluginArgument) (plugin : String) :
    (c.addArgument argument).options plugin =
      if argument.plugin = plugin then c.options plugin ++ [(argument.name, argument.value)]
      else c.options plugin :=
  Order.Map.listed_push _ _ _ plugin

theorem get_addArgument (c : Configuration) (argument : PluginArgument) (key : String) :
    (c.addArgument argument).get key = c.get key := rfl

/-- A value that was stored is found under its key, and under no other. -/
theorem get_put (c : Configuration) (key value wanted : String) : (c.put key value).get wanted =
    if key = wanted then c.get wanted ++ [value] else c.get wanted :=
  Order.Map.listed_push _ _ _ wanted

end Configuration
end TwoPhase
