import TwoPhase.Configuration

/-!
# What a configuration holds

A configuration keeps options and values in two maps of lists, and each addition goes into one list
of one map.  What is read from it is told here by the history of the additions: a plugin has the
options that are addressed to it and a key the values that were stored under it, each in the order
in which they came, whatever came in between.

## Main results

* `options_perform`, `get_perform` — what one addition does to every reading.
* `options_after`, `get_after` — what a run of additions has filled in.
* `options_given` — the options of a plugin, where nothing but options was added.
-/

namespace TwoPhase.Configuration

/-- A change of a configuration. -/
inductive Operation where
  | addArgument (argument : PluginArgument)
  | put (key value : String)
deriving DecidableEq, Repr

namespace Operation

/-- The argument that is added, if it is addressed to the plugin. -/
def argumentFor? (plugin : String) : Operation → Option PluginArgument
  | addArgument argument => if argument.plugin = plugin then some argument else none
  | put _ _ => none

/-- The value that is stored, if it is stored under the key. -/
def valueFor? (wanted : String) : Operation → Option String
  | addArgument _ => none
  | put key value => if key = wanted then some value else none

end Operation

/-- The arguments addressed to a plugin, in order. -/
def argumentsFor (plugin : String) (ops : List Operation) : List PluginArgument :=
  ops.filterMap (·.argumentFor? plugin)

/-- The values stored under a key, in order. -/
def valuesFor (key : String) (ops : List Operation) : List String :=
  ops.filterMap (·.valueFor? key)

/-- Makes a change. -/
def perform (c : Configuration) : Operation → Configuration
  | .addArgument argument => c.addArgument argument
  | .put key value => c.put key value

/-- The configuration after changes, one after the other. -/
def after (c : Configuration) (ops : List Operation) : Configuration := ops.foldl perform c

variable {plugin key : String}

theorem options_perform (c : Configuration) (op : Operation) : (c.perform op).options plugin =
    c.options plugin ++ (op.argumentFor? plugin).toList.map fun a => (a.name, a.value) := by
  cases op with
  | put key value => simp [perform, options_put, Operation.argumentFor?]
  | addArgument argument =>
      rw [perform, options_addArgument, Operation.argumentFor?]
      split <;> simp

theorem get_perform (c : Configuration) (op : Operation) :
    (c.perform op).get key = c.get key ++ (op.valueFor? key).toList := by
  cases op with
  | addArgument argument => simp [perform, get_addArgument, Operation.valueFor?]
  | put stored value =>
      rw [perform, get_put, Operation.valueFor?]
      split <;> simp

/-- **A plugin has the options that are addressed to it**, besides those it has already. -/
theorem options_after (c : Configuration) (ops : List Operation) : (c.after ops).options plugin =
    c.options plugin ++ (argumentsFor plugin ops).map fun a => (a.name, a.value) := by
  induction ops generalizing c with
  | nil => simp [after, argumentsFor]
  | cons op ops ih =>
      have hStep :
          (c.after (op :: ops)).options plugin = ((c.perform op).after ops).options plugin := rfl
      rw [hStep, ih, options_perform, argumentsFor, argumentsFor, List.filterMap_cons]
      cases op.argumentFor? plugin <;> simp

/-- **A key has the values that are stored under it**, besides those it has already. -/
theorem get_after (c : Configuration) (ops : List Operation) :
    (c.after ops).get key = c.get key ++ valuesFor key ops := by
  induction ops generalizing c with
  | nil => simp [after, valuesFor]
  | cons op ops ih =>
      have hStep : (c.after (op :: ops)).get key = ((c.perform op).after ops).get key := rfl
      rw [hStep, ih, get_perform, valuesFor, valuesFor, List.filterMap_cons]
      cases op.valueFor? key <;> simp

/-- The settings with the given options. -/
def given (module : String) (arguments : List PluginArgument) : Configuration :=
  arguments.foldl addArgument (start module)

theorem module_given (module : String) (arguments : List PluginArgument) :
    (given module arguments).module = module := by
  have hKept : ∀ (rest : List PluginArgument) (c : Configuration),
      (rest.foldl addArgument c).module = c.module := by
    intro rest
    induction rest with
    | nil => exact fun _ => rfl
    | cons argument rest ih => exact fun c => ih (c.addArgument argument)
  exact hKept arguments (start module)

theorem options_given (module : String) (arguments : List PluginArgument) (plugin : String) :
    (given module arguments).options plugin =
      (arguments.filter (·.plugin == plugin)).map fun a => (a.name, a.value) := by
  have hAfter : given module arguments =
      (start module).after (arguments.map .addArgument) := by
    rw [after, List.foldl_map]
    rfl
  have hFor : argumentsFor plugin (arguments.map .addArgument) =
      arguments.filter (·.plugin == plugin) := by
    have hOne : (Operation.argumentFor? plugin ∘ .addArgument) =
        Option.guard (·.plugin == plugin) := by
      funext argument
      simp [Operation.argumentFor?, Option.guard]
    rw [argumentsFor, List.filterMap_map]
    exact hOne ▸ congrFun List.filterMap_eq_filter arguments
  rw [hAfter, options_after, hFor]
  rfl

end TwoPhase.Configuration
