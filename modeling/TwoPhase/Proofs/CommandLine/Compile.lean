import TwoPhase.Proofs.CommandLine.Target
import TwoPhase.Proofs.Plugin.Attachment
import TwoPhase.Proofs.Plugin.Configuration

/-!
# The outcome of `compile`

The command reads its options, attaches plugins, resolves, lowers, and then prints and calls.  With
the shipped plugin, everything that can fail does so before the resolution or in the call: the first
option that cannot be read, the first one for the shipped plugin, the first plugin that is not the
shipped one, in this order.  The module that is resolved and lowered has nothing to do with the
options but its name.

## Strategy

`Refusal` and `Accepted` are two halves of all options, told apart by the first of several things
and not by how the command goes about it.  Each step of the command is followed once for a refusal
and once for acceptance.  What is attached is one greeter and no more, whatever was asked for, so
its program is known up to the name of the module.  `Ending` lists the outcomes of all options.

## Main results

* `prepare_of_refusal`, `prepare_of_accepted` — what is attached.
* `compile_classified` — the outcome of every command line.
-/

namespace TwoPhase.CommandLine

open List (Forall₂)
open Greeter (Alone)

variable {options : CompileOptions} {arguments : List PluginArgument} {argument : PluginArgument}
  {raw id : String} {raws : List String} {config : Configuration} {report : Report}

/-! ## Reading the options -/

/-- An option can be read. -/
def readable (raw : String) : Bool := (PluginArgument.parse raw).isOk

/-- Options and what they say. -/
def Reads (raws : List String) (arguments : List PluginArgument) : Prop :=
  Forall₂ (fun raw argument => PluginArgument.parse raw = .ok argument) raws arguments

theorem readable_iff :
    readable raw = true ↔ ∃ argument, PluginArgument.parse raw = .ok argument := by
  unfold readable
  cases PluginArgument.parse raw with
  | error e => simp [Except.isOk, Except.toBool]
  | ok argument => simp [Except.isOk, Except.toBool]

theorem parse_eq_error (h : readable raw = false) :
    PluginArgument.parse raw = .error (.malformedOption raw) := by
  unfold readable PluginArgument.parse at h
  unfold PluginArgument.parse
  split at h
  · cases h
  · rfl

/-- Takes one option. -/
def takeOption (config : Configuration) (raw : String) : Except Report Configuration :=
  match PluginArgument.parse raw with
  | .ok argument => .ok (config.addArgument argument)
  | .error e => .error ⟨e.message, none⟩

theorem takeOption_of_parse (h : PluginArgument.parse raw = .ok argument) :
    takeOption config raw = .ok (config.addArgument argument) := by
  rw [takeOption, h]

/-- Options that can be read are added to the configuration. -/
theorem takeOptions_of_reads (h : Reads raws arguments) (config : Configuration) :
    raws.foldlM takeOption config = .ok (arguments.foldl Configuration.addArgument config) := by
  induction h generalizing config with
  | nil => rfl
  | @cons raw argument raws arguments hFirst _ ih =>
      rw [List.foldlM_cons, takeOption_of_parse hFirst]
      exact ih (config.addArgument argument)

/-- The first that cannot be read is reported. -/
theorem takeOptions_of_unreadable (hFirst : raws.find? (!readable ·) = some raw)
    (config : Configuration) :
    raws.foldlM takeOption config = .error ⟨(ConfigError.malformedOption raw).message, none⟩ := by
  induction raws generalizing config with
  | nil => cases hFirst
  | cons first rest ih =>
      by_cases hReadable : readable first = true
      · rw [List.find?_cons_of_neg (by simpa using hReadable)] at hFirst
        obtain ⟨argument, hParse⟩ := readable_iff.1 hReadable
        rw [List.foldlM_cons, takeOption_of_parse hParse]
        exact ih hFirst (config.addArgument argument)
      · rw [List.find?_cons_of_pos (by simpa using hReadable)] at hFirst
        cases hFirst
        rw [List.foldlM_cons, takeOption, parse_eq_error (by simpa using hReadable)]
        rfl

/-- Options are read, or one of them cannot be. -/
theorem exists_reads (h : raws.find? (!readable ·) = none) : ∃ arguments, Reads raws arguments := by
  rw [List.find?_eq_none] at h
  refine exists_forall₂_iff.2 fun raw hRaw => readable_iff.1 ?_
  simpa using h raw hRaw

/-! ## Attaching plugins -/

/-- What the shipped manifests name. -/
def shippedLoader : Loader := ⟨[Greeter.registrar], [Greeter.optionProcessor]⟩

theorem discover_eq : discover = .ok shippedLoader := by rfl

/-- The key of the only greeter. -/
def shippedKey : Key := ⟨0, Greeter.keyLabel⟩

/-- What is set up when the shipped plugin is attached. -/
def shippedSetup (config : Configuration) : Setup := ⟨config, Greeter.pair shippedKey, ⟨1⟩⟩

/-- The report about a plugin that cannot be attached, for the given reason. -/
def unattached (id reason : String) : Report :=
  ⟨s!"Failed to attach plugin '{id}' (available: {Identity.shipped.id})", some reason⟩

/-- Without options for it, the shipped plugin is attached. -/
theorem attach_shipped (hNone : config.options Identity.shipped.id = []) :
    shippedLoader.attach Identity.shipped.id (.start config) = (.ok (), shippedSetup config) := by
  have hAccepts : Greeter.optionProcessor.Accepts config config := by
    refine ⟨?_, ?_, nofun⟩
    · show Greeter.optionProcessor.Takes (config.options Identity.shipped.id) config config
      rw [hNone]
      exact .nil config
    · show ∀ given ∈ config.options Identity.shipped.id, _
      rw [hNone]
      exact nofun
  have hAsked : shippedLoader.Asked Identity.shipped.id (.start config) config
      (Greeter.pair shippedKey) ⟨1⟩ :=
    { processor := ⟨Greeter.optionProcessor, ⟨[], [], rfl, rfl, nofun⟩, hAccepts⟩
      registrar := ⟨Greeter.registrar, ⟨[], [], rfl, rfl, nofun⟩, rfl⟩ }
  exact (Loader.attach_of_asked hAsked).1 ⟨nofun, nofun⟩

/-- With options for it, it refuses the first. -/
theorem attach_shipped_refused {name value : String} {rest : List (String × String)}
    (hSome : config.options Identity.shipped.id = (name, value) :: rest) :
    (shippedLoader.attach Identity.shipped.id (.start config)).1 =
      .error (.config (.unexpectedOption Identity.shipped.id name)) := by
  have hGiven : config.options Greeter.optionProcessor.pluginId = (name, value) :: rest := hSome
  have hRefused : Greeter.optionProcessor.apply (Setup.start config).config =
      (.error (.unexpectedOption Identity.shipped.id name), config) := by
    show Greeter.optionProcessor.apply config = _
    rw [OptionProcessor.apply, hGiven]
    rfl
  have hProcessor : shippedLoader.processor? Identity.shipped.id =
    some Greeter.optionProcessor := rfl
  have hRegistrar : shippedLoader.registrar? Identity.shipped.id = some Greeter.registrar := rfl
  rw [Loader.attach, hProcessor, hRegistrar]
  dsimp only
  rw [hRefused]

/-- No other plugin is known. -/
theorem attach_other (hId : id ≠ Identity.shipped.id) (setup : Setup) :
    shippedLoader.attach id setup = (.error (.pluginNotFound id), setup) := by
  have hProcessor : shippedLoader.processor? id = none := by
    refine Loader.processor?_eq_none_iff.2 fun processor hMem => ?_
    rw [List.mem_singleton.1 hMem]
    exact Ne.symm hId
  rw [Loader.attach, hProcessor]

theorem attachAll_of_ok {rest : List String} {setup next : Setup}
    (h : shippedLoader.attach id setup = (.ok (), next)) :
    attachAll shippedLoader (id :: rest) setup = attachAll shippedLoader rest next := by
  rw [attachAll, h]

theorem attachAll_of_error {rest : List String} {setup : Setup} {e : LoadError}
    (h : (shippedLoader.attach id setup).1 = .error e) :
    attachAll shippedLoader (id :: rest) setup = .error (unattached id e.message) := by
  have hPair : shippedLoader.attach id setup = (.error e, (shippedLoader.attach id setup).2) :=
    Prod.ext h rfl
  rw [attachAll, hPair]
  rfl

/-- The plugins that are attached: the shipped one, and behind it all others that are asked for,
each once. -/
def wanted (options : CompileOptions) : List String :=
  Identity.shipped.id :: Order.distinct (options.plugins.filter (· ≠ Identity.shipped.id))

theorem requestedPlugins_eq (options : CompileOptions) :
    (requested options).2.requestedPlugins = wanted options := by
  have hFold : ∀ (ids : List String) (c : Build.Compilation),
      (ids.foldl Build.Compilation.requestPlugin c).requestedPlugins =
        ids.foldl Order.addNew c.requestedPlugins := by
    intro ids
    induction ids with
    | nil => exact fun _ => rfl
    | cons id rest ih => exact fun c => ih (c.requestPlugin id)
  calc (requested options).2.requestedPlugins
    _ = options.plugins.foldl Order.addNew [Identity.shipped.id] := hFold options.plugins _
    _ = Order.distinct (Identity.shipped.id :: options.plugins) := rfl
    _ = wanted options := Order.distinct_cons _ _

/-- A preparation reads the options and then attaches plugins. -/
theorem prepare_eq (options : CompileOptions) : prepare options = (do
    let config ← options.pluginOptions.foldlM takeOption (.start options.module)
    let setup ← attachAll shippedLoader (wanted options) (.start config)
    return (setup, wanted options)) := by
  rw [← requestedPlugins_eq]
  show (do
    let config ← configure options []
    let loader ← discover
    let setup ← attachAll loader (requested options).2.requestedPlugins (.start config)
    return (setup, (requested options).2.requestedPlugins)) = _
  rw [discover_eq]
  rfl

/-! ## Refusal and acceptance -/

/-- Why options are refused before anything is resolved, and in which words. -/
inductive Refusal (options : CompileOptions) : Report → Prop
  /-- The first option that cannot be read. -/
  | malformed {raw : String} (hFirst : options.pluginOptions.find? (!readable ·) = some raw) :
      Refusal options
        ⟨s!"Malformed plugin option '{raw}': expected plugin:<id>:<key>=<value>", none⟩
  /-- All can be read.  The first option for the shipped plugin. -/
  | unexpected {arguments : List PluginArgument} {argument : PluginArgument}
      (hRead : Reads options.pluginOptions arguments)
      (hFirst : arguments.find? (·.plugin == Identity.shipped.id) = some argument) :
      Refusal options (unattached Identity.shipped.id
        s!"Unsupported option '{argument.name}' for plugin '{Identity.shipped.id}'")
  /-- All can be read, and none is for the shipped plugin.  The first plugin asked for that is not
  the shipped one. -/
  | notFound {arguments : List PluginArgument} {id : String}
      (hRead : Reads options.pluginOptions arguments)
      (hForeign : ∀ argument ∈ arguments, argument.plugin ≠ Identity.shipped.id)
      (hFirst : options.plugins.find? (· ≠ Identity.shipped.id) = some id) :
      Refusal options (unattached id
        s!"Plugin '{id}' was requested but no discovered plugin advertises it")

/-- Options with which everything can be attached. -/
structure Accepted (options : CompileOptions) (arguments : List PluginArgument) : Prop where
  read : Reads options.pluginOptions arguments
  foreign : ∀ argument ∈ arguments, argument.plugin ≠ Identity.shipped.id
  shipped : ∀ id ∈ options.plugins, id = Identity.shipped.id

/-- Options are refused or accepted. -/
theorem refusal_or_accepted (options : CompileOptions) :
    (∃ report, Refusal options report) ∨ ∃ arguments, Accepted options arguments := by
  cases hRaw : options.pluginOptions.find? (!readable ·) with
  | some raw => exact .inl ⟨_, .malformed hRaw⟩
  | none =>
      obtain ⟨arguments, hRead⟩ := exists_reads hRaw
      cases hArgument : arguments.find? (·.plugin == Identity.shipped.id) with
      | some argument => exact .inl ⟨_, .unexpected hRead hArgument⟩
      | none =>
          have hForeign : ∀ argument ∈ arguments, argument.plugin ≠ Identity.shipped.id := by
            simpa using hArgument
          cases hId : options.plugins.find? (· ≠ Identity.shipped.id) with
          | some id => exact .inl ⟨_, .notFound hRead hForeign hId⟩
          | none => exact .inr ⟨arguments, hRead, hForeign, by simpa using hId⟩

theorem prepare_of_reads (hRead : Reads options.pluginOptions arguments) :
    prepare options = (do
      let setup ← attachAll shippedLoader (wanted options)
        (.start (.given options.module arguments))
      return (setup, wanted options)) := by
  rw [prepare_eq, takeOptions_of_reads hRead]
  rfl

/-- Without options for the shipped plugin, it is attached and the others are turned to. -/
theorem attachAll_wanted
    (hForeign : ∀ argument ∈ arguments, argument.plugin ≠ Identity.shipped.id) :
    attachAll shippedLoader (wanted options) (.start (.given options.module arguments)) =
      attachAll shippedLoader
        (Order.distinct (options.plugins.filter (· ≠ Identity.shipped.id)))
        (shippedSetup (.given options.module arguments)) := by
  have hNone : (Configuration.given options.module arguments).options Identity.shipped.id = [] := by
    have hFilter : arguments.filter (·.plugin == Identity.shipped.id) = [] := by
      rw [List.filter_eq_nil_iff]
      simpa using hForeign
    rw [Configuration.options_given, hFilter, List.map_nil]
  exact attachAll_of_ok (attach_shipped hNone)

/-- **A refusal ends the preparation.** -/
theorem prepare_of_refusal (h : Refusal options report) : prepare options = .error report := by
  cases h with
  | malformed hFirst =>
      rw [prepare_eq, takeOptions_of_unreadable hFirst]
      rfl
  | @unexpected arguments argument hRead hFirst =>
      rw [← List.head?_filter] at hFirst
      obtain ⟨rest, hFilter⟩ := List.head?_eq_some_iff.1 hFirst
      have hOptions : (Configuration.given options.module arguments).options Identity.shipped.id =
          (argument.name, argument.value) :: rest.map fun other => (other.name, other.value) := by
        rw [Configuration.options_given, hFilter, List.map_cons]
      rw [prepare_of_reads hRead, wanted, attachAll_of_error (attach_shipped_refused hOptions)]
      rfl
  | @notFound arguments id hRead hForeign hFirst =>
      have hId : id ≠ Identity.shipped.id := by simpa using List.find?_some hFirst
      rw [← List.head?_filter] at hFirst
      obtain ⟨rest, hFilter⟩ := List.head?_eq_some_iff.1 hFirst
      have hAttach := attach_other hId (shippedSetup (.given options.module arguments))
      rw [prepare_of_reads hRead, attachAll_wanted hForeign, hFilter, Order.distinct_cons,
        attachAll_of_error (congrArg Prod.fst hAttach)]
      rfl

/-- **Acceptance lets the shipped plugin alone be attached.** -/
theorem prepare_of_accepted (h : Accepted options arguments) :
    prepare options =
      .ok (shippedSetup (.given options.module arguments), [Identity.shipped.id]) := by
  have hNone : options.plugins.filter (· ≠ Identity.shipped.id) = [] := by
    rw [List.filter_eq_nil_iff]
    simpa using h.shipped
  rw [prepare_of_reads h.read, attachAll_wanted h.foreign, wanted, hNone]
  rfl

/-! ## The outcome -/

/-- A program for each name of a module: what one greeter alone comes to. -/
def Compiles (program : String → Program) : Prop :=
  ∀ module, ∃ r members,
    (Resolver.start module (Greeter.pair shippedKey)).resolveAll Resolver.patience =
      some (.ok (), r) ∧ r.lower = .ok (program module) ∧
      Alone (program module) shippedKey members

theorem exists_compiles : ∃ program, Compiles program := by
  have hAll : ∀ module, ∃ p r members,
      (Resolver.start module (Greeter.pair shippedKey)).resolveAll Resolver.patience =
        some (.ok (), r) ∧ r.lower = .ok p ∧ Alone p shippedKey members := by
    intro module
    have hSteps : 0 < Resolver.patience := by decide
    obtain ⟨r, p, members, h⟩ := Greeter.exists_alone module shippedKey hSteps
    exact ⟨p, r, members, h⟩
  exact ⟨fun module => (hAll module).choose, fun module => (hAll module).choose_spec⟩

variable {program : String → Program}

/-- Resolving and lowering succeed, and the configuration has no say in it but for the name. -/
theorem Compiles.compileSetup_eq (h : Compiles program) (config : Configuration) :
    compileSetup (shippedSetup config) = .ok (program config.module) := by
  obtain ⟨r, members, hRun, hLower, _⟩ := h config.module
  have hResolved : (Resolver.start (shippedSetup config).config.module
      (shippedSetup config).extensions).resolveAll Resolver.patience = some (.ok (), r) := hRun
  rw [compileSetup, hResolved]
  show because "Lowering failed" CompileError.message r.lower = _
  rw [hLower, because]

theorem Compiles.compileSetup_given (h : Compiles program) (module : String)
    (arguments : List PluginArgument) :
    compileSetup (shippedSetup (.given module arguments)) = .ok (program module) := by
  rw [h.compileSetup_eq, Configuration.module_given]

/-- What is printed of a program. -/
def shown (program : String → Program) (options : CompileOptions) : String :=
  if options.emitIr then (program options.module).module.dump else ""

/-- How the command ends.  What is printed before a call fails stays printed, and options for
plugins that are not attached are warned about. -/
inductive Ending (program : String → Program) (options : CompileOptions) : Outcome → Prop
  | refused {report : Report} (hRefusal : Refusal options report) :
      Ending program options ⟨1, "", [], some report⟩
  | compiled {arguments : List PluginArgument} (hAccepted : Accepted options arguments)
      (hCall : options.call = none) :
      Ending program options ⟨0, shown program options,
        strayOptions (.given options.module arguments) [Identity.shipped.id], none⟩
  | answered {arguments : List PluginArgument} {target : String} {value : Value}
      (hAccepted : Accepted options arguments) (hCall : options.call = some target)
      (hAnswer : Answer target (.ok value)) :
      Ending program options ⟨0, shown program options ++ value.text ++ "\n",
        strayOptions (.given options.module arguments) [Identity.shipped.id], none⟩
  | failed {arguments : List PluginArgument} {target : String} {report : Report}
      (hAccepted : Accepted options arguments) (hCall : options.call = some target)
      (hAnswer : Answer target (.error report)) :
      Ending program options ⟨1, shown program options,
        strayOptions (.given options.module arguments) [Identity.shipped.id], some report⟩

theorem exists_ending (program : String → Program) (options : CompileOptions) :
    ∃ outcome, Ending program options outcome := by
  rcases refusal_or_accepted options with ⟨report, hRefusal⟩ | ⟨arguments, hAccepted⟩
  · exact ⟨_, .refused hRefusal⟩
  · cases hCall : options.call with
    | none => exact ⟨_, .compiled hAccepted hCall⟩
    | some target =>
        obtain ⟨answer, hAnswer⟩ := exists_answer target
        cases answer with
        | error report => exact ⟨_, .failed hAccepted hCall hAnswer⟩
        | ok value => exact ⟨_, .answered hAccepted hCall hAnswer⟩

/-- Accepted options leave it to the call how the command ends. -/
theorem compile_of_accepted (h : Compiles program) (hAccepted : Accepted options arguments) :
    compile options = present options (program options.module)
      (strayOptions (.given options.module arguments) [Identity.shipped.id]) := by
  have hCompiled := h.compileSetup_given options.module arguments
  simp only [compile, prepare_of_accepted hAccepted, hCompiled]
  rfl

theorem compile_of_ending (h : Compiles program) {outcome : Outcome}
    (hEnding : Ending program options outcome) : compile options = outcome := by
  obtain ⟨_, _, _, _, hAlone⟩ := h options.module
  cases hEnding with
  | refused hRefusal => rw [compile, prepare_of_refusal hRefusal]
  | compiled hAccepted hCall =>
      rw [compile_of_accepted h hAccepted, present, hCall]
      rfl
  | answered hAccepted hCall hAnswer =>
      rw [compile_of_accepted h hAccepted, present, hCall]
      simp only [(callTarget_eq_iff hAlone).2 hAnswer]
      rfl
  | failed hAccepted hCall hAnswer =>
      rw [compile_of_accepted h hAccepted, present, hCall]
      simp only [(callTarget_eq_iff hAlone).2 hAnswer]
      rfl

/-- **The outcome of every command line.**  The first option that cannot be read ends the command;
if there is none, the first option for the shipped plugin does; and if there is none either, the
first plugin asked for that is not the shipped one.  All other command lines are accepted.  Then
resolving and lowering succeed, with a program that depends on the name of the module and on nothing
else, and the command fails only if it is given a call target that does not name one of the two
methods of the generated class. -/
theorem compile_classified : ∃ program : String → Program, ∀ options : CompileOptions,
    (∀ outcome, compile options = outcome ↔ Ending program options outcome) ∧
    ∀ arguments, Accepted options arguments → ∃ setup,
      prepare options = .ok (setup, [Identity.shipped.id]) ∧
      compileSetup setup = .ok (program options.module) := by
  obtain ⟨program, hProgram⟩ := exists_compiles
  refine ⟨program, fun options => ⟨fun outcome => ⟨?_, compile_of_ending hProgram⟩, ?_⟩⟩
  · rintro rfl
    obtain ⟨outcome, hEnding⟩ := exists_ending program options
    rw [compile_of_ending hProgram hEnding]
    exact hEnding
  · intro arguments hAccepted
    exact ⟨_, prepare_of_accepted hAccepted, hProgram.compileSetup_given options.module arguments⟩

/-- Six command lines.  In the first, the shipped plugin is asked for again, there is an option for
another plugin, and the class of the target is written with an empty segment.  The second calls the
constructor, and the third nothing that there is.  In the fourth everything is wrong, and the option
that cannot be read wins though it is the last; without it, the first option for the shipped plugin
does, and without that one, the first plugin that is not the shipped one. -/
theorem greeting_and_refusals :
    let greeted : CompileOptions := ⟨"main", ["org.demo.synth", "org.demo.synth"],
      ["plugin:other:mode=full"], false, some "foo..bar.MyClass.foo"⟩
    let made : CompileOptions := ⟨"main", [], [], false, some "foo.bar.MyClass.<init>"⟩
    let missed : CompileOptions := ⟨"main", [], [], false, some "foo.bar.MyClass.bar"⟩
    let malformed : CompileOptions := ⟨"main", ["nowhere"],
      ["plugin:org.demo.synth:mode=full", "full"], true, some "foo"⟩
    let unexpected : CompileOptions := ⟨"main", ["nowhere"],
      ["plugin:other:tone=low", "plugin:org.demo.synth:mode=full",
        "plugin:org.demo.synth:tone=low"], true, some "foo"⟩
    let notFound : CompileOptions := ⟨"main", ["org.demo.synth", "nowhere", "elsewhere"],
      ["plugin:other:tone=low"], true, some "foo"⟩
    Accepted greeted [⟨"other", "mode", "full"⟩] ∧
    (∃ setup program, prepare greeted = .ok (setup, ["org.demo.synth"]) ∧
      compileSetup setup = .ok program) ∧
    compile greeted = ⟨0, "Hello world\n",
      ["Ignoring options for a plugin that is not attached plugin=\"other\""], none⟩ ∧
    compile made = ⟨0, "null\n", [], none⟩ ∧
    compile missed = ⟨1, "", [],
      some ⟨"Failed to call 'foo.bar.MyClass.bar'",
        some "Function 'foo.bar.MyClass.bar' has no body"⟩⟩ ∧
    compile malformed = ⟨1, "", [],
      some ⟨"Malformed plugin option 'full': expected plugin:<id>:<key>=<value>", none⟩⟩ ∧
    compile unexpected = ⟨1, "", [],
      some ⟨"Failed to attach plugin 'org.demo.synth' (available: org.demo.synth)",
        some "Unsupported option 'mode' for plugin 'org.demo.synth'"⟩⟩ ∧
    compile notFound = ⟨1, "", [],
      some ⟨"Failed to attach plugin 'nowhere' (available: org.demo.synth)",
        some "Plugin 'nowhere' was requested but no discovered plugin advertises it"⟩⟩ := by
  intro greeted made missed malformed unexpected notFound
  have hGreeted : Accepted greeted [⟨"other", "mode", "full"⟩] :=
    { read := .cons rfl .nil
      foreign := by decide
      shipped := by decide }
  have hMade : Accepted made [] := ⟨.nil, nofun, nofun⟩
  have hMissed : Accepted missed [] := ⟨.nil, nofun, nofun⟩
  have hFunction : Targets "foo..bar.MyClass.foo" Greeter.greeterClass Greeter.functionName :=
    ⟨"foo..bar.MyClass", by decide, by decide, by decide⟩
  have hConstructor : Targets "foo.bar.MyClass.<init>" Greeter.greeterClass .init :=
    ⟨"foo.bar.MyClass", by decide, by decide, by decide⟩
  have hNothing : Targets "foo.bar.MyClass.bar" Greeter.greeterClass ⟨"bar"⟩ :=
    ⟨"foo.bar.MyClass", by decide, by decide, by decide⟩
  have hUnreadable : malformed.pluginOptions.find? (!readable ·) = some "full" := rfl
  have hStrayRead : Reads unexpected.pluginOptions [⟨"other", "tone", "low"⟩,
      ⟨"org.demo.synth", "mode", "full"⟩, ⟨"org.demo.synth", "tone", "low"⟩] :=
    .cons rfl (.cons rfl (.cons rfl .nil))
  have hForeignRead : Reads notFound.pluginOptions [⟨"other", "tone", "low"⟩] := .cons rfl .nil
  have hForeign : notFound.plugins.find? (· ≠ Identity.shipped.id) = some "nowhere" := rfl
  have hWarning : strayWarning "other" =
      "Ignoring options for a plugin that is not attached plugin=\"other\"" := by decide
  obtain ⟨program, hAll⟩ := compile_classified
  obtain ⟨setup, hSetup, hProgram⟩ := (hAll greeted).2 _ hGreeted
  refine ⟨hGreeted, ⟨setup, _, hSetup, hProgram⟩, ?_, ?_, ?_, ?_, ?_, ?_⟩
  · rw [← hWarning]
    exact ((hAll greeted).1 _).2 (.answered hGreeted rfl (.function hFunction))
  · exact ((hAll made).1 _).2 (.answered hMade rfl (.constructor hConstructor))
  · exact ((hAll missed).1 _).2
      (.failed hMissed rfl (.noMethod hNothing (.inr ⟨rfl, by decide, by decide⟩)))
  · exact ((hAll malformed).1 _).2 (.refused (.malformed hUnreadable))
  · exact ((hAll unexpected).1 _).2 (.refused (.unexpected hStrayRead rfl))
  · exact ((hAll notFound).1 _).2 (.refused (.notFound hForeignRead (by decide) hForeign))

end TwoPhase.CommandLine
