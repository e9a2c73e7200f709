import TwoPhase.Proofs.Plugin.Attachment
import TwoPhase.Proofs.Plugin.Configuration

/-!
# Options of other plugins

All options of a compilation stand in one configuration, and processors write into it while their
options are handed over.  Yet a plugin is handed its own options only, in the order in which they
were given.  So options that are addressed to other plugins have no say in how it is attached,
unless the plugin itself looks for them in the configuration.  For this it is not enough that a
processor decides by name and value what it accepts: it can still look around for the words of a
refusal.

## Strategy

One operation on a configuration extends the options of one plugin at most (`options_perform`),
and the options after many are read off the operations (`options_after`).  Two runs of a processor
on the same options are then compared step by step.  They go through different configurations, but
what the processor answers does not depend on these; and the options to be handed over are fixed
before the first one is.  The registrar comes last and does not look at the configuration either.

## Main results

* `options_after` — the options of a plugin are the arguments addressed to it.
* `takeAll_isOk`, `takeAll_answer` — two runs of a processor.
* `attach_with_same_options` — attaching with two configurations that agree about the plugin.
* `attach_ignores_other_options` — attaching with more, fewer or reordered options for others.
* `others_heard` — how options of others make a difference nevertheless.
-/

namespace TwoPhase

/-! ## Two runs of a processor -/

namespace OptionProcessor

variable {p : OptionProcessor} {given : List (String × String)} {c c' : Configuration}

/-- Whether an option is accepted depends on its name and value alone. -/
def AcceptsByOption (p : OptionProcessor) : Prop :=
  ∀ name value c c', (p.process name value c).1 = .ok () → (p.process name value c').1 = .ok ()

/-- What is answered to an option depends on its name and value alone. -/
def AnswersByOption (p : OptionProcessor) : Prop :=
  ∀ name value c c', (p.process name value c).1 = (p.process name value c').1

/-- What is answered says whether the option is accepted. -/
theorem AnswersByOption.accepts (h : p.AnswersByOption) : p.AcceptsByOption :=
  fun name value c c' hOk => (h name value c c').symm.trans hOk

theorem takeAll_cons_of_error {entry : String × String} {reason : ConfigError}
    (h : (p.process entry.1 entry.2 c).1 = .error reason) (rest : List (String × String)) :
    (p.takeAll (entry :: rest) c).1 = .error reason := by
  rw [takeAll]
  split
  · rename_i hTaken
    rw [hTaken] at h
    exact h
  · rename_i hTaken
    rw [hTaken] at h
    cases h

theorem takeAll_cons_of_ok {entry : String × String}
    (h : (p.process entry.1 entry.2 c).1 = .ok ()) (rest : List (String × String)) :
    (p.takeAll (entry :: rest) c).1 =
      if p.declares entry.1 then (p.takeAll rest (p.process entry.1 entry.2 c).2).1
      else .error (.unexpectedOption p.pluginId entry.1) := by
  rw [takeAll]
  split
  · rename_i hTaken
    rw [hTaken] at h
    cases h
  · rename_i hTaken
    rw [hTaken]
    split <;> rfl

/-- If options are taken, they are taken whatever the configuration is. -/
theorem takeAll_isOk (hAccepts : p.AcceptsByOption) (h : (p.takeAll given c).1 = .ok ()) :
    (p.takeAll given c').1 = .ok () := by
  induction given generalizing c c' with
  | nil => rfl
  | cons entry rest ih =>
      cases hHere : (p.process entry.1 entry.2 c).1 with
      | error reason =>
          rw [takeAll_cons_of_error hHere] at h
          cases h
      | ok _ =>
          rw [takeAll_cons_of_ok hHere] at h
          rw [takeAll_cons_of_ok (hAccepts entry.1 entry.2 c c' hHere)]
          split at h
          · rename_i hDeclared
            rw [if_pos hDeclared]
            exact ih h
          · cases h

/-- The answer to options is the same, whatever the configuration is. -/
theorem takeAll_answer (hAnswers : p.AnswersByOption) :
    (p.takeAll given c).1 = (p.takeAll given c').1 := by
  induction given generalizing c c' with
  | nil => rfl
  | cons entry rest ih =>
      have hSame := hAnswers entry.1 entry.2 c c'
      cases hHere : (p.process entry.1 entry.2 c).1 with
      | error reason =>
          rw [takeAll_cons_of_error hHere, takeAll_cons_of_error (hSame.symm.trans hHere)]
      | ok _ =>
          rw [takeAll_cons_of_ok hHere, takeAll_cons_of_ok (hSame.symm.trans hHere)]
          split
          · exact ih
          · rfl

/-- The options are taken first, and then none must be missing. -/
theorem fst_apply : (p.apply c).1 = (p.takeAll (c.options p.pluginId) c).1 >>= fun _ =>
    match p.missing? (c.options p.pluginId) with
    | some option => .error (.missingRequiredOption p.pluginId option.name)
    | none => .ok () := by
  rw [apply]
  rcases p.takeAll (c.options p.pluginId) c with ⟨_ | _, last⟩
  · rfl
  · dsimp only
    cases p.missing? (c.options p.pluginId) <;> rfl

theorem apply_isOk (hAccepts : p.AcceptsByOption)
    (hSame : c.options p.pluginId = c'.options p.pluginId) (h : (p.apply c).1 = .ok ()) :
    (p.apply c').1 = .ok () := by
  rw [fst_apply, ← hSame] at *
  cases hTaken : (p.takeAll (c.options p.pluginId) c).1 with
  | error reason =>
      rw [hTaken] at h
      cases h
  | ok _ =>
      rw [hTaken] at h
      rw [takeAll_isOk hAccepts hTaken]
      exact h

theorem apply_answer (hAnswers : p.AnswersByOption)
    (hSame : c.options p.pluginId = c'.options p.pluginId) : (p.apply c).1 = (p.apply c').1 := by
  rw [fst_apply, fst_apply, hSame, takeAll_answer hAnswers]

end OptionProcessor

/-! ## Attaching -/

/-- What a registrar brings does not depend on the configuration. -/
def Registrar.IgnoresConfiguration (r : Registrar) : Prop :=
  ∀ c c' installed keys, r.register c installed keys = r.register c' installed keys

namespace Loader

variable {loader : Loader} {id : String} {c c' : Configuration} {installed : Extensions}
  {keys : KeySupply} {p : OptionProcessor} {r : Registrar}

/-- Two ways in which attaching ends that differ in nothing but the configuration they leave. -/
def SameButConfig (a b : Except LoadError Unit × Setup) : Prop :=
  a.1 = b.1 ∧ a.2.extensions = b.2.extensions ∧ a.2.keys = b.2.keys

theorem install_ignores (h : r.IgnoresConfiguration) :
    SameButConfig (install id r ⟨c, installed, keys⟩) (install id r ⟨c', installed, keys⟩) := by
  rw [install, install, h c c']
  dsimp only
  split
  · exact ⟨rfl, rfl, rfl⟩
  · exact ⟨rfl, rfl, rfl⟩

theorem attach_of_refused (hProcessor : loader.processor? id = some p)
    (hRegistrar : loader.registrar? id = some r) {reason : ConfigError}
    (h : (p.apply c).1 = .error reason) : ∃ next, loader.attach id ⟨c, installed, keys⟩ =
      (.error (.config reason), ⟨next, installed, keys⟩) := by
  rcases hApply : p.apply c with ⟨_ | _, next⟩
  · rw [hApply] at h
    cases h
    rw [attach, hProcessor, hRegistrar]
    dsimp only
    rw [hApply]
    exact ⟨next, rfl⟩
  · rw [hApply] at h
    cases h

theorem attach_of_taken (hProcessor : loader.processor? id = some p)
    (hRegistrar : loader.registrar? id = some r) (h : (p.apply c).1 = .ok ()) : ∃ next,
      loader.attach id ⟨c, installed, keys⟩ = install id r ⟨next, installed, keys⟩ := by
  rcases hApply : p.apply c with ⟨_ | _, next⟩
  · rw [hApply] at h
    cases h
  · rw [attach, hProcessor, hRegistrar]
    dsimp only
    rw [hApply]
    exact ⟨next, rfl⟩

/-- How attaching goes with two configurations that hold the same options for the plugin.  It ends
alike, or both times the processor refuses the options. -/
theorem attach_with_same_options (hProcessors : ∀ p ∈ loader.processors, p.AcceptsByOption)
    (hRegistrars : ∀ r ∈ loader.registrars, r.IgnoresConfiguration)
    (hSame : c.options id = c'.options id) (installed : Extensions) (keys : KeySupply) :
    SameButConfig (loader.attach id ⟨c, installed, keys⟩) (loader.attach id ⟨c', installed, keys⟩) ∨
      ∃ p ∈ loader.processors, ∃ reason reason' next next',
        p.pluginId = id ∧ (p.apply c).1 = .error reason ∧ (p.apply c').1 = .error reason' ∧
        loader.attach id ⟨c, installed, keys⟩ =
          (.error (.config reason), ⟨next, installed, keys⟩) ∧
        loader.attach id ⟨c', installed, keys⟩ =
          (.error (.config reason'), ⟨next', installed, keys⟩) := by
  cases hProcessor : loader.processor? id with
  | none =>
      refine .inl ?_
      rw [attach, attach, hProcessor]
      exact ⟨rfl, rfl, rfl⟩
  | some p =>
      cases hRegistrar : loader.registrar? id with
      | none =>
          refine .inl ?_
          rw [attach, attach, hProcessor, hRegistrar]
          exact ⟨rfl, rfl, rfl⟩
      | some r =>
          have hMem : p ∈ loader.processors := List.mem_of_find?_eq_some hProcessor
          have hId : p.pluginId = id := by simpa using List.find?_some hProcessor
          rw [← hId] at hSame
          cases hTaken : (p.apply c).1 with
          | ok _ =>
              have hTaken' := OptionProcessor.apply_isOk (hProcessors p hMem) hSame hTaken
              obtain ⟨next, hAttach⟩ := attach_of_taken hProcessor hRegistrar hTaken
              obtain ⟨next', hAttach'⟩ := attach_of_taken hProcessor hRegistrar hTaken'
              rw [hAttach, hAttach']
              exact .inl (install_ignores (hRegistrars r (List.mem_of_find?_eq_some hRegistrar)))
          | error reason =>
              cases hTaken' : (p.apply c').1 with
              | ok _ =>
                  have hOk := OptionProcessor.apply_isOk (hProcessors p hMem) hSame.symm hTaken'
                  rw [hOk] at hTaken
                  cases hTaken
              | error reason' =>
                  obtain ⟨next, hAttach⟩ := attach_of_refused hProcessor hRegistrar hTaken
                  obtain ⟨next', hAttach'⟩ := attach_of_refused hProcessor hRegistrar hTaken'
                  exact .inr ⟨p, hMem, reason, reason', next, next', hId, hTaken, hTaken', hAttach,
                    hAttach'⟩

/-- **Options of other plugins do not interfere.**  A plugin has the options that are addressed to
it, in order, whatever else is added or stored in between.  Let the answers of processors depend on
name and value of an option alone, the words of a refusal included, and let registrars not look at
the configuration.  If other options are inserted, removed or reordered, then attaching to the same
extensions ends with the same result, and installs the same extensions. -/
theorem attach_ignores_other_options :
    (∀ module ops id, ((Configuration.start module).after ops).options id =
      (Configuration.argumentsFor id ops).map fun a => (a.name, a.value)) ∧
    ∀ {loader : Loader} {id : String} {ops ops' : List Configuration.Operation},
      (∀ p ∈ loader.processors, p.AnswersByOption) →
      (∀ r ∈ loader.registrars, r.IgnoresConfiguration) →
      Configuration.argumentsFor id ops = Configuration.argumentsFor id ops' →
      ∀ module installed keys,
        let first := loader.attach id ⟨(Configuration.start module).after ops, installed, keys⟩
        let second := loader.attach id ⟨(Configuration.start module).after ops', installed, keys⟩
        first.1 = second.1 ∧ first.2.extensions = second.2.extensions ∧
          first.2.keys = second.2.keys := by
  have hOptions : ∀ module ops id, ((Configuration.start module).after ops).options id =
      (Configuration.argumentsFor id ops).map fun a => (a.name, a.value) :=
    fun module ops id => Configuration.options_after (.start module) ops
  refine ⟨hOptions, ?_⟩
  intro loader id ops ops' hProcessors hRegistrars hArguments module installed keys
  have hSame : ((Configuration.start module).after ops).options id =
      ((Configuration.start module).after ops').options id := by
    rw [hOptions, hOptions, hArguments]
  have hAccepts : ∀ p ∈ loader.processors, p.AcceptsByOption := fun p hMem =>
    (hProcessors p hMem).accepts
  rcases attach_with_same_options hAccepts hRegistrars hSame installed keys with
    hAlike | ⟨p, hMem, reason, reason', next, next', hId, hFirst, hSecond, hAttach, hAttach'⟩
  · exact hAlike
  · -- refused both times, and for the same reason
    rw [← hId] at hSame
    have hReason := OptionProcessor.apply_answer (hProcessors p hMem) hSame
    rw [hFirst, hSecond] at hReason
    dsimp only
    rw [hAttach, hAttach', Except.error.inj hReason]
    exact ⟨rfl, rfl, rfl⟩

end Loader

/-! ## A sample -/

namespace Loader.Stamps

/-- Refuses to smudge, and stores what it is given otherwise. -/
def processor (id : String) : OptionProcessor where
  pluginId := id
  options := [⟨"mark", "<mark>", "What to stamp", false, true⟩]
  process name value config :=
    if name = "smudge" then (.error (.unexpectedOption (id ++ "!") name), config)
    else (.ok (), config.put (id ++ "." ++ name) value)

/-- Brings a pair of providers. -/
def registrar (id : String) : Registrar where
  pluginId := id
  register _ installed keys := (installed ++ Greeter.pair ⟨0, id⟩, keys)
  appends _ _ _ := ⟨_, rfl⟩

def loader : Loader :=
  ⟨[registrar "stamps", registrar "labels"], [processor "stamps", processor "labels"]⟩

/-- Where attaching starts after changes of the configuration. -/
def setup (ops : List Configuration.Operation) : Setup :=
  .start ((Configuration.start "main").after ops)

/-- Two options for the stamps. -/
def own : List Configuration.Operation :=
  [.addArgument ⟨"stamps", "mark", "first"⟩, .addArgument ⟨"stamps", "mark", "second"⟩]

/-- The same two options among others, one of them of the same name, and with something stored in
between. -/
def crowded : List Configuration.Operation :=
  [.addArgument ⟨"labels", "mark", ""⟩, .addArgument ⟨"stamps", "mark", "first"⟩,
    .put "stamps.mark" "old", .addArgument ⟨"stamps:", "smudge", "x"⟩,
    .addArgument ⟨"stamps", "mark", "second"⟩]

/-- An option that the stamps refuse. -/
def smudge : Configuration.Operation := .addArgument ⟨"stamps", "smudge", "x"⟩

theorem answersByOption : ∀ p ∈ loader.processors, p.AnswersByOption := by
  have hEach : ∀ id, (processor id).AnswersByOption := by
    intro id name value c c'
    by_cases hSmudge : name = "smudge" <;> simp [processor, hSmudge]
  simpa [loader] using ⟨hEach "stamps", hEach "labels"⟩

theorem ignoresConfiguration : ∀ r ∈ loader.registrars, r.IgnoresConfiguration := by
  have hEach : ∀ id, (registrar id).IgnoresConfiguration := fun id c c' installed keys => rfl
  simpa [loader] using ⟨hEach "stamps", hEach "labels"⟩

/-- Among others, the two options lead to the same installation, and are stored behind what was
stored before.  A third option is refused in the same words. -/
theorem crowd_ignored :
    (∀ p ∈ loader.processors, p.AnswersByOption) ∧
      (∀ r ∈ loader.registrars, r.IgnoresConfiguration) ∧
      Configuration.argumentsFor "stamps" own = Configuration.argumentsFor "stamps" crowded ∧
      ((loader.attach "stamps" (setup own)).1 = .ok () ∧
        (loader.attach "stamps" (setup own)).2.extensions.counts = (1, 1)) ∧
      ((loader.attach "stamps" (setup crowded)).1 = .ok () ∧
        (loader.attach "stamps" (setup crowded)).2.extensions =
          (loader.attach "stamps" (setup own)).2.extensions) ∧
      ((loader.attach "stamps" (setup own)).2.config.get "stamps.mark" = ["first", "second"] ∧
        (loader.attach "stamps" (setup crowded)).2.config.get "stamps.mark" =
          ["old", "first", "second"]) ∧
      (loader.attach "stamps" (setup (smudge :: own))).1 =
        .error (.config (.unexpectedOption "stamps!" "smudge")) ∧
      (loader.attach "stamps" (setup (smudge :: crowded))).1 =
        .error (.config (.unexpectedOption "stamps!" "smudge")) := by
  have hArguments : Configuration.argumentsFor "stamps" own =
      Configuration.argumentsFor "stamps" crowded := by decide
  have hRefusedArguments : Configuration.argumentsFor "stamps" (smudge :: own) =
      Configuration.argumentsFor "stamps" (smudge :: crowded) := by decide
  have hOwn : (loader.attach "stamps" (setup own)).1 = .ok () := rfl
  have hRefused : (loader.attach "stamps" (setup (smudge :: own))).1 =
      .error (.config (.unexpectedOption "stamps!" "smudge")) := rfl
  obtain ⟨hResult, hExtensions, _⟩ := attach_ignores_other_options.2 answersByOption
    ignoresConfiguration hArguments "main" .none .initial
  obtain ⟨hRefusal, _, _⟩ := attach_ignores_other_options.2 answersByOption
    ignoresConfiguration hRefusedArguments "main" .none .initial
  exact ⟨answersByOption, ignoresConfiguration, hArguments, ⟨hOwn, rfl⟩,
    ⟨hResult.symm.trans hOwn, hExtensions.symm⟩, ⟨rfl, rfl⟩, hRefused,
    hRefusal.symm.trans hRefused⟩

/-- Refuses everything, in words that tell whether there are labels. -/
def nosy : OptionProcessor where
  pluginId := "stamps"
  options := []
  process name _ config :=
    (.error (.unexpectedOption (if config.options "labels" = [] then "stamps" else "labels") name),
      config)

/-- Two ways in which options of others do interfere.  A processor that accepts by name and value
alone may word its refusal by the options of another plugin.  And where plugins are attached in
turn, an option that is refused by the first leaves the second with other extensions to come to. -/
theorem others_heard :
    (nosy.AcceptsByOption ∧ (registrar "stamps").IgnoresConfiguration ∧
      Configuration.argumentsFor "stamps" own = Configuration.argumentsFor "stamps" crowded ∧
      (attach ⟨[registrar "stamps"], [nosy]⟩ "stamps" (setup own)).1 =
        .error (.config (.unexpectedOption "stamps" "mark")) ∧
      (attach ⟨[registrar "stamps"], [nosy]⟩ "stamps" (setup crowded)).1 =
        .error (.config (.unexpectedOption "labels" "mark"))) ∧
    ((∀ p ∈ loader.processors, p.AnswersByOption) ∧
      (∀ r ∈ loader.registrars, r.IgnoresConfiguration) ∧
      Configuration.argumentsFor "labels" [] = Configuration.argumentsFor "labels" [smudge] ∧
      (loader.attach "labels" (loader.attach "stamps" (setup [])).2).2.extensions.counts = (2, 2) ∧
      (loader.attach "labels" (loader.attach "stamps" (setup [smudge])).2).2.extensions.counts =
        (1, 1)) := by
  have hNosy : nosy.AcceptsByOption := fun _ _ _ _ h => nomatch h
  exact ⟨⟨hNosy, fun _ _ _ _ => rfl, by decide, rfl, rfl⟩,
    ⟨answersByOption, ignoresConfiguration, rfl, rfl, rfl⟩⟩

end Loader.Stamps
end TwoPhase
