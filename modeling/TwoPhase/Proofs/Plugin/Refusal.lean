import TwoPhase.Proofs.Plugin.Attachment
import TwoPhase.Proofs.Plugin.Configuration

/-!
# Which option is reported

The options of a plugin are handed to its processor one after the other, and three things can be
wrong with them: the processor refuses one, it takes one that it does not declare, or one that it
needs is missing.  Only one fault is reported.  Each option is looked at as a whole before the next
one is handed over, so an undeclared option that the processor takes ends it, and what the processor
would have said to the options behind is never known.

## Strategy

As far as options are declared and taken, they can be left out of the account (`takeAll_append`).
Then the first one that is not so decides (`takeAll_eq_error_iff`).  `Fault` lists what can be wrong
and what is left behind, without saying how the options are gone through.

## Main results

* `apply_eq_error_iff` — what is reported, in terms of the first fault.
* `attach_reports_first_fault` — a refusal by the processor is reported unless an undeclared option
  was taken before.
* `stray_hides_refusal` — two options of which the processor refuses the second, and the first is
  reported.
-/

namespace TwoPhase

namespace OptionProcessor

variable {p : OptionProcessor} {before given : List (String × String)} {entry : String × String}
  {config next last : Configuration} {reason : ConfigError}

/-! ## Going through the options -/

theorem takes_append_iff {rest : List (String × String)} :
    p.Takes (before ++ rest) config last ↔
      ∃ next, p.Takes before config next ∧ p.Takes rest next last := by
  induction before generalizing config with
  | nil =>
      constructor
      · exact fun h => ⟨config, .nil config, h⟩
      · rintro ⟨_, ⟨⟩, h⟩
        exact h
  | cons first before ih =>
      constructor
      · intro h
        cases h with
        | cons hTaken hRest =>
            obtain ⟨next, hBefore, hRest⟩ := ih.1 hRest
            exact ⟨next, .cons hTaken hBefore, hRest⟩
      · rintro ⟨next, hBefore, hRest⟩
        cases hBefore with
        | cons hTaken hBefore => exact .cons hTaken (ih.2 ⟨next, hBefore, hRest⟩)

theorem takes_singleton_iff :
    p.Takes [entry] config last ↔ p.process entry.1 entry.2 config = (.ok (), last) := by
  constructor
  · intro h
    cases h with
    | cons hTaken hRest =>
        cases hRest
        exact hTaken
  · exact fun h => .cons h (.nil last)

/-- Options that are declared and taken lead on to the ones behind them. -/
theorem takeAll_append (h : p.Takes before config next)
    (hDeclared : ∀ earlier ∈ before, p.declares earlier.1 = true) (rest : List (String × String)) :
    p.takeAll (before ++ rest) config = p.takeAll rest next := by
  induction h with
  | nil => rfl
  | cons hTaken _ ih =>
      obtain ⟨hHere, hRest⟩ := List.forall_mem_cons.1 hDeclared
      rw [List.cons_append, takeAll, hTaken]
      exact (if_pos hHere).trans (ih hRest)

theorem takeAll_of_refused (h : p.process entry.1 entry.2 config = (.error reason, last))
    (rest : List (String × String)) :
    p.takeAll (entry :: rest) config = (.error reason, last) := by
  rw [takeAll, h]

theorem takeAll_of_stray (h : p.process entry.1 entry.2 config = (.ok (), last))
    (hStray : p.declares entry.1 = false) (rest : List (String × String)) :
    p.takeAll (entry :: rest) config = (.error (.unexpectedOption p.pluginId entry.1), last) := by
  rw [takeAll, h]
  exact if_neg (by simp [hStray])

/-! ## Faults -/

/-- The first option that was supplied wrongly, all before it being declared and taken. -/
inductive BadOption (p : OptionProcessor) (given : List (String × String))
    (config : Configuration) : ConfigError → Configuration → Prop
  /-- The processor refuses it, in its own words. -/
  | refused {before after : List (String × String)} {entry : String × String}
      {next last : Configuration} {reason : ConfigError} (hGiven : given = before ++ entry :: after)
      (hTaken : p.Takes before config next)
      (hDeclared : ∀ earlier ∈ before, p.declares earlier.1 = true)
      (hRefused : p.process entry.1 entry.2 next = (.error reason, last)) :
      BadOption p given config reason last
  /-- The processor takes it too, but it is not declared. -/
  | stray {before after : List (String × String)} {entry : String × String} {last : Configuration}
      (hGiven : given = before ++ entry :: after) (hTaken : p.Takes (before ++ [entry]) config last)
      (hDeclared : ∀ earlier ∈ before, p.declares earlier.1 = true)
      (hStray : p.declares entry.1 = false) :
      BadOption p given config (.unexpectedOption p.pluginId entry.1) last

/-- What is wrong with options, and what the processor leaves behind. -/
inductive Fault (p : OptionProcessor) (given : List (String × String))
    (config : Configuration) : ConfigError → Configuration → Prop
  | bad {reason : ConfigError} {last : Configuration}
      (hBad : p.BadOption given config reason last) :
      Fault p given config reason last
  /-- All options are declared and taken, and this is the first one that should be there too. -/
  | missing {option : OptionDecl} {last : Configuration} (hTaken : p.Takes given config last)
      (hDeclared : ∀ entry ∈ given, p.declares entry.1 = true)
      (hMissing : p.missing? given = some option) :
      Fault p given config (.missingRequiredOption p.pluginId option.name) last

/-- An option that is declared and taken moves the search for a bad one to the rest. -/
theorem badOption_cons (hTaken : p.process entry.1 entry.2 config = (.ok (), next))
    (hDeclared : p.declares entry.1 = true) (h : p.BadOption given next reason last) :
    p.BadOption (entry :: given) config reason last := by
  cases h with
  | @refused before after other _ _ _ hGiven hBefore hAll hRefused =>
      have hSplit : entry :: given = (entry :: before) ++ other :: after :=
        congrArg (entry :: ·) hGiven
      exact .refused hSplit (.cons hTaken hBefore) (List.forall_mem_cons.2 ⟨hDeclared, hAll⟩)
        hRefused
  | @stray before after other _ hGiven hBefore hAll hStray =>
      have hSplit : entry :: given = (entry :: before) ++ other :: after :=
        congrArg (entry :: ·) hGiven
      exact .stray hSplit (.cons hTaken hBefore) (List.forall_mem_cons.2 ⟨hDeclared, hAll⟩) hStray

/-- **Handing over the options fails at the first bad one.** -/
theorem takeAll_eq_error_iff :
    p.takeAll given config = (.error reason, last) ↔ p.BadOption given config reason last := by
  constructor
  · induction given generalizing config with
    | nil => nofun
    | cons entry rest ih =>
        intro h
        rcases hTaken : p.process entry.1 entry.2 config with ⟨_ | _, next⟩
        · cases (takeAll_of_refused hTaken rest).symm.trans h
          exact .refused (List.nil_append (entry :: rest)).symm (.nil config) nofun hTaken
        · cases hHere : p.declares entry.1 with
          | true =>
              have hRest := takeAll_append (.cons hTaken (.nil next))
                (List.forall_mem_cons.2 ⟨hHere, nofun⟩) rest
              exact badOption_cons hTaken hHere (ih (hRest.symm.trans h))
          | false =>
              cases (takeAll_of_stray hTaken hHere rest).symm.trans h
              exact .stray (List.nil_append (entry :: rest)).symm (takes_singleton_iff.2 hTaken)
                nofun hHere
  · intro h
    cases h with
    | refused hGiven hTaken hDeclared hRefused =>
        rw [hGiven, takeAll_append hTaken hDeclared, takeAll_of_refused hRefused]
    | stray hGiven hTaken hDeclared hStray =>
        obtain ⟨next, hBefore, hHere⟩ := takes_append_iff.1 hTaken
        rw [hGiven, takeAll_append hBefore hDeclared,
          takeAll_of_stray (takes_singleton_iff.1 hHere) hStray]

/-- **What is reported**, and what is left behind then. -/
theorem apply_eq_error_iff : p.apply config = (.error reason, last) ↔
    p.Fault (config.options p.pluginId) config reason last := by
  rw [apply]
  constructor
  · intro h
    split at h
    · rename_i hFailed
      cases h
      exact .bad (takeAll_eq_error_iff.1 hFailed)
    · rename_i hTaken
      obtain ⟨hTakes, hDeclared⟩ := takeAll_eq_ok_iff.1 hTaken
      split at h
      · rename_i hMissing
        cases h
        exact .missing hTakes (fun entry hEntry => declares_iff.2 (hDeclared entry hEntry)) hMissing
      · cases h
  · intro h
    cases h with
    | bad hBad => rw [takeAll_eq_error_iff.2 hBad]
    | missing hTaken hDeclared hMissing =>
        have hAll : p.takeAll (config.options p.pluginId) config = (.ok (), last) :=
          takeAll_eq_ok_iff.2
            ⟨hTaken, fun entry hEntry => declares_iff.1 (hDeclared entry hEntry)⟩
        rw [hAll]
        dsimp only
        rw [hMissing]

/-- Where some option is not declared, there is a first one that is not. -/
theorem exists_first_stray (h : ¬ ∀ entry ∈ given, p.declares entry.1 = true) :
    ∃ before stray after, given = before ++ stray :: after ∧
      (∀ earlier ∈ before, p.declares earlier.1 = true) ∧ p.declares stray.1 = false := by
  have hSome : (given.find? fun entry => !p.declares entry.1).isSome = true := by
    rw [List.find?_isSome]
    simpa using h
  obtain ⟨stray, hFirst⟩ := Option.isSome_iff_exists.1 hSome
  obtain ⟨hStray, before, after, hGiven, hBefore⟩ := List.find?_eq_some_iff_append.1 hFirst
  exact ⟨before, stray, after, hGiven, fun entry hEntry => by simpa using hBefore entry hEntry,
    by simpa using hStray⟩

end OptionProcessor

/-! ## Attaching -/

namespace Loader

variable {loader : Loader} {id : String} {setup : Setup} {p : OptionProcessor}

/-- With a processor and a registrar at hand, attaching is refused as the options are. -/
theorem attach_eq_refused_iff (hProcessor : Order.First (·.pluginId = id) loader.processors p)
    (hRegistrar : ∃ registrar ∈ loader.registrars, registrar.pluginId = id) {reason : ConfigError}
    {config : Configuration} :
    loader.attach id setup = (.error (.config reason), { setup with config }) ↔
      p.apply setup.config = (.error reason, config) := by
  obtain ⟨registrar, hMem, hId⟩ := hRegistrar
  obtain ⟨first, hFirst⟩ : ∃ first, loader.registrar? id = some first := by
    rw [← Option.isSome_iff_exists, registrar?, List.find?_isSome]
    exact ⟨registrar, hMem, by simpa using hId⟩
  rw [attach, processor?_eq_some_iff.2 hProcessor, hFirst]
  dsimp only
  rcases p.apply setup.config with ⟨_ | _, next⟩
  · simp
  · -- what comes afterwards is not about options
    have hInstall : ∀ config, install id first { setup with config := next } ≠
        (.error (.config reason), { setup with config }) := by
      intro config
      rw [install]
      dsimp only
      split
      · simp
      · simp
    simp [hInstall]

/-- **The first fault in the options is what is reported.**  With a processor and a registrar at
hand, attaching is refused exactly for a fault in the options, and it leaves in the configuration
what the processor has stored up to there.  Suppose that the processor takes some options and
refuses the next one.  If those before are all declared, its own refusal is reported.  Otherwise the
first of them that is not declared is reported in the loader's words, and no option behind that one
has been handed over. -/
theorem attach_reports_first_fault
    (hProcessor : Order.First (·.pluginId = id) loader.processors p)
    (hRegistrar : ∃ registrar ∈ loader.registrars, registrar.pluginId = id) :
    (∀ reason config, loader.attach id setup = (.error (.config reason), { setup with config }) ↔
      p.Fault (setup.config.options id) setup.config reason config) ∧
    ∀ {before after entry next reason last}, setup.config.options id = before ++ entry :: after →
      p.Takes before setup.config next →
      p.process entry.1 entry.2 next = (.error reason, last) →
      ((∀ earlier ∈ before, p.declares earlier.1 = true) →
        loader.attach id setup = (.error (.config reason), { setup with config := last })) ∧
      ((¬ ∀ earlier ∈ before, p.declares earlier.1 = true) → ∃ taken stray rest kept,
        before = taken ++ stray :: rest ∧ (∀ earlier ∈ taken, p.declares earlier.1 = true) ∧
        p.declares stray.1 = false ∧ p.Takes (taken ++ [stray]) setup.config kept ∧
        loader.attach id setup =
          (.error (.config (.unexpectedOption id stray.1)), { setup with config := kept })) := by
  have hId : p.pluginId = id := by
    obtain ⟨_, _, _, hName, _⟩ := hProcessor
    exact hName
  have hReported : ∀ reason config,
      loader.attach id setup = (.error (.config reason), { setup with config }) ↔
        p.Fault (setup.config.options id) setup.config reason config := by
    intro reason config
    rw [attach_eq_refused_iff hProcessor hRegistrar, OptionProcessor.apply_eq_error_iff, hId]
  refine ⟨hReported, ?_⟩
  intro before after entry next reason last hGiven hTaken hRefused
  constructor
  · intro hDeclared
    exact (hReported reason last).2 (.bad (.refused hGiven hTaken hDeclared hRefused))
  · intro hUndeclared
    obtain ⟨taken, stray, rest, rfl, hDeclared, hStray⟩ :=
      OptionProcessor.exists_first_stray hUndeclared
    rw [List.append_cons] at hTaken
    obtain ⟨kept, hKept, _⟩ := OptionProcessor.takes_append_iff.1 hTaken
    rw [List.append_assoc, List.cons_append] at hGiven
    have hBad := OptionProcessor.BadOption.stray hGiven hKept hDeclared hStray
    rw [hId] at hBad
    exact ⟨taken, stray, rest, kept, rfl, hDeclared, hStray, hKept,
      (hReported _ kept).2 (.bad hBad)⟩

end Loader

/-! ## A sample -/

namespace Loader.Strict

/-- Declares no option, refuses one and takes all others. -/
def processor : OptionProcessor where
  pluginId := "strict"
  options := []
  process name value config :=
    if name = "second" then (.error (.unexpectedOption "strict!" name), config)
    else (.ok (), config.put s!"strict.{name}" value)

/-- Brings nothing. -/
def registrar : Registrar where
  pluginId := "strict"
  register _ installed keys := (installed ++ .none, keys)
  appends _ _ _ := ⟨.none, rfl⟩

def loader : Loader := ⟨[registrar], [processor]⟩

/-- Options of the plugin, each with the same value. -/
def setup (names : List String) : Setup :=
  .start (.given "main" (names.map (⟨"strict", ·, "on"⟩)))

theorem processor_first : Order.First (·.pluginId = "strict") loader.processors processor :=
  ⟨[], [], rfl, rfl, nofun⟩

theorem exists_registrar : ∃ r ∈ loader.registrars, r.pluginId = "strict" :=
  ⟨registrar, List.mem_singleton_self registrar, rfl⟩

/-- The processor takes the first option and refuses the second one.  Yet the first one is reported,
since it is not declared. -/
theorem stray_hides_refusal :
    Order.First (·.pluginId = "strict") loader.processors processor ∧
      (∃ r ∈ loader.registrars, r.pluginId = "strict") ∧
      (setup ["first", "second"]).config.options "strict" =
        [("first", "on")] ++ ("second", "on") :: [] ∧
      ∃ next, processor.Takes [("first", "on")] (setup ["first", "second"]).config next ∧
        processor.process "second" "on" next =
          (.error (.unexpectedOption "strict!" "second"), next) ∧
        (loader.attach "strict" (setup ["first", "second"])).1 =
          .error (.config (.unexpectedOption "strict" "first")) ∧
        (loader.attach "strict" (setup ["first", "second"])).1 ≠
          .error (.config (.unexpectedOption "strict!" "second")) := by
  have hFirst : (loader.attach "strict" (setup ["first", "second"])).1 =
      .error (.config (.unexpectedOption "strict" "first")) := rfl
  refine ⟨processor_first, exists_registrar, rfl, _, .cons rfl (.nil _), rfl, hFirst, ?_⟩
  rw [hFirst]
  simp

/-- With the two options the other way round, the refusal is reported. -/
theorem refusal_hides_stray :
    Order.First (·.pluginId = "strict") loader.processors processor ∧
      (∃ r ∈ loader.registrars, r.pluginId = "strict") ∧
      loader.attach "strict" (setup ["second", "first"]) =
        (.error (.config (.unexpectedOption "strict!" "second")), setup ["second", "first"]) := by
  have hGiven : (setup ["second", "first"]).config.options "strict" =
      [] ++ ("second", "on") :: [("first", "on")] := rfl
  exact ⟨processor_first, exists_registrar,
    ((attach_reports_first_fault processor_first exists_registrar).2 hGiven (.nil _) rfl).1 nofun⟩

end Loader.Strict
end TwoPhase
