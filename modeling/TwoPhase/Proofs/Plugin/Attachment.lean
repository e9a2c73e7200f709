import TwoPhase.Greeter.Registration
import TwoPhase.Order.First

/-!
# Attaching a plugin

A plugin is attached in several steps, and every one of them may fail: finding its option processor
and its registrar, taking its options one by one, and installing its extensions.  The options are
taken for good, whatever comes of it.  The extensions are not: when a registrar has brought
providers of one kind only, what it has installed is taken out again.

## Strategy

Each step gets an equivalence that says when it succeeds without saying how it goes about it
(`apply_eq_ok_iff`, `install_of_register`).  `Attachment` then lists the five ways in which
attaching can end, and everything else is a case analysis on it.

## Main results

* `apply_eq_ok_iff` — the options are taken exactly if the processor accepts them in order, all of
  them are declared, and none that is required is missing.
* `attachment_of_attach` — the ways in which attaching ends.
* `attach_all_or_nothing` — when it succeeds, and what is installed then and otherwise.
-/

namespace TwoPhase

/-! ## Options -/

namespace OptionProcessor

variable {p : OptionProcessor} {given : List (String × String)} {config last : Configuration}

/-- The processor accepts options one after the other, each with the configuration that the one
before has left. -/
inductive Takes (p : OptionProcessor) :
    List (String × String) → Configuration → Configuration → Prop
  | nil (config : Configuration) : Takes p [] config config
  | cons {name value : String} {rest : List (String × String)} {config next last : Configuration}
      (hTaken : p.process name value config = (.ok (), next)) (hRest : Takes p rest next last) :
      Takes p ((name, value) :: rest) config last

/-- The processor accepts the options of a configuration, all of them are declared, and all that
are required are there. -/
structure Accepts (p : OptionProcessor) (config last : Configuration) : Prop where
  taken : p.Takes (config.options p.pluginId) config last
  declared : ∀ given ∈ config.options p.pluginId, ∃ option ∈ p.options, option.name = given.1
  supplied : ∀ option ∈ p.options, option.required = true →
    ∃ given ∈ config.options p.pluginId, given.1 = option.name

theorem declares_iff {name : String} :
    p.declares name = true ↔ ∃ option ∈ p.options, option.name = name := by
  simp [declares]

theorem takeAll_eq_ok_iff :
    p.takeAll given config = (.ok (), last) ↔
      p.Takes given config last ∧ ∀ entry ∈ given, ∃ option ∈ p.options, option.name = entry.1 := by
  induction given generalizing config with
  | nil =>
      constructor
      · rintro ⟨⟩
        exact ⟨.nil _, nofun⟩
      · rintro ⟨⟨⟩, _⟩
        rfl
  | cons entry rest ih =>
      obtain ⟨name, value⟩ := entry
      rw [List.forall_mem_cons, ← declares_iff, takeAll]
      constructor
      · intro h
        split at h
        · cases h
        · rename_i next hTaken
          split at h
          · rename_i hDeclared
            obtain ⟨hRest, hAll⟩ := ih.1 h
            exact ⟨.cons hTaken hRest, hDeclared, hAll⟩
          · cases h
      · rintro ⟨hTakes, hDeclared, hAll⟩
        cases hTakes with
        | cons hTaken hRest =>
            rw [hTaken]
            exact (if_pos hDeclared).trans (ih.2 ⟨hRest, hAll⟩)

theorem missing?_eq_none_iff :
    p.missing? given = none ↔ ∀ option ∈ p.options, option.required = true →
      ∃ entry ∈ given, entry.1 = option.name := by
  simp [missing?]

/-- **When the options are taken.** -/
theorem apply_eq_ok_iff : p.apply config = (.ok (), last) ↔ p.Accepts config last := by
  rw [apply]
  constructor
  · intro h
    split at h
    · cases h
    · rename_i next hTaken
      split at h
      · cases h
      · rename_i hMissing
        cases h
        obtain ⟨hTakes, hDeclared⟩ := takeAll_eq_ok_iff.1 hTaken
        exact ⟨hTakes, hDeclared, missing?_eq_none_iff.1 hMissing⟩
  · intro h
    rw [takeAll_eq_ok_iff.2 ⟨h.taken, h.declared⟩]
    dsimp only
    rw [missing?_eq_none_iff.2 h.supplied]

end OptionProcessor

/-! ## Extensions -/

namespace Loader

variable {loader : Loader} {id : String} {setup : Setup}

/-- A registrar has brought providers of both kinds or none at all. -/
def Complete (added : Extensions) : Prop := added.declarations = [] ↔ added.bodies = []

/-- **What a registrar brings is installed if it is complete, and taken out again if not.** -/
theorem install_of_register {registrar : Registrar} {added : Extensions} {keys : KeySupply}
    (h : registrar.register setup.config setup.extensions setup.keys =
      (setup.extensions ++ added, keys)) :
    (Complete added → install id registrar setup =
      (.ok (), { setup with keys, extensions := setup.extensions ++ added })) ∧
    (¬ Complete added → install id registrar setup =
      (.error (.incompleteRegistration id added.declarations.length added.bodies.length),
        { setup with keys })) := by
  have hCounts := Extensions.counts_append setup.extensions added
  have hTest : ((added.counts.1 == 0) != (added.counts.2 == 0)) = true ↔ ¬ Complete added := by
    rw [bne_iff_ne]
    refine not_congr ?_
    rw [Bool.eq_iff_iff, beq_iff_eq, beq_iff_eq, Complete, ← List.length_eq_zero_iff,
      ← List.length_eq_zero_iff]
    rfl
  rw [install, h]
  dsimp only
  rw [hCounts, Nat.add_sub_cancel_left, Nat.add_sub_cancel_left, Extensions.truncate_append]
  exact ⟨fun hComplete => if_neg fun hDiffer => hTest.1 hDiffer hComplete,
    fun hIncomplete => if_pos (hTest.2 hIncomplete)⟩

/-! ## The ways in which attaching ends -/

theorem processor?_eq_some_iff {processor : OptionProcessor} :
    loader.processor? id = some processor ↔
      Order.First (·.pluginId = id) loader.processors processor := by
  simp only [processor?, Order.find?_eq_some_iff_first, beq_iff_eq]

theorem registrar?_eq_some_iff {registrar : Registrar} :
    loader.registrar? id = some registrar ↔
      Order.First (·.pluginId = id) loader.registrars registrar := by
  simp only [registrar?, Order.find?_eq_some_iff_first, beq_iff_eq]

theorem processor?_eq_none_iff :
    loader.processor? id = none ↔ ∀ processor ∈ loader.processors, processor.pluginId ≠ id := by
  simp [processor?]

theorem registrar?_eq_none_iff :
    loader.registrar? id = none ↔ ∀ registrar ∈ loader.registrars, registrar.pluginId ≠ id := by
  simp [registrar?]

/-- Attaching comes as far as the extensions: the first processor with the id has accepted the
options, and the first registrar with the id is asked for the extensions. -/
structure Asked (loader : Loader) (id : String) (setup : Setup) (config : Configuration)
    (added : Extensions) (keys : KeySupply) : Prop where
  processor : ∃ processor, Order.First (·.pluginId = id) loader.processors processor ∧
    processor.Accepts setup.config config
  registrar : ∃ registrar, Order.First (·.pluginId = id) loader.registrars registrar ∧
    registrar.register config setup.extensions setup.keys = (setup.extensions ++ added, keys)

/-- How attaching ends, and what it leaves behind. -/
inductive Attachment (loader : Loader) (id : String) (setup : Setup) :
    Except LoadError Unit → Setup → Prop
  | notFound (hProcessor : ∀ processor ∈ loader.processors, processor.pluginId ≠ id) :
      Attachment loader id setup (.error (.pluginNotFound id)) setup
  | mismatch (hProcessor : ∃ processor ∈ loader.processors, processor.pluginId = id)
      (hRegistrar : ∀ registrar ∈ loader.registrars, registrar.pluginId ≠ id) :
      Attachment loader id setup
        (.error (.identityMismatch id (", ".intercalate (loader.registrars.map (·.pluginId)))))
        setup
  /-- The options are refused.  What has been stored before stays in the configuration. -/
  | refused {processor : OptionProcessor} {reason : ConfigError} {config : Configuration}
      (hProcessor : Order.First (·.pluginId = id) loader.processors processor)
      (hRegistrar : ∃ registrar ∈ loader.registrars, registrar.pluginId = id)
      (hRefused : processor.apply setup.config = (.error reason, config)) :
      Attachment loader id setup (.error (.config reason)) { setup with config }
  | incomplete {config : Configuration} {added : Extensions} {keys : KeySupply}
      (hAsked : loader.Asked id setup config added keys) (hIncomplete : ¬ Complete added) :
      Attachment loader id setup
        (.error (.incompleteRegistration id added.declarations.length added.bodies.length))
        { setup with config, keys }
  | installed {config : Configuration} {added : Extensions} {keys : KeySupply}
      (hAsked : loader.Asked id setup config added keys) (hComplete : Complete added) :
      Attachment loader id setup (.ok ()) ⟨config, setup.extensions ++ added, keys⟩

/-- Where attaching comes as far as the extensions, it depends on these alone. -/
theorem attach_of_asked {config : Configuration} {added : Extensions} {keys : KeySupply}
    (h : loader.Asked id setup config added keys) :
    (Complete added →
      loader.attach id setup = (.ok (), ⟨config, setup.extensions ++ added, keys⟩)) ∧
    (¬ Complete added → loader.attach id setup =
      (.error (.incompleteRegistration id added.declarations.length added.bodies.length),
        { setup with config, keys })) := by
  obtain ⟨⟨processor, hProcessor, hAccepts⟩, ⟨registrar, hRegistrar, hRegister⟩⟩ := h
  have hAttach : loader.attach id setup = install id registrar { setup with config } := by
    rw [attach, processor?_eq_some_iff.2 hProcessor, registrar?_eq_some_iff.2 hRegistrar]
    dsimp only
    rw [OptionProcessor.apply_eq_ok_iff.2 hAccepts]
  rw [hAttach]
  exact install_of_register hRegister

theorem attachment_of_attach (loader : Loader) (id : String) (setup : Setup) :
    Attachment loader id setup (loader.attach id setup).1 (loader.attach id setup).2 := by
  cases hProcessor : loader.processor? id with
  | none =>
      rw [attach, hProcessor]
      exact .notFound (processor?_eq_none_iff.1 hProcessor)
  | some processor =>
      have hFirst := processor?_eq_some_iff.1 hProcessor
      cases hRegistrar : loader.registrar? id with
      | none =>
          rw [attach, hProcessor, hRegistrar]
          exact .mismatch ⟨processor, hFirst.mem, hFirst.prop⟩ (registrar?_eq_none_iff.1 hRegistrar)
      | some registrar =>
          have hFirst' := registrar?_eq_some_iff.1 hRegistrar
          rcases hTaken : processor.apply setup.config with ⟨_ | _, config⟩
          · rw [attach, hProcessor, hRegistrar]
            dsimp only
            rw [hTaken]
            exact .refused hFirst ⟨registrar, hFirst'.mem, hFirst'.prop⟩ hTaken
          · obtain ⟨added, hAdded⟩ := registrar.appends config setup.extensions setup.keys
            have hAsked : loader.Asked id setup config added
                (registrar.register config setup.extensions setup.keys).2 :=
              { processor := ⟨processor, hFirst, OptionProcessor.apply_eq_ok_iff.1 hTaken⟩
                registrar := ⟨registrar, hFirst', Prod.ext hAdded rfl⟩ }
            by_cases hComplete : Complete added
            · rw [(attach_of_asked hAsked).1 hComplete]
              exact .installed hAsked hComplete
            · rw [(attach_of_asked hAsked).2 hComplete]
              exact .incomplete hAsked hComplete

/-- **Attaching installs all that a plugin brings, or nothing.**  It succeeds exactly if there are a
processor and a registrar with the id, the first such processor accepts the plugin's options one
after the other, all of these are declared and no required one is missing, and what the first such
registrar then brings is complete.  In this case it stands behind what was installed before.  In
every other case the extensions are those from before, and if the processor or the registrar is
missing, nothing at all has changed. -/
theorem attach_all_or_nothing (loader : Loader) (id : String) (setup : Setup) :
    ((loader.attach id setup).1 = .ok () ↔
      ∃ config added keys, loader.Asked id setup config added keys ∧ Complete added) ∧
    (∀ {config added keys}, loader.Asked id setup config added keys →
      (loader.attach id setup).1 = .ok () →
      (loader.attach id setup).2 = ⟨config, setup.extensions ++ added, keys⟩) ∧
    (∀ {e}, (loader.attach id setup).1 = .error e →
      (loader.attach id setup).2.extensions = setup.extensions) ∧
    ((∀ processor ∈ loader.processors, processor.pluginId ≠ id) →
      loader.attach id setup = (.error (.pluginNotFound id), setup)) ∧
    ((∃ processor ∈ loader.processors, processor.pluginId = id) →
      (∀ registrar ∈ loader.registrars, registrar.pluginId ≠ id) →
      loader.attach id setup = (.error (.identityMismatch id
        (", ".intercalate (loader.registrars.map (·.pluginId)))), setup)) := by
  have hEnd := attachment_of_attach loader id setup
  refine ⟨⟨fun hOk => ?_, ?_⟩, ?_, ?_, ?_, ?_⟩
  · generalize (loader.attach id setup).2 = after at hEnd
    rw [hOk] at hEnd
    cases hEnd with
    | installed hAsked hComplete => exact ⟨_, _, _, hAsked, hComplete⟩
  · rintro ⟨config, added, keys, hAsked, hComplete⟩
    rw [(attach_of_asked hAsked).1 hComplete]
  · intro config added keys hAsked hOk
    by_cases hComplete : Complete added
    · rw [(attach_of_asked hAsked).1 hComplete]
    · rw [(attach_of_asked hAsked).2 hComplete] at hOk
      cases hOk
  · intro e hError
    generalize (loader.attach id setup).2 = after at hEnd ⊢
    rw [hError] at hEnd
    cases hEnd <;> rfl
  · intro hProcessor
    rw [attach, processor?_eq_none_iff.2 hProcessor]
  · rintro ⟨processor, hMem, hId⟩ hRegistrar
    obtain ⟨first, hFirst⟩ : ∃ first, loader.processor? id = some first := by
      rw [← Option.isSome_iff_exists, processor?, List.find?_isSome]
      exact ⟨processor, hMem, by simpa using hId⟩
    rw [attach, hFirst, registrar?_eq_none_iff.2 hRegistrar]

end Loader

/-! ## A sample -/

namespace Loader.Halved

/-- Stores an option that is required. -/
def processor : OptionProcessor where
  pluginId := "halved"
  options := [⟨"mode", "<mode>", "How to greet", true, false⟩]
  process name value config := (.ok (), config.put name value)

/-- Brings declarations, and bodies for them only in one mode. -/
def registrar : Registrar where
  pluginId := "halved"
  register config installed keys :=
    (installed ++ ⟨[Greeter.declarations ⟨0, "halved"⟩],
      if config.get "mode" = ["full"] then [Greeter.bodies ⟨0, "halved"⟩] else []⟩, keys)
  appends _ _ _ := ⟨_, rfl⟩

def loader : Loader := ⟨[Greeter.registrar, registrar], [Greeter.optionProcessor, processor]⟩

/-- A pair of providers is installed, and the plugin is given its option. -/
def setup (mode : String) : Setup :=
  ⟨(Configuration.start "main").addArgument ⟨"halved", "mode", mode⟩, Greeter.pair ⟨0, "first"⟩,
    ⟨1⟩⟩

theorem asked (mode : String) : loader.Asked "halved" (setup mode)
    ((setup mode).config.put "mode" mode)
    ⟨[Greeter.declarations ⟨0, "halved"⟩],
      if mode = "full" then [Greeter.bodies ⟨0, "halved"⟩] else []⟩ ⟨1⟩ where
  processor := by
    have hOptions : (setup mode).config.options processor.pluginId = [("mode", mode)] := rfl
    refine ⟨processor, ⟨[Greeter.optionProcessor], [], rfl, rfl, by decide⟩, ?_, ?_, ?_⟩
    · exact .cons rfl (.nil _)
    · rw [hOptions]
      simp [processor]
    · rw [hOptions]
      simp [processor]
  registrar := by
    have hMode : ((setup mode).config.put "mode" mode).get "mode" = [mode] := rfl
    refine ⟨registrar, ⟨[Greeter.registrar], [], rfl, rfl, by decide⟩, ?_⟩
    simp only [registrar, hMode, List.cons.injEq, and_true]
    rfl

/-- In one mode the plugin is attached behind the other; in another one it brings half of what it
should, and nothing is installed. -/
theorem halved_attached :
    (loader.attach "halved" (setup "full")).2.extensions =
      (setup "full").extensions ++ Greeter.pair ⟨0, "halved"⟩ ∧
    (loader.attach "halved" (setup "brief")).1 =
      .error (.incompleteRegistration "halved" 1 0) ∧
    (loader.attach "halved" (setup "brief")).2.extensions = (setup "brief").extensions ∧
    loader.attach "absent" (setup "full") = (.error (.pluginNotFound "absent"), setup "full") := by
  obtain ⟨hOk, hInstalled, _⟩ := attach_all_or_nothing loader "halved" (setup "full")
  have hFull : (loader.attach "halved" (setup "full")).1 = .ok () :=
    hOk.2 ⟨_, _, _, asked "full", by simp [Complete]⟩
  have hBrief : (loader.attach "halved" (setup "brief")).1 =
      .error (.incompleteRegistration "halved" 1 0) := by
    rw [(attach_of_asked (asked "brief")).2 (by simp [Complete])]
    rfl
  refine ⟨?_, hBrief, ?_, ?_⟩
  · rw [hInstalled (asked "full") hFull]
    rfl
  · exact (attach_all_or_nothing loader "halved" (setup "brief")).2.2.1 hBrief
  · exact (attach_all_or_nothing loader "absent" (setup "full")).2.2.2.1 (by decide)

end Loader.Halved
end TwoPhase
