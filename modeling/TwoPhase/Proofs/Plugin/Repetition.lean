import TwoPhase.Proofs.Plugin.Isolation

/-!
# Options that are given more than once

A plugin declares for each of its options whether it may be given more than once.  The loader does
not look at this mark.  It hands over the options one after the other, checks that each of them is
declared and afterwards that each required one was there, and none of this counts how often an
option was given.  So whether an option can be repeated is up to the processor alone.

## Strategy

A loader is compared with the one whose processors mark their options in another way, function by
function (`apply_remark`, `attach_remark`).  To see that the number of occurrences has no say
either, acceptance is brought into a form that asks of a list of options only what occurs in it
(`apply_isOk_iff`).

## Main results

* `attach_remark` — the marks make no difference.
* `apply_isOk_iff` — which options are accepted by a processor that looks at one at a time.
* `exists_attach_again` — with such a processor, what can be given can be given once more.
* `repetition_is_left_to_processors` — what decides whether an option can be repeated.
* `single_option_repeated` — an option that must not be repeated, given twice.
-/

namespace TwoPhase

/-! ## Other marks -/

namespace OptionProcessor

variable {p : OptionProcessor} {given : List (String × String)} {c c' : Configuration}
  {marks : OptionDecl → Bool}

/-- The processor with other marks of the options that may be given more than once. -/
def remark (p : OptionProcessor) (marks : OptionDecl → Bool) : OptionProcessor :=
  { p with options := p.options.map fun option => { option with repeatable := marks option } }

theorem declares_remark (name : String) : (p.remark marks).declares name = p.declares name := by
  rw [declares, remark, List.any_map]
  rfl

theorem takeAll_remark : (p.remark marks).takeAll given c = p.takeAll given c := by
  induction given generalizing c with
  | nil => rfl
  | cons entry rest ih =>
      have hProcess : (p.remark marks).process = p.process := rfl
      rw [takeAll, takeAll, hProcess]
      rcases p.process entry.1 entry.2 c with ⟨_ | _, next⟩
      · rfl
      · dsimp only
        rw [declares_remark, ih]
        rfl

theorem missing?_remark : (p.remark marks).missing? given =
    (p.missing? given).map fun option => { option with repeatable := marks option } := by
  rw [missing?, remark, List.find?_map]
  rfl

theorem apply_remark : (p.remark marks).apply c = p.apply c := by
  have hId : (p.remark marks).pluginId = p.pluginId := rfl
  rw [apply, apply, hId, takeAll_remark, missing?_remark]
  rcases p.takeAll (c.options p.pluginId) c with ⟨_ | _, next⟩
  · rfl
  · cases p.missing? (c.options p.pluginId) <;> rfl

end OptionProcessor

namespace Loader

variable {loader : Loader} {id : String} {setup : Setup}

/-- The loader whose processors have other marks. -/
def remark (loader : Loader) (marks : OptionProcessor → OptionDecl → Bool) : Loader :=
  { loader with processors := loader.processors.map fun p => p.remark (marks p) }

/-- **The marks make no difference**, neither to the result nor to what is left behind. -/
theorem attach_remark (marks : OptionProcessor → OptionDecl → Bool) :
    (loader.remark marks).attach id setup = loader.attach id setup := by
  have hProcessor : (loader.remark marks).processor? id =
      (loader.processor? id).map fun p => p.remark (marks p) := List.find?_map
  have hRegistrar : (loader.remark marks).registrar? id = loader.registrar? id := rfl
  rw [attach, attach, hProcessor, hRegistrar]
  cases loader.processor? id with
  | none => rfl
  | some p =>
      cases loader.registrar? id with
      | none => rfl
      | some r =>
          rw [Option.map_some]
          dsimp only
          rw [OptionProcessor.apply_remark]

end Loader

/-! ## Other numbers of occurrences -/

namespace OptionProcessor

variable {p : OptionProcessor} {given : List (String × String)} {c c' : Configuration}

/-- A processor that looks at one option at a time takes a list of options exactly if it takes every
single one. -/
theorem takeAll_isOk_iff (hAccepts : p.AcceptsByOption) : (p.takeAll given c).1 = .ok () ↔
    ∀ entry ∈ given, (p.process entry.1 entry.2 c).1 = .ok () ∧ p.declares entry.1 = true := by
  induction given generalizing c with
  | nil => exact iff_of_true rfl nofun
  | cons entry rest ih =>
      rw [List.forall_mem_cons]
      cases hHere : (p.process entry.1 entry.2 c).1 with
      | error reason =>
          rw [takeAll_cons_of_error hHere]
          simp
      | ok _ =>
          -- the rest is taken with another configuration, which does not matter
          have hRest : (p.takeAll rest (p.process entry.1 entry.2 c).2).1 = .ok () ↔
              ∀ other ∈ rest,
                (p.process other.1 other.2 c).1 = .ok () ∧ p.declares other.1 = true := by
            rw [← ih]
            exact ⟨takeAll_isOk hAccepts, takeAll_isOk hAccepts⟩
          rw [takeAll_cons_of_ok hHere, ← hRest]
          cases p.declares entry.1 <;> simp

/-- **Which options are accepted** is a question of what occurs among them. -/
theorem apply_isOk_iff (hAccepts : p.AcceptsByOption) : (p.apply c).1 = .ok () ↔
    (∀ entry ∈ c.options p.pluginId,
      (p.process entry.1 entry.2 c).1 = .ok () ∧ p.declares entry.1 = true) ∧
    ∀ option ∈ p.options, option.required = true →
      ∃ entry ∈ c.options p.pluginId, entry.1 = option.name := by
  rw [← takeAll_isOk_iff hAccepts, ← missing?_eq_none_iff, fst_apply]
  cases (p.takeAll (c.options p.pluginId) c).1 with
  | error reason => simp [bind, Except.bind]
  | ok _ => cases p.missing? (c.options p.pluginId) <;> simp [bind, Except.bind]

/-- Two configurations in which the same options occur are accepted alike. -/
theorem apply_isOk_congr (hAccepts : p.AcceptsByOption)
    (hSame : ∀ entry, entry ∈ c.options p.pluginId ↔ entry ∈ c'.options p.pluginId) :
    (p.apply c).1 = .ok () ↔ (p.apply c').1 = .ok () := by
  have hProcess : ∀ entry : String × String,
      (p.process entry.1 entry.2 c).1 = .ok () ↔ (p.process entry.1 entry.2 c').1 = .ok () :=
    fun entry => ⟨hAccepts entry.1 entry.2 c c', hAccepts entry.1 entry.2 c' c⟩
  rw [apply_isOk_iff hAccepts, apply_isOk_iff hAccepts]
  simp only [hSame, hProcess]

theorem fst_apply_of_accepts (h : p.Accepts c c') : (p.apply c).1 = .ok () := by
  rw [apply_eq_ok_iff.2 h]

/-- The processor accepts no options in which the name occurs twice. -/
def SingleUse (p : OptionProcessor) (name : String) : Prop :=
  ∀ {c last}, p.Accepts c last → ((c.options p.pluginId).map Prod.fst).count name ≤ 1

end OptionProcessor

/-! ## Attaching -/

namespace Loader

variable {loader : Loader} {id : String} {p : OptionProcessor}

/-- How often an option was given to a plugin. -/
def occurrences (setup : Setup) (id name : String) : Nat :=
  ((setup.config.options id).map Prod.fst).count name

/-- The plugin is not attached if the option was given to it twice. -/
def SingleUse (loader : Loader) (id name : String) : Prop :=
  ∀ setup, (loader.attach id setup).1 = .ok () → occurrences setup id name ≤ 1

/-- Where attaching succeeds, the first processor with the id has accepted the options. -/
theorem accepts_of_attach {setup : Setup}
    (hFirst : Order.First (·.pluginId = id) loader.processors p)
    (hOk : (loader.attach id setup).1 = .ok ()) : ∃ config, p.Accepts setup.config config := by
  have hEnd := attachment_of_attach loader id setup
  generalize (loader.attach id setup).2 = after at hEnd
  rw [hOk] at hEnd
  cases hEnd with
  | installed hAsked hComplete =>
      obtain ⟨other, hOther, hAccepts⟩ := hAsked.processor
      have hSame : some other = some p :=
        (processor?_eq_some_iff.2 hOther).symm.trans (processor?_eq_some_iff.2 hFirst)
      cases hSame
      exact ⟨_, hAccepts⟩

/-- Where the registrar always installs what it brings, the processor has the last word. -/
theorem attach_isOk_of_accepts {r : Registrar} {c last : Configuration}
    (hFirst : Order.First (·.pluginId = id) loader.processors p)
    (hRegistrar : Order.First (·.pluginId = id) loader.registrars r)
    (hInstall : ∀ setup, (install id r setup).1 = .ok ()) (hAccepts : p.Accepts c last) :
    (loader.attach id (.start c)).1 = .ok () := by
  obtain ⟨_, hAttach⟩ := attach_of_taken (processor?_eq_some_iff.2 hFirst)
    (registrar?_eq_some_iff.2 hRegistrar) (OptionProcessor.fst_apply_of_accepts hAccepts)
  rw [Setup.start, hAttach]
  exact hInstall _

section Repeated

variable {c c' : Configuration} {installed : Extensions} {keys : KeySupply}
  (hFirst : Order.First (·.pluginId = id) loader.processors p)
  (hAccepts : p.AcceptsByOption) (hRegistrars : ∀ r ∈ loader.registrars, r.IgnoresConfiguration)

include hFirst hAccepts hRegistrars

/-- Attaching succeeds whenever the same options occur, however often each of them does. -/
theorem attach_isOk_of_same (hSame : ∀ entry, entry ∈ c.options id ↔ entry ∈ c'.options id)
    (hOk : (loader.attach id ⟨c, installed, keys⟩).1 = .ok ()) :
    (loader.attach id ⟨c', installed, keys⟩).1 = .ok () := by
  obtain ⟨_, hTaken⟩ := accepts_of_attach hFirst hOk
  have hApply := OptionProcessor.fst_apply_of_accepts hTaken
  have hProcessor : loader.processor? id = some p := processor?_eq_some_iff.2 hFirst
  obtain ⟨_, _, _, rfl, _⟩ := hFirst
  have hApply' := (OptionProcessor.apply_isOk_congr hAccepts hSame).1 hApply
  cases hRegistrar : loader.registrar? p.pluginId with
  | none =>
      rw [attach, hProcessor, hRegistrar] at hOk
      cases hOk
  | some r =>
      obtain ⟨_, hAttach⟩ := attach_of_taken hProcessor hRegistrar hApply
      obtain ⟨_, hAttach'⟩ := attach_of_taken hProcessor hRegistrar hApply'
      have hIgnores := hRegistrars r (List.mem_of_find?_eq_some hRegistrar)
      rw [hAttach] at hOk
      rw [hAttach']
      exact (install_ignores hIgnores).1.symm.trans hOk

/-- An option that can be given at all can be given once more. -/
theorem exists_attach_again {setup : Setup} {name : String}
    (hOk : (loader.attach id setup).1 = .ok ()) (hGiven : occurrences setup id name ≠ 0) :
    ∃ again, (loader.attach id again).1 = .ok () ∧
      occurrences again id name = occurrences setup id name + 1 := by
  have hMem := List.count_pos_iff.1 (Nat.pos_of_ne_zero hGiven)
  obtain ⟨entry, hEntry, rfl⟩ := List.mem_map.1 hMem
  have hOptions := Configuration.options_addArgument setup.config ⟨id, entry.1, entry.2⟩ id
  rw [if_pos rfl] at hOptions
  refine ⟨{ setup with config := setup.config.addArgument ⟨id, entry.1, entry.2⟩ },
    attach_isOk_of_same hFirst hAccepts hRegistrars (fun other => ?_) hOk, ?_⟩
  · rw [hOptions, List.mem_append, List.mem_singleton]
    refine ⟨.inl, ?_⟩
    rintro (hThere | rfl)
    · exact hThere
    · exact hEntry
  · rw [occurrences, occurrences, hOptions]
    simp

end Repeated

/-- **Whether an option can be repeated is up to the processor.**  How processors mark their options
makes no difference.  A plugin is never attached with an option given twice if its processor accepts
no such options and, if nothing else can fail, only then.  A processor that decides by the name and
value of each option alone achieves this only by accepting the option not even once. -/
theorem repetition_is_left_to_processors
    (hFirst : Order.First (·.pluginId = id) loader.processors p) (name : String) :
    (∀ marks setup, (loader.remark marks).attach id setup = loader.attach id setup) ∧
    (p.SingleUse name → loader.SingleUse id name) ∧
    (∀ r, Order.First (·.pluginId = id) loader.registrars r →
      (∀ setup, (install id r setup).1 = .ok ()) →
      (loader.SingleUse id name ↔ p.SingleUse name)) ∧
    (p.AcceptsByOption → (∀ r ∈ loader.registrars, r.IgnoresConfiguration) →
      (loader.SingleUse id name ↔
        ∀ setup, (loader.attach id setup).1 = .ok () → occurrences setup id name = 0)) := by
  have hLoader : p.SingleUse name → loader.SingleUse id name := by
    intro hSingle setup hOk
    obtain ⟨_, hAccepts⟩ := accepts_of_attach hFirst hOk
    have hCount := hSingle hAccepts
    obtain ⟨_, _, _, rfl, _⟩ := hFirst
    exact hCount
  refine ⟨fun marks setup => attach_remark marks, hLoader, ?_, ?_⟩
  · intro r hRegistrar hInstall
    refine ⟨fun hSingle c last hAccepts => ?_, hLoader⟩
    have hCount := hSingle _ (attach_isOk_of_accepts hFirst hRegistrar hInstall hAccepts)
    obtain ⟨_, _, _, rfl, _⟩ := hFirst
    exact hCount
  · intro hAccepts hRegistrars
    refine ⟨fun hSingle setup hOk => ?_, fun hNever setup hOk => by simp [hNever setup hOk]⟩
    by_cases hGiven : occurrences setup id name = 0
    · exact hGiven
    · obtain ⟨again, hAgain, hMore⟩ :=
        exists_attach_again hFirst hAccepts hRegistrars hOk hGiven
      have hCount := hSingle again hAgain
      omega

end Loader

/-! ## A sample -/

namespace Loader.Single

/-- An option that must be given, and not more than once. -/
def mode : OptionDecl := ⟨"mode", "<mode>", "How to greet", true, false⟩

/-- Stores whatever it is given. -/
def lenient : OptionProcessor where
  pluginId := "single"
  options := [mode]
  process name value config := (.ok (), config.put name value)

/-- Refuses an option that it has stored already. -/
def guarded : OptionProcessor where
  pluginId := "single"
  options := [mode]
  process name value config :=
    if config.get name = [] then (.ok (), config.put name value)
    else (.error (.unexpectedOption "single" name), config)

/-- Brings a pair of providers. -/
def registrar : Registrar where
  pluginId := "single"
  register _ installed keys := (installed ++ Greeter.pair ⟨0, "single"⟩, keys)
  appends _ _ _ := ⟨_, rfl⟩

def loader (p : OptionProcessor) : Loader := ⟨[registrar], [p]⟩

/-- The option, given with the values in order. -/
def setup (values : List String) : Setup :=
  .start (.given "main" (values.map (⟨"single", "mode", ·⟩)))

/-- The option is given twice although it must not be, and the plugin is attached. -/
theorem single_option_repeated :
    Order.First (·.pluginId = "single") (loader lenient).processors lenient ∧
      mode ∈ lenient.options ∧ mode.repeatable = false ∧
      ((loader lenient).attach "single" (setup ["fast", "slow"])).1 = .ok () ∧
      occurrences (setup ["fast", "slow"]) "single" mode.name = 2 :=
  ⟨⟨[], [], rfl, rfl, nofun⟩, List.mem_singleton_self mode, rfl, rfl, by decide⟩

/-- What is guarded is taken once, and not at all if something is stored for it. -/
theorem count_of_takes {given : List (String × String)} {c last : Configuration} {name : String}
    (h : guarded.Takes given c last) : (given.map Prod.fst).count name ≤ 1 ∧
      (c.get name ≠ [] → (given.map Prod.fst).count name = 0) := by
  induction h with
  | nil c => simp
  | @cons other value rest c next last hTaken _ ih =>
      have hTaken' : (if c.get other = [] then (Except.ok (), c.put other value)
          else (.error (ConfigError.unexpectedOption "single" other), c)) = (.ok (), next) := hTaken
      split at hTaken'
      · rename_i hNew
        obtain rfl : c.put other value = next := (Prod.ext_iff.1 hTaken').2
        rw [List.map_cons, List.count_cons]
        by_cases hSame : other = name
        · subst hSame
          -- it is stored now, so the rest does not have it
          have hRest := ih.2 (by simp [Configuration.get_put])
          exact ⟨by simp [hRest], fun hStored => absurd hNew hStored⟩
        · have hGet : (c.put other value).get name = c.get name := by
            simp [Configuration.get_put, hSame]
          rw [hGet] at ih
          simpa [hSame] using ih
      · cases hTaken'

/-- A processor that is on its guard sees to it that the option is given once.  The other one does
not, whatever the mark says. -/
theorem single_option_guarded :
    Order.First (·.pluginId = "single") (loader guarded).processors guarded ∧
      guarded.SingleUse mode.name ∧ (loader guarded).SingleUse "single" mode.name ∧
      ((loader guarded).attach "single" (setup ["fast"])).1 = .ok () ∧
      Order.First (·.pluginId = "single") (loader lenient).processors lenient ∧
      lenient.AcceptsByOption ∧ (∀ r ∈ (loader lenient).registrars, r.IgnoresConfiguration) ∧
      ¬ (loader lenient).SingleUse "single" mode.name := by
  have hGuarded : Order.First (·.pluginId = "single") (loader guarded).processors
      guarded := ⟨[], [], rfl, rfl, nofun⟩
  have hLenient : Order.First (·.pluginId = "single") (loader lenient).processors
      lenient := ⟨[], [], rfl, rfl, nofun⟩
  have hSingle : guarded.SingleUse mode.name := fun hAccepts => (count_of_takes hAccepts.taken).1
  have hByOption : lenient.AcceptsByOption := fun _ _ _ _ _ => rfl
  have hRegistrars : ∀ r ∈ (loader lenient).registrars, r.IgnoresConfiguration := by
    intro r hMem c c' installed keys
    cases List.mem_singleton.1 hMem
    rfl
  obtain ⟨-, hUse, -, -⟩ := repetition_is_left_to_processors hGuarded mode.name
  obtain ⟨-, -, -, hNever⟩ := repetition_is_left_to_processors hLenient mode.name
  refine ⟨hGuarded, hSingle, hUse hSingle, rfl, hLenient, hByOption, hRegistrars, fun hOnce => ?_⟩
  have hAbsent := (hNever hByOption hRegistrars).1 hOnce (setup ["fast"]) rfl
  exact absurd hAbsent (by decide)

end Loader.Single
end TwoPhase
