import Mathlib.Algebra.BigOperators.Group.List.Defs
import TwoPhase.Configuration

/-!
# The form of an option

An option is written `plugin:<id>:<key>=<value>`.  The three parts may hold separators of their own,
so the same text could be taken apart in several ways.  Two rules make the form unambiguous: neither
id nor key holds a `=`, and the key holds no `:`.  Reading finds the parts by cutting at the first
`=` and then at the last `:` in front of it, and it is the inverse of writing on arguments that keep
to these rules.

## Strategy

A cut is pinned down by what it finds (`cutFirst_eq_some_iff`, `cutLast_eq_some_iff`), so
`split?_eq_some_iff` is a sequence of such equivalences.  Uniqueness then needs no argument about
texts: one text is read in one way.

## Main results

* `parse_eq_ok_iff` — what is read, and that everything well formed is.
* `parse_inverts_text` — reading and writing, uniqueness, and the error for all other texts.
-/

namespace TwoPhase.PluginArgument

variable {raw : String} {a b : PluginArgument} {plugin name value : List Char}

/-- The argument as it is written. -/
def text (a : PluginArgument) : String := s!"plugin:{a.plugin}:{a.name}={a.value}"

/-- The parts of an argument can be told apart when it is written: the separators stand where a
reader looks for them. -/
structure WellFormed (a : PluginArgument) : Prop where
  plugin_ne : a.plugin ≠ ""
  plugin_no_equals : '=' ∉ a.plugin.toList
  name_ne : a.name ≠ ""
  name_no_colon : ':' ∉ a.name.toList
  name_no_equals : '=' ∉ a.name.toList

theorem toList_text (a : PluginArgument) : a.text.toList =
    "plugin:".toList ++ ((a.plugin.toList ++ ':' :: a.name.toList) ++ '=' :: a.value.toList) := by
  simp only [text, toString, String.toList_append, List.append_assoc]
  rfl

theorem split?_eq_some_iff {raw : List Char} : split? raw = some (plugin, name, value) ↔
    raw = "plugin:".toList ++ ((plugin ++ ':' :: name) ++ '=' :: value) ∧
      (plugin ≠ [] ∧ '=' ∉ plugin) ∧ name ≠ [] ∧ ':' ∉ name ∧ '=' ∉ name := by
  simp only [split?, Option.bind_eq_bind, Option.bind_eq_some_iff, Prod.exists,
    List.isPrefixOf?_eq_some_iff_append_eq, Text.cutFirst_eq_some_iff, Text.cutLast_eq_some_iff,
    Option.ite_none_left_eq_some, Option.some.injEq, Prod.mk.injEq]
  constructor
  · rintro ⟨_, rfl, _, _, ⟨rfl, hHead⟩, id, key, ⟨rfl, hColon⟩, hSome, rfl, rfl, rfl⟩
    obtain ⟨hPluginEquals, hEquals⟩ : '=' ∉ id ∧ '=' ∉ key := by simpa using hHead
    obtain ⟨hPlugin, hName⟩ : id ≠ [] ∧ key ≠ [] := by simpa using hSome
    exact ⟨rfl, ⟨hPlugin, hPluginEquals⟩, hName, hColon, hEquals⟩
  · rintro ⟨rfl, ⟨hPlugin, hPluginEquals⟩, hName, hColon, hEquals⟩
    refine ⟨_, rfl, _, value, ⟨rfl, ?_⟩, plugin, name, ⟨rfl, hColon⟩, ?_, rfl, rfl, rfl⟩
    · simp [hPluginEquals, hEquals]
    · simp [hPlugin, hName]

theorem parse_eq_ok_iff_split? : parse raw = .ok a ↔
    split? raw.toList = some (a.plugin.toList, a.name.toList, a.value.toList) := by
  rw [parse]
  cases split? raw.toList with
  | none => simp
  | some parts =>
      obtain ⟨plugin, name, value⟩ := parts
      constructor
      · rintro ⟨⟩
        simp
      · intro h
        cases h
        simp

/-- **What is read** is what is well formed and written there. -/
theorem parse_eq_ok_iff : parse raw = .ok a ↔ raw = a.text ∧ a.WellFormed := by
  rw [parse_eq_ok_iff_split?, split?_eq_some_iff, ← toList_text, String.toList_inj]
  refine and_congr_right fun _ => ?_
  constructor
  · rintro ⟨⟨hPlugin, hPluginEquals⟩, hName, hColon, hEquals⟩
    exact ⟨by simpa using hPlugin, hPluginEquals, by simpa using hName, hColon, hEquals⟩
  · intro h
    exact ⟨⟨by simpa using h.plugin_ne, h.plugin_no_equals⟩, by simpa using h.name_ne,
      h.name_no_colon, h.name_no_equals⟩

/-- What cannot be read is handed back as it is. -/
theorem parse_eq_error_iff {e : ConfigError} :
    parse raw = .error e ↔ e = .malformedOption raw ∧ ¬ ∃ a, raw = text a ∧ a.WellFormed := by
  simp only [← parse_eq_ok_iff]
  rw [parse]
  cases split? raw.toList with
  | none => simp [eq_comm]
  | some parts => simp

/-- **Reading is the inverse of writing.**  A text is read as an argument exactly if the argument is
written so and is well formed.  No text is written for two well formed arguments.  Every other text
is refused, with an error that holds it unchanged. -/
theorem parse_inverts_text :
    (∀ raw a, parse raw = .ok a ↔ raw = a.text ∧ a.WellFormed) ∧
    (∀ {a b}, a.WellFormed → b.WellFormed → text a = text b → a = b) ∧
    ∀ raw e, parse raw = .error e ↔
      e = .malformedOption raw ∧ ¬ ∃ a, raw = text a ∧ a.WellFormed := by
  refine ⟨fun _ _ => parse_eq_ok_iff, ?_, fun _ _ => parse_eq_error_iff⟩
  intro a b ha hb hText
  have hA : parse a.text = .ok a := parse_eq_ok_iff.2 ⟨rfl, ha⟩
  have hB : parse a.text = .ok b := parse_eq_ok_iff.2 ⟨hText, hb⟩
  exact Except.ok.inj (hA.symm.trans hB)

/-- An argument with separators in its id and in its value. -/
def winding : PluginArgument := ⟨"org:demo", "greeting", "a=b:c"⟩

theorem winding_wellFormed : winding.WellFormed :=
  ⟨by decide, by decide, by decide, by decide, by decide⟩

/-- It is read back, and written for no other argument.  A text that is refused, since the id would
hold a `=`, is written for none. -/
theorem winding_read_back : winding.WellFormed ∧
    parse "plugin:org:demo:greeting=a=b:c" = .ok winding ∧
    (∀ b, b.WellFormed → text b = "plugin:org:demo:greeting=a=b:c" → b = winding) ∧
    ¬ ∃ b, "plugin:a=b:c" = text b ∧ b.WellFormed := by
  obtain ⟨hRead, hUnique, hRefused⟩ := parse_inverts_text
  have hText : "plugin:org:demo:greeting=a=b:c" = winding.text := by decide
  refine ⟨winding_wellFormed, (hRead _ _).2 ⟨hText, winding_wellFormed⟩, ?_, ?_⟩
  · intro b hb hWritten
    exact hUnique hb winding_wellFormed (hWritten.trans hText)
  · have hParse : parse "plugin:a=b:c" = .error (.malformedOption "plugin:a=b:c") := rfl
    exact ((hRefused _ _).1 hParse).2

end TwoPhase.PluginArgument
