import Mathlib.Algebra.Order.Ring.Nat
import TwoPhase.Ir.Module
import TwoPhase.Proofs.Order.Growth

/-!
# Additions to a module

A module is filled by additions of bodies and class layouts, in any order and with any repetition of
callables and classes.  A lookup takes a place from an index and reads the list at this place alone.
What it answers is said here in terms of the additions, without indices and places.

## Strategy

That an index fits its list is part of what a module is, and each addition keeps it.  Hence a lookup
is a search of the list from its end (`body?_eq_some_iff_last`), and it is enough to follow the two
lists through the additions (`Holds`): nothing is taken out and nothing is left out.

## Main results

* `body?_add_other`, `class?_add_other` — an addition changes lookups under its own name alone.
* `Holds.add`, `Holds.after` — what the lists hold, kept by one addition and by a run.
* `lookups_find_last_added` — the account of every run of additions.
-/

namespace TwoPhase.Ir.Module

/-- An addition to a module. -/
inductive Addition where
  | body (body : Body)
  | classLike (layout : ClassLayout)
deriving DecidableEq, Repr

namespace Addition

def body? : Addition → Option Body
  | body b => some b
  | classLike _ => none

def layout? : Addition → Option ClassLayout
  | body _ => none
  | classLike layout => some layout

/-- The bodies among additions, shadowed ones included. -/
def bodies (added : List Addition) : List Body := added.filterMap body?

/-- The layouts among additions, shadowed ones included. -/
def layouts (added : List Addition) : List ClassLayout := added.filterMap layout?

end Addition

/-- The module after an addition. -/
def add (m : Module) : Addition → Module
  | .body body => m.addBody body
  | .classLike layout => m.addClass layout

/-- The module after additions, one after the other. -/
def after (m : Module) (added : List Addition) : Module := added.foldl add m

variable {m : Module} {name : String} {added : List Addition}

/-! ## One addition -/

/-- **An addition changes no lookup under another callable**, and that of a layout none at all. -/
theorem body?_add_other {a : Addition} {callable : CallableId}
    (h : ∀ body, a.body? = some body → body.callable ≠ callable) :
    (m.add a).body? callable = m.body? callable := by
  cases a with
  | body body => rw [add, body?_addBody, if_neg (h body rfl)]
  | classLike layout => rfl

/-- **An addition changes no lookup under another class**, and that of a body none at all. -/
theorem class?_add_other {a : Addition} {id : ClassId}
    (h : ∀ layout, a.layout? = some layout → layout.id ≠ id) :
    (m.add a).class? id = m.class? id := by
  cases a with
  | body body => rfl
  | classLike layout => rw [add, class?_addClass, if_neg (h layout rfl)]

/-- Nothing is found for a callable that no body is for. -/
theorem body?_eq_none_iff {callable : CallableId} :
    m.body? callable = none ↔ ∀ body ∈ m.bodies, body.callable ≠ callable := by
  simp [body?_eq_find?]

theorem class?_eq_none_iff {id : ClassId} :
    m.class? id = none ↔ ∀ layout ∈ m.classes, layout.id ≠ id := by
  simp [class?_eq_find?]

theorem instructionCount_eq_sum (m : Module) :
    m.instructionCount = (m.bodies.map Body.instructionCount).sum := by
  rw [instructionCount, List.sum, List.foldr_map]

/-! ## A run of additions -/

/-- The module holds what was added, in this order. -/
structure Holds (m : Module) (name : String) (added : List Addition) : Prop where
  name_eq : m.name = name
  bodies : m.bodies = Addition.bodies added
  classes : m.classes = Addition.layouts added

theorem holds_start (name : String) : (start name).Holds name [] := ⟨rfl, rfl, rfl⟩

/-- **One addition keeps what is held.** -/
theorem Holds.add (h : m.Holds name added) (a : Addition) :
    (m.add a).Holds name (added ++ [a]) := by
  have hBodies : Addition.bodies (added ++ [a]) = m.bodies ++ a.body?.toList := by
    rw [h.bodies, Addition.bodies, List.filterMap_append]
    cases a <;> rfl
  have hLayouts : Addition.layouts (added ++ [a]) = m.classes ++ a.layout?.toList := by
    rw [h.classes, Addition.layouts, List.filterMap_append]
    cases a <;> rfl
  cases a with
  | body body => exact ⟨h.name_eq, hBodies.symm, (hLayouts.trans (List.append_nil _)).symm⟩
  | classLike layout => exact ⟨h.name_eq, (hBodies.trans (List.append_nil _)).symm, hLayouts.symm⟩

/-- **A run of additions keeps what is held.** -/
theorem Holds.after (h : m.Holds name added) (more : List Addition) :
    (m.after more).Holds name (added ++ more) := by
  induction more generalizing m added with
  | nil => rwa [List.append_nil]
  | cons a rest ih =>
      have hRest := ih (h.add a)
      rwa [List.append_assoc] at hRest

/-! ## The account of a history -/

/-- What can be read from a module, in terms of what was added to it. -/
structure Account (m : Module) (name : String) (added : List Addition) : Prop where
  name_eq : m.name = name
  /-- Every addition is kept, in order. -/
  bodies : m.bodies = Addition.bodies added
  classes : m.classes = Addition.layouts added
  /-- The body of a callable is the last one that was added for it. -/
  body? : ∀ callable body, m.body? callable = some body ↔
    Order.Last (·.callable = callable) (Addition.bodies added) body
  body?_none : ∀ callable, m.body? callable = none ↔
    ∀ body ∈ Addition.bodies added, body.callable ≠ callable
  /-- The layout of a class is the last one that was added for it. -/
  class? : ∀ id layout, m.class? id = some layout ↔
    Order.Last (·.id = id) (Addition.layouts added) layout
  class?_none : ∀ id, m.class? id = none ↔ ∀ layout ∈ Addition.layouts added, layout.id ≠ id
  /-- The indices hold the last place of each name, and so never a place outside the lists. -/
  bodyPlace : ∀ callable place, m.bodyPlaces.get? callable = some place ↔
    ((Addition.bodies added).map Body.callable)[place]? = some callable ∧
      ∀ later, place < later → ((Addition.bodies added).map Body.callable)[later]? ≠ some callable
  classPlace : ∀ id place, m.classPlaces.get? id = some place ↔
    ((Addition.layouts added).map ClassLayout.id)[place]? = some id ∧
      ∀ later, place < later → ((Addition.layouts added).map ClassLayout.id)[later]? ≠ some id
  /-- An addition under one name changes no lookup under another one. -/
  body?_other : ∀ a callable, (∀ body, a.body? = some body → body.callable ≠ callable) →
    (m.add a).body? callable = m.body? callable
  class?_other : ∀ a id, (∀ layout, a.layout? = some layout → layout.id ≠ id) →
    (m.add a).class? id = m.class? id
  /-- Shadowed bodies count too. -/
  instructionCount : m.instructionCount =
    ((Addition.bodies added).map Body.instructionCount).sum

theorem Holds.account (h : m.Holds name added) : m.Account name added where
  name_eq := h.name_eq
  bodies := h.bodies
  classes := h.classes
  body? _ _ := by rw [body?_eq_some_iff_last, h.bodies]
  body?_none _ := by rw [body?_eq_none_iff, h.bodies]
  class? _ _ := by rw [class?_eq_some_iff_last, h.classes]
  class?_none _ := by rw [class?_eq_none_iff, h.classes]
  bodyPlace _ _ := by rw [m.bodyPlaces_eq, Order.Places.get?_of_eq_some_iff, h.bodies]
  classPlace _ _ := by rw [m.classPlaces_eq, Order.Places.get?_of_eq_some_iff, h.classes]
  body?_other _ _ hOther := body?_add_other hOther
  class?_other _ _ hOther := class?_add_other hOther
  instructionCount := by rw [instructionCount_eq_sum, h.bodies]

/-- **After any additions a lookup finds the last body or layout that was added under its name**,
although it reads a single place of the list; and nothing that was added is lost. -/
theorem lookups_find_last_added (name : String) (added : List Addition) :
    ((start name).after added).Account name added :=
  ((holds_start name).after added).account

end TwoPhase.Ir.Module
