import Mathlib.Logic.Relation
import TwoPhase.Lowering
import TwoPhase.Proofs.Symbol.Definition

/-!
# Climbing a hierarchy

A lineage is collected step by step, from a class up, and superclasses may go round.  The
climb therefore stops at a class that it has collected already, and it is given as many steps as
there are classes.

## Strategy

`Climbs` says what the climb does without counting steps.  Every step uses up one class of the
table that is not collected yet, so the steps suffice (`climbs_lineage`).  `Above` lists the
superclasses of a class where they do not go round; there the guard never fires, and the climb
collects exactly these (`lineage_of_above`).

## Main results

* `climbs_lineage`, `lineage_nodup` — the climb comes to its end and collects no class twice.
* `Above.grounded`, `exists_above_of_grounded` — the superclasses of a class can be listed exactly
  if they do not go round.
* `lineage_of_extends` — then a lineage is that of the superclass, with the class at its end.
-/

namespace TwoPhase.SymbolTable

open Relation (ReflTransGen TransGen)

variable {t : SymbolTable}

/-! ## The climb -/

/-- The climb from the classes collected so far and the superclass to be looked at next, to the
classes collected in the end. -/
inductive Climbs (t : SymbolTable) : List ClassDecl → Option ClassId → List ClassDecl → Prop
  /-- The class collected last names no superclass. -/
  | top (collected : List ClassDecl) : Climbs t collected none collected
  /-- It names a superclass that is not declared. -/
  | undeclared {collected : List ClassDecl} {id : ClassId} (hNone : t.class? id = none) :
      Climbs t collected (some id) collected
  /-- It names a superclass that is collected already. -/
  | again {collected : List ClassDecl} {id : ClassId} {parent : ClassDecl}
      (hParent : t.class? id = some parent) (hSeen : parent.id ∈ collected.map ClassDecl.id) :
      Climbs t collected (some id) collected
  | up {collected result : List ClassDecl} {id : ClassId} {parent : ClassDecl}
      (hParent : t.class? id = some parent) (hNew : parent.id ∉ collected.map ClassDecl.id)
      (hRest : Climbs t (parent :: collected) parent.supertype result) :
      Climbs t collected (some id) result

/-- The classes of the table that are not collected yet. -/
def missing (t : SymbolTable) (collected : List ClassDecl) : List ClassDecl :=
  t.classes.filter (·.id ∉ collected.map ClassDecl.id)

/-- Collecting a class of the table leaves fewer of them. -/
theorem missing_cons_lt {collected : List ClassDecl} {parent : ClassDecl}
    (hMem : parent ∈ t.classes) (hNew : parent.id ∉ collected.map ClassDecl.id) :
    (t.missing (parent :: collected)).length < (t.missing collected).length := by
  have hFewer : t.missing (parent :: collected) =
      (t.missing collected).filter (·.id ≠ parent.id) := by
    rw [missing, missing, List.filter_filter]
    refine List.filter_congr fun decl _ => ?_
    simp [not_or]
  have hHere : parent ∈ t.missing collected :=
    List.mem_filter.2 ⟨hMem, decide_eq_true hNew⟩
  rw [hFewer]
  exact List.length_filter_lt_length_iff_exists.2 ⟨parent, hHere, by simp⟩

/-- How the climb tests whether a class is collected. -/
theorem any_id_iff {collected : List ClassDecl} {id : ClassId} :
    collected.any (·.id == id) = true ↔ id ∈ collected.map ClassDecl.id := by
  simp

/-- With a step for every class that is missing, the climb comes to its end. -/
theorem climbs_climb :
    ∀ (steps : Nat) (collected : List ClassDecl) (next : Option ClassId),
      (t.missing collected).length ≤ steps →
      Climbs t collected next (t.climb steps collected next) := by
  intro steps
  induction steps with
  | zero =>
      intro collected next hSteps
      rw [climb]
      cases next with
      | none => exact .top collected
      | some id =>
          cases hParent : t.class? id with
          | none => exact .undeclared hParent
          | some parent =>
              -- nothing is missing, so this class has been collected
              refine .again hParent (Classical.byContradiction fun hNew => ?_)
              have hLess := missing_cons_lt (class?_eq_some_iff.1 hParent).1 hNew
              omega
  | succ steps ih =>
      intro collected next hSteps
      cases next with
      | none => exact .top collected
      | some id =>
          rw [climb]
          cases hParent : t.class? id with
          | none => exact .undeclared hParent
          | some parent =>
              dsimp only
              by_cases hSeen : parent.id ∈ collected.map ClassDecl.id
              · rw [if_pos (any_id_iff.2 hSeen)]
                exact .again hParent hSeen
              · rw [if_neg (mt any_id_iff.1 hSeen)]
                have hLess := missing_cons_lt (class?_eq_some_iff.1 hParent).1 hSeen
                exact .up hParent hSeen (ih _ _ (by omega))

/-- **The climb comes to its end**, also where superclasses go round. -/
theorem climbs_lineage (t : SymbolTable) (decl : ClassDecl) :
    Climbs t [decl] decl.supertype (t.lineage decl) :=
  climbs_climb _ _ _ (List.length_filter_le _ _)

theorem Climbs.nodup {collected result : List ClassDecl} {next : Option ClassId}
    (h : Climbs t collected next result) (hNodup : (collected.map ClassDecl.id).Nodup) :
    (result.map ClassDecl.id).Nodup := by
  induction h with
  | top => exact hNodup
  | undeclared => exact hNodup
  | again => exact hNodup
  | up _ hNew _ ih => exact ih (List.nodup_cons.2 ⟨hNew, hNodup⟩)

/-- No class is collected twice. -/
theorem lineage_nodup (t : SymbolTable) (decl : ClassDecl) :
    ((t.lineage decl).map ClassDecl.id).Nodup :=
  (climbs_lineage t decl).nodup (List.nodup_cons.2 ⟨List.not_mem_nil, List.nodup_nil⟩)

/-! ## Superclasses that do not go round -/

/-- The class names the other one as its superclass, and the table has that one. -/
def Extends (t : SymbolTable) (child parent : ClassDecl) : Prop :=
  ∃ id, child.supertype = some id ∧ t.class? id = some parent

/-- Following superclasses from a class never leads round. -/
def Grounded (t : SymbolTable) (decl : ClassDecl) : Prop :=
  ∀ other, ReflTransGen t.Extends decl other → ¬ TransGen t.Extends other other

/-- The superclasses of a class up to one that has none in the table, the outermost first. -/
inductive Above (t : SymbolTable) : ClassDecl → List ClassDecl → Prop
  | top {decl : ClassDecl} (hTop : ∀ parent, ¬ t.Extends decl parent) : Above t decl []
  | step {decl parent : ClassDecl} {above : List ClassDecl} (hParent : t.Extends decl parent)
      (hRest : Above t parent above) : Above t decl (above ++ [parent])

variable {decl child parent : ClassDecl} {above : List ClassDecl}

/-- A class has at most one superclass. -/
theorem Extends.unique {other : ClassDecl} (h : t.Extends child parent)
    (h' : t.Extends child other) : parent = other := by
  obtain ⟨id, hSuper, hClass⟩ := h
  obtain ⟨id', hSuper', hClass'⟩ := h'
  cases hSuper.symm.trans hSuper'
  exact Option.some.inj (hClass.symm.trans hClass')

theorem Extends.mem (h : t.Extends child parent) : parent ∈ t.classes := by
  obtain ⟨id, _, hClass⟩ := h
  exact (class?_eq_some_iff.1 hClass).1

theorem Grounded.of_extends (h : t.Grounded child) (hExtends : t.Extends child parent) :
    t.Grounded parent :=
  fun other hOther => h other (.head hExtends hOther)

/-- From the superclass of a class one comes everywhere that one comes from the class. -/
theorem Extends.reaches {other : ClassDecl} (hExtends : t.Extends child parent)
    (h : TransGen t.Extends child other) : ReflTransGen t.Extends parent other := by
  obtain ⟨next, hNext, hRest⟩ := Relation.TransGen.head'_iff.1 h
  exact hExtends.unique hNext ▸ hRest

/-- Where the superclasses of a class can be listed, they do not go round. -/
theorem Above.grounded (h : t.Above decl above) : t.Grounded decl := by
  induction h with
  | top hTop =>
      intro other hOther hRound
      rcases Relation.ReflTransGen.cases_head hOther with rfl | ⟨next, hNext, _⟩
      · obtain ⟨next, hNext, _⟩ := Relation.TransGen.head'_iff.1 hRound
        exact hTop next hNext
      · exact hTop next hNext
  | @step decl parent above hParent _ ih =>
      intro other hOther hRound
      rcases Relation.ReflTransGen.cases_head hOther with rfl | ⟨next, hNext, hRest⟩
      · -- a round through the class is one through its superclass
        have hBack : ReflTransGen t.Extends parent decl := hParent.reaches hRound
        exact ih decl hBack hRound
      · exact ih other (hParent.unique hNext ▸ hRest) hRound

/-- A climb that has only come through subclasses never meets a class again. -/
theorem Climbs.exists_above {collected result : List ClassDecl} {next : Option ClassId}
    (h : Climbs t collected next result) :
    ∀ {here : ClassDecl}, next = here.supertype → t.Grounded here →
      (∀ decl ∈ collected, decl ∈ t.classes ∧ ReflTransGen t.Extends decl here) →
      ∃ above, t.Above here above ∧ result = above ++ collected := by
  induction h with
  | top collected =>
      intro here hNext _ _
      refine ⟨[], .top ?_, rfl⟩
      rintro parent ⟨id, hSuper, _⟩
      cases hNext.trans hSuper
  | @undeclared collected id hNone =>
      intro here hNext _ _
      refine ⟨[], .top ?_, rfl⟩
      rintro parent ⟨id', hSuper, hClass⟩
      cases hNext.trans hSuper
      cases hNone.symm.trans hClass
  | @again collected id parent hParent hSeen =>
      intro here hNext hGrounded hBelow
      obtain ⟨other, hOther, hId⟩ := List.mem_map.1 hSeen
      obtain ⟨hMem, hReaches⟩ := hBelow other hOther
      have hSame : other = parent := by
        have hFound := class?_eq_some_iff.2 ⟨hMem, hId⟩
        rw [(class?_eq_some_iff.1 hParent).2] at hFound
        exact Option.some.inj (hFound.symm.trans hParent)
      subst hSame
      exact absurd (.head' ⟨id, hNext.symm, hParent⟩ hReaches) (hGrounded here .refl)
  | @up collected result id parent hParent hNew _ ih =>
      intro here hNext hGrounded hBelow
      have hExtends : t.Extends here parent := ⟨id, hNext.symm, hParent⟩
      obtain ⟨above, hAbove, hResult⟩ := ih rfl (hGrounded.of_extends hExtends) (by
        intro decl hDecl
        rcases List.mem_cons.1 hDecl with rfl | hDecl
        · exact ⟨hExtends.mem, .refl⟩
        · obtain ⟨hMem, hReaches⟩ := hBelow decl hDecl
          exact ⟨hMem, hReaches.tail hExtends⟩)
      refine ⟨above ++ [parent], .step hExtends hAbove, ?_⟩
      rw [hResult, List.append_assoc, List.singleton_append]

/-- There is only one list of the superclasses of a class. -/
theorem Above.unique (h : t.Above decl above) :
    ∀ {other : List ClassDecl}, t.Above decl other → above = other := by
  induction h with
  | top hTop =>
      intro other hOther
      cases hOther with
      | top => rfl
      | step hParent _ => exact absurd hParent (hTop _)
  | step hParent _ ih =>
      intro other hOther
      cases hOther with
      | top hTop => exact absurd hParent (hTop _)
      | step hParent' hRest =>
          obtain rfl := hParent.unique hParent'
          rw [ih hRest]

/-- Where superclasses do not go round, the climb collects all of them. -/
theorem exists_above_of_grounded (hMem : decl ∈ t.classes) (hGrounded : t.Grounded decl) :
    ∃ above, t.Above decl above ∧ t.lineage decl = above ++ [decl] := by
  refine (climbs_lineage t decl).exists_above rfl hGrounded fun other hOther => ?_
  obtain rfl := List.mem_singleton.1 hOther
  exact ⟨hMem, .refl⟩

theorem lineage_of_above (hMem : decl ∈ t.classes) (h : t.Above decl above) :
    t.lineage decl = above ++ [decl] := by
  obtain ⟨above', hAbove, hLineage⟩ := exists_above_of_grounded hMem h.grounded
  rw [hLineage, h.unique hAbove]

/-- **The lineage of a class is that of its superclass, and the class.** -/
theorem lineage_of_extends (hMem : child ∈ t.classes) (hGrounded : t.Grounded child)
    (h : t.Extends child parent) : t.lineage child = t.lineage parent ++ [child] := by
  obtain ⟨above, hAbove, hParent⟩ := exists_above_of_grounded h.mem (hGrounded.of_extends h)
  rw [lineage_of_above hMem (.step h hAbove), hParent]

end TwoPhase.SymbolTable
