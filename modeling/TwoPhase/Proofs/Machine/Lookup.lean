import Mathlib.Data.List.Perm.Subperm
import TwoPhase.Proofs.Machine.Construction
import TwoPhase.Proofs.Machine.Control

/-!
# How a method is found

A method is searched for in the class of the receiver, then in the superclass of that class, and so
on.  Superclasses may go round.  Resolution and layout keep a note of the classes they have seen
and come to their end all the same; the search keeps none.

## Strategy

`Climb` follows superclasses up to the first class that meets a condition, and lists the classes
on the way.  What a climb does is settled by where it starts (`Climb.unique`), so it cannot come
through one class twice (`Climb.nodup`), and it passes only classes that have a layout.  Hence a
search that ends at all ends within the steps that `findMethod` takes, and no answer from these
means that the search goes on for ever.

## Main results

* `findMethod_eq_some_iff`, `findMethod_eq_none_iff` — what a search finds, and when it never ends.
* `Climb.findMethod_eq` — where the superclasses of a class come to an end, the first class with a
  body for the method is found, and no class is looked at twice.
* `exists_climb_iff_grounded` — they come to an end in a lowered program exactly if the declared
  superclasses do not go round.
* `lookup_ends_unless_round`, `ring_lookup_goes_round` — both together, and a program in which a
  search never ends.
-/

namespace TwoPhase.Program

open Relation (ReflTransGen)

variable {p : Program} {name : Name} {id parent last : ClassId} {passed : List ClassId}
  {stop : ClassId → Prop}

/-- The superclass that the layout of a class names. -/
def parent? (p : Program) (id : ClassId) : Option ClassId := (p.module.class? id).bind (·.parent)

/-- The second class is the superclass of the first. -/
def Under (p : Program) (id parent : ClassId) : Prop := p.parent? id = some parent

/-- The class is at the top of its hierarchy: it has no superclass, or no layout. -/
def Top (p : Program) (id : ClassId) : Prop := p.parent? id = none

theorem Under.not_top (h : p.Under id parent) : ¬ p.Top id := by
  intro hTop
  cases hTop.symm.trans h

/-- The class has a body of its own for the method. -/
def Answers (p : Program) (name : Name) (id : ClassId) : Prop :=
  (p.module.body? (.member id name)).isSome = true

instance (p : Program) (name : Name) : DecidablePred (p.Answers name) := fun id =>
  inferInstanceAs (Decidable ((p.module.body? (.member id name)).isSome = true))

/-! ## Following superclasses -/

/-- The climb from a class to the first class that meets the condition, and the classes passed on
the way. -/
inductive Climb (p : Program) (stop : ClassId → Prop) : ClassId → List ClassId → ClassId → Prop
  | here {id : ClassId} (hStop : stop id) : Climb p stop id [] id
  | up {id parent last : ClassId} {passed : List ClassId} (hStop : ¬ stop id)
      (hParent : p.Under id parent) (hRest : Climb p stop parent passed last) :
      Climb p stop id (id :: passed) last

theorem Climb.stops (h : p.Climb stop id passed last) : stop last := by
  induction h with
  | here hStop => exact hStop
  | up _ _ _ ih => exact ih

theorem Climb.unique (h : p.Climb stop id passed last) :
    ∀ {passed' : List ClassId} {last' : ClassId}, p.Climb stop id passed' last' →
      passed = passed' ∧ last = last' := by
  induction h with
  | here hStop =>
      intro passed' last' h'
      cases h' with
      | here => exact ⟨rfl, rfl⟩
      | up hStop' _ _ => exact absurd hStop hStop'
  | up hStop hParent _ ih =>
      intro passed' last' h'
      cases h' with
      | here hStop' => exact absurd hStop' hStop
      | up _ hParent' hRest' =>
          obtain rfl := Option.some.inj (hParent.symm.trans hParent')
          obtain ⟨rfl, rfl⟩ := ih hRest'
          exact ⟨rfl, rfl⟩

/-- From every class that is passed, the climb goes on with what is left of it. -/
theorem Climb.of_mem (h : p.Climb stop id passed last) {other : ClassId} (hOther : other ∈ passed) :
    ¬ stop other ∧ ∃ rest, p.Climb stop other rest last ∧ rest.length ≤ passed.length := by
  induction h with
  | here => cases hOther
  | @up id parent last passed hStop hParent hRest ih =>
      rcases List.mem_cons.1 hOther with rfl | hOther
      · exact ⟨hStop, _, .up hStop hParent hRest, Nat.le_refl _⟩
      · obtain ⟨hNot, rest, hClimb, hLength⟩ := ih hOther
        exact ⟨hNot, rest, hClimb, Nat.le_succ_of_le hLength⟩

/-- **A climb comes through no class twice.** -/
theorem Climb.nodup (h : p.Climb stop id passed last) : (passed ++ [last]).Nodup := by
  induction h with
  | here => exact List.nodup_singleton _
  | @up id parent last passed hStop hParent hRest ih =>
      rw [List.cons_append, List.nodup_cons]
      refine ⟨fun hMem => ?_, ih⟩
      rcases List.mem_append.1 hMem with hPassed | hLast
      · -- the rest of a climb would have to be longer than the climb
        obtain ⟨_, rest, hAgain, hLength⟩ := hRest.of_mem hPassed
        obtain ⟨rfl, _⟩ := hAgain.unique (.up hStop hParent hRest)
        exact absurd hLength (Nat.not_succ_le_self _)
      · obtain rfl := List.mem_singleton.1 hLast
        exact hStop hRest.stops

theorem mem_classes_of_under (h : p.Under id parent) :
    id ∈ p.module.classes.map Ir.ClassLayout.id := by
  obtain ⟨layout, hLayout, _⟩ := Option.bind_eq_some_iff.1 h
  exact List.mem_map.2 ⟨layout, Ir.Module.mem_of_class? hLayout⟩

/-- A climb passes at most as many classes as the program has. -/
theorem Climb.length_le (h : p.Climb stop id passed last) :
    passed.length ≤ p.module.classes.length := by
  have hSubset : passed ⊆ p.module.classes.map Ir.ClassLayout.id := by
    intro other hOther
    obtain ⟨hNot, rest, hClimb, _⟩ := h.of_mem hOther
    cases hClimb with
    | here hStop => exact absurd hStop hNot
    | up _ hParent _ => exact mem_classes_of_under hParent
  have hLength := ((List.nodup_append.1 h.nodup).1.subperm hSubset).length_le
  rwa [List.length_map] at hLength

/-- There is a climb exactly if some class on the way meets the condition. -/
theorem exists_climb_iff :
    (∃ passed last, p.Climb stop id passed last) ↔
      ∃ other, ReflTransGen p.Under id other ∧ stop other := by
  constructor
  · rintro ⟨passed, last, h⟩
    induction h with
    | here hStop => exact ⟨_, .refl, hStop⟩
    | up _ hParent _ ih =>
        obtain ⟨other, hOther, hStop⟩ := ih
        exact ⟨other, .head hParent hOther, hStop⟩
  · rintro ⟨other, hOther, hStop⟩
    induction hOther using Relation.ReflTransGen.head_induction_on with
    | refl => exact ⟨[], other, .here hStop⟩
    | @head id parent hParent _ ih =>
        obtain ⟨passed, last, hRest⟩ := ih
        by_cases hHere : stop id
        · exact ⟨[], id, .here hHere⟩
        · exact ⟨id :: passed, last, .up hHere hParent hRest⟩

/-! ## The search -/

/-- Where the search for a method stops. -/
def Settles (p : Program) (name : Name) (id : ClassId) : Prop := p.Answers name id ∨ p.Top id

/-- What is found in the class where the search has stopped. -/
def methodAt (p : Program) (name : Name) (id : ClassId) : Option CallableId :=
  if p.Answers name id then some (.member id name) else none

theorem searchMethod_succ (steps : Nat) :
    p.searchMethod name (steps + 1) id =
      if p.Answers name id then some (some (.member id name))
      else match p.parent? id with
        | some parent => p.searchMethod name steps parent
        | none => some none :=
  rfl

/-- The search climbs to the class where it stops, taking one step more than it passes classes. -/
theorem searchMethod_eq_some_iff {found : Option CallableId} :
    ∀ {steps : Nat} {id : ClassId}, p.searchMethod name steps id = some found ↔
      ∃ passed last, p.Climb (p.Settles name) id passed last ∧ passed.length < steps ∧
        found = p.methodAt name last := by
  intro steps
  induction steps with
  | zero =>
      intro id
      refine ⟨nofun, ?_⟩
      rintro ⟨passed, last, _, hSteps, _⟩
      exact absurd hSteps (Nat.not_lt_zero _)
  | succ steps ih =>
      intro id
      rw [searchMethod_succ]
      by_cases hAnswers : p.Answers name id
      · rw [if_pos hAnswers]
        constructor
        · rintro ⟨⟩
          exact ⟨[], id, .here (.inl hAnswers), Nat.succ_pos _, (if_pos hAnswers).symm⟩
        · rintro ⟨passed, last, hClimb, _, rfl⟩
          cases hClimb with
          | here => rw [methodAt, if_pos hAnswers]
          | up hStop => exact absurd (.inl hAnswers) hStop
      · rw [if_neg hAnswers]
        cases hParent : p.parent? id with
        | none =>
            constructor
            · rintro ⟨⟩
              exact ⟨[], id, .here (.inr hParent), Nat.succ_pos _, (if_neg hAnswers).symm⟩
            · rintro ⟨passed, last, hClimb, _, rfl⟩
              cases hClimb with
              | here => rw [methodAt, if_neg hAnswers]
              | up hStop => exact absurd (.inr hParent) hStop
        | some parent =>
            have hStop : ¬ p.Settles name id := by
              rintro (hHere | hTop)
              · exact hAnswers hHere
              · exact Under.not_top hParent hTop
            show p.searchMethod name steps parent = some found ↔ _
            rw [ih]
            constructor
            · rintro ⟨passed, last, hClimb, hSteps, rfl⟩
              exact ⟨id :: passed, last, .up hStop hParent hClimb, Nat.succ_lt_succ hSteps, rfl⟩
            · rintro ⟨passed, last, hClimb, hSteps, rfl⟩
              cases hClimb with
              | here hHere => exact absurd hHere hStop
              | up _ hParent' hRest =>
                  obtain rfl := Option.some.inj (hParent.symm.trans hParent')
                  exact ⟨_, last, hRest, Nat.lt_of_succ_lt_succ hSteps, rfl⟩

/-- The steps that `findMethod` takes suffice for every search that ends. -/
theorem findMethod_eq_some_iff {found : Option CallableId} :
    p.findMethod id name = some found ↔
      ∃ passed last, p.Climb (p.Settles name) id passed last ∧ found = p.methodAt name last := by
  rw [findMethod, searchMethod_eq_some_iff]
  constructor
  · rintro ⟨passed, last, hClimb, _, rfl⟩
    exact ⟨passed, last, hClimb, rfl⟩
  · rintro ⟨passed, last, hClimb, rfl⟩
    exact ⟨passed, last, hClimb, Nat.lt_succ_of_le hClimb.length_le, rfl⟩

/-- **The search has no end** exactly if every class that it comes to has a superclass and no body
for the method. -/
theorem findMethod_eq_none_iff :
    p.findMethod id name = none ↔
      ∀ other, ReflTransGen p.Under id other → ¬ p.Answers name other ∧ ¬ p.Top other := by
  have hEnds : p.findMethod id name ≠ none ↔
      ∃ passed last, p.Climb (p.Settles name) id passed last := by
    rw [Option.ne_none_iff_exists']
    constructor
    · rintro ⟨found, hFound⟩
      obtain ⟨passed, last, hClimb, _⟩ := findMethod_eq_some_iff.1 hFound
      exact ⟨passed, last, hClimb⟩
    · rintro ⟨passed, last, hClimb⟩
      exact ⟨_, findMethod_eq_some_iff.2 ⟨passed, last, hClimb, rfl⟩⟩
  rw [← not_iff_not, ← ne_eq, hEnds, exists_climb_iff]
  simp only [Settles, not_forall, not_and_or, not_not, exists_prop]

/-- Then no number of steps is enough. -/
theorem searchMethod_eq_none (h : p.findMethod id name = none) (steps : Nat) :
    p.searchMethod name steps id = none := by
  rw [Option.eq_none_iff_forall_ne_some]
  intro found hFound
  obtain ⟨passed, last, hClimb, _, hLast⟩ := searchMethod_eq_some_iff.1 hFound
  rw [findMethod_eq_some_iff.2 ⟨passed, last, hClimb, hLast⟩] at h
  cases h

/-- A call of a method that is searched for without end has no end either. -/
theorem call_eq_none {ref : ObjectRef} {object : Object} {m : Machine}
    (hObject : m.heap[ref.index]? = some object) (h : p.findMethod object.classId name = none)
    (fuel : Nat) (args : List Value) : p.call fuel ref name args m = none := by
  rw [call_eq fuel hObject, h]

/-! ## Hierarchies with a top -/

/-- Where the superclasses of a class come to an end, the nearest class with a body is found. -/
theorem Climb.findMethod_eq (h : p.Climb p.Top id passed last) (name : Name) :
    p.findMethod id name =
      some (((passed ++ [last]).find? (p.Answers name ·)).map (.member · name)) := by
  have hSearch : ∀ {steps : Nat}, passed.length < steps → p.searchMethod name steps id =
      some (((passed ++ [last]).find? (p.Answers name ·)).map (.member · name)) := by
    induction h with
    | @here id hTop =>
        intro steps hSteps
        obtain ⟨steps, rfl⟩ := Nat.exists_eq_succ_of_ne_zero (Nat.ne_of_gt hSteps)
        rw [searchMethod_succ]
        by_cases hAnswers : p.Answers name id
        · simp [hAnswers]
        · rw [if_neg hAnswers, show p.parent? id = none from hTop]
          simp [hAnswers]
    | @up id parent last passed _ hParent _ ih =>
        intro steps hSteps
        obtain ⟨steps, rfl⟩ :=
          Nat.exists_eq_succ_of_ne_zero (Nat.ne_of_gt (Nat.zero_lt_of_lt hSteps))
        rw [searchMethod_succ, List.cons_append]
        by_cases hAnswers : p.Answers name id
        · simp [hAnswers]
        · rw [if_neg hAnswers, show p.parent? id = some parent from hParent,
            List.find?_cons_of_neg (by simpa using hAnswers)]
          exact ih (Nat.lt_of_succ_lt_succ hSteps)
  exact hSearch (Nat.lt_succ_of_le h.length_le)

section Lowered

variable {module : String} {extensions : Extensions} {r : Resolver} {decl : ClassDecl}

theorem parent?_of_lower (hLower : r.lower = .ok p) (id : ClassId) :
    p.parent? id = (p.symbols.class? id).bind SymbolTable.parentOf := by
  rw [parent?, class?_of_lower hLower]
  cases p.symbols.class? id with
  | none => rfl
  | some decl => exact SymbolTable.layoutOf_parent _ decl

/-- A class below the root class is under the superclass that its declaration names. -/
theorem under_of_lower (hLower : r.lower = .ok p) (hDecl : p.symbols.class? id = some decl)
    (hRoot : id ≠ rootClass) : p.Under id decl.superclass := by
  have hId := SymbolTable.id_of_class? hDecl
  rw [Under, parent?_of_lower hLower, hDecl]
  exact if_neg (hId ▸ hRoot)

/-- **A hierarchy has a top exactly if its superclasses do not go round.** -/
theorem exists_climb_iff_grounded (hReachable : Resolver.Reachable module extensions r)
    (hLower : r.lower = .ok p) (hDecl : p.symbols.class? id = some decl) :
    (∃ passed last, p.Climb p.Top id passed last) ↔ p.symbols.Grounded decl := by
  have hRoot : p.symbols.class? rootClass = some rootDecl :=
    class?_rootClass_of_lower hReachable hLower
  have hTop : p.Top rootClass := by
    rw [Top, parent?_of_lower hLower, hRoot]
    rfl
  have hAlone : ∀ other, ¬ p.symbols.Extends rootDecl other := by
    rintro other ⟨_, hSuper, _⟩
    cases hSuper
  constructor
  · rintro ⟨passed, last, hClimb⟩
    suffices hAbove : ∃ above, p.symbols.Above decl above by
      obtain ⟨above, hAbove⟩ := hAbove
      exact hAbove.grounded
    induction hClimb generalizing decl with
    | @here id hHere =>
        refine ⟨[], .top ?_⟩
        have hId : id = rootClass := by
          by_contra hNe
          exact (under_of_lower hLower hDecl hNe).not_top hHere
        subst hId
        obtain rfl := Option.some.inj (hDecl.symm.trans hRoot)
        exact hAlone
    | @up id parent last passed _ hParent _ ih =>
        have hNe : id ≠ rootClass := by
          rintro rfl
          exact hParent.not_top hTop
        obtain rfl := Option.some.inj (hParent.symm.trans (under_of_lower hLower hDecl hNe))
        by_cases hExtends : ∃ other, p.symbols.Extends decl other
        · obtain ⟨other, super, hSuper, hOther⟩ := hExtends
          have hSame : decl.superclass = super := by rw [ClassDecl.superclass, hSuper]; rfl
          obtain ⟨above, hAbove⟩ := ih (hSame ▸ hOther)
          exact ⟨above ++ [other], .step ⟨super, hSuper, hOther⟩ hAbove⟩
        · exact ⟨[], .top fun other hOther => hExtends ⟨other, hOther⟩⟩
  · intro hGrounded
    obtain ⟨above, hAbove, hLineage⟩ := SymbolTable.exists_above_of_grounded
      (SymbolTable.class?_eq_some_iff.1 hDecl).1 hGrounded
    clear hGrounded hLineage
    induction hAbove generalizing id with
    | @top decl hNone =>
        by_cases hNe : id = rootClass
        · subst hNe
          exact ⟨[], rootClass, .here hTop⟩
        · have hUnder := under_of_lower hLower hDecl hNe
          have hNot : ¬ p.Top id := hUnder.not_top
          refine ⟨[id], decl.superclass, .up hNot hUnder (.here ?_)⟩
          cases hSuper : decl.supertype with
          | none =>
              rw [ClassDecl.superclass, hSuper]
              exact hTop
          | some super =>
              rw [ClassDecl.superclass, hSuper, Option.getD_some, Top, parent?_of_lower hLower]
              cases hClass : p.symbols.class? super with
              | none => rfl
              | some other => exact absurd ⟨super, hSuper, hClass⟩ (hNone other)
    | @step decl other above hExtends _ ih =>
        have hNe : id ≠ rootClass := by
          rintro rfl
          obtain rfl := Option.some.inj (hDecl.symm.trans hRoot)
          exact hAlone other hExtends
        obtain ⟨super, hSuper, hOther⟩ := hExtends
        have hUnder := under_of_lower hLower hDecl hNe
        have hNot : ¬ p.Top id := hUnder.not_top
        rw [ClassDecl.superclass, hSuper, Option.getD_some] at hUnder
        obtain ⟨passed, last, hClimb⟩ := ih hOther
        exact ⟨id :: passed, last, .up hNot hUnder hClimb⟩

/-- **Which searches end in a lowered program.**  Where the declared superclasses of a class do not
go round, its hierarchy has a top, no class comes twice on the way to it, and every search for a
method ends with the nearest body or with none.  Where they go round, a search ends exactly if some
class that it comes to has a body for the method; otherwise no number of steps is enough. -/
theorem lookup_ends_unless_round (hReachable : Resolver.Reachable module extensions r)
    (hLower : r.lower = .ok p) (hDecl : r.symbols.class? id = some decl) :
    (r.symbols.Grounded decl ↔ ∃ passed last, p.Climb p.Top id passed last) ∧
    (∀ {passed last}, p.Climb p.Top id passed last → (passed ++ [last]).Nodup ∧
      ∀ name, p.findMethod id name =
        some (((passed ++ [last]).find? (p.Answers name ·)).map (.member · name))) ∧
    ∀ name, (p.findMethod id name = none ↔ ¬ r.symbols.Grounded decl ∧
        ∀ other, ReflTransGen p.Under id other → ¬ p.Answers name other) ∧
      (p.findMethod id name = none → ∀ steps, p.searchMethod name steps id = none) := by
  rw [← (Resolver.lower_eq_ok_iff.1 hLower).symbols] at hDecl ⊢
  have hGrounded := exists_climb_iff_grounded hReachable hLower hDecl
  refine ⟨hGrounded.symm, fun h => ⟨h.nodup, h.findMethod_eq⟩,
    fun name => ⟨?_, searchMethod_eq_none⟩⟩
  rw [findMethod_eq_none_iff, ← hGrounded, exists_climb_iff]
  constructor
  · intro h
    exact ⟨fun ⟨other, hOther, hTop⟩ => (h other hOther).2 hTop,
      fun other hOther => (h other hOther).1⟩
  · rintro ⟨hNoTop, hNobody⟩ other hOther
    exact ⟨hNobody other hOther, fun hTop => hNoTop ⟨other, hOther, hTop⟩⟩

end Lowered

/-! ## A sample -/

/-- The left class of the sample, whose superclasses go round through the right one. -/
def ringLeft : ClassDecl :=
  ⟨Catalogue.Ring.left, some Catalogue.Ring.right, [], .generated Catalogue.Ring.key, .synthetic⟩

theorem ringResolver_reachable :
    Resolver.Reachable "main" ⟨[Catalogue.ring.provider], [ringBodies]⟩ ringResolver :=
  .tail (.tail (.tail (.single (.resolveClass Catalogue.Ring.left))
    (.resolveClass Catalogue.Ring.right)) (.resolveMember Catalogue.Ring.left .init))
    (.resolveMember Catalogue.Ring.right .init)

/-- One comes from the left class to itself and to the right one. -/
theorem eq_of_under_ring {other : ClassId}
    (h : ReflTransGen ringProgram.Under Catalogue.Ring.left other) :
    other = Catalogue.Ring.left ∨ other = Catalogue.Ring.right := by
  induction h with
  | refl => exact .inl rfl
  | tail _ hUnder ih =>
      rcases ih with rfl | rfl
      · exact .inr (Option.some.inj hUnder).symm
      · exact .inl (Option.some.inj hUnder).symm

/-- Two classes that extend each other are resolved and lowered without complaint, and an object
of one of them is made.  The search for a method that neither has never ends. -/
theorem ring_lookup_goes_round :
    (∀ q ∈ [Catalogue.ring.provider], q.Faithful) ∧
      Resolver.Reachable "main" ⟨[Catalogue.ring.provider], [ringBodies]⟩ ringResolver ∧
      ringResolver.lower = .ok ringProgram ∧
      ringProgram.Under Catalogue.Ring.left Catalogue.Ring.right ∧
      ringProgram.Under Catalogue.Ring.right Catalogue.Ring.left ∧
      ∃ m, ringProgram.construct 5 Catalogue.Ring.left Machine.start = some (.ok ⟨0⟩, m) ∧
        (∀ steps, ringProgram.searchMethod ⟨"missing"⟩ steps Catalogue.Ring.left = none) ∧
        ∀ fuel, ringProgram.call fuel ⟨0⟩ ⟨"missing"⟩ [] m = none := by
  have hNever : ringProgram.findMethod Catalogue.Ring.left ⟨"missing"⟩ = none := by
    rw [findMethod_eq_none_iff]
    intro other hOther
    rcases eq_of_under_ring hOther with rfl | rfl
    · exact ⟨nofun, nofun⟩
    · exact ⟨nofun, nofun⟩
  obtain ⟨m, hMade, hObject⟩ : ∃ m,
      ringProgram.construct 5 Catalogue.Ring.left Machine.start = some (.ok ⟨0⟩, m) ∧
        m.heap[0]? = some ⟨Catalogue.Ring.left, #[.null]⟩ := ⟨_, rfl, rfl⟩
  exact ⟨Catalogue.ring_faithful, ringResolver_reachable, ringResolver_lower, rfl, rfl, m, hMade,
    searchMethod_eq_none hNever, fun fuel => call_eq_none hObject hNever fuel []⟩

/-- The constructor is found in the round, and what is not there is searched for without end. -/
theorem ring_lookup :
    Resolver.Reachable "main" ⟨[Catalogue.ring.provider], [ringBodies]⟩ ringResolver ∧
      ringResolver.lower = .ok ringProgram ∧
      ringResolver.symbols.class? Catalogue.Ring.left = some ringLeft ∧
      (ringResolver.symbols.Grounded ringLeft ↔
        ∃ passed last, ringProgram.Climb ringProgram.Top Catalogue.Ring.left passed last) ∧
      (ringProgram.findMethod Catalogue.Ring.left ⟨"missing"⟩ = none →
        ∀ steps, ringProgram.searchMethod ⟨"missing"⟩ steps Catalogue.Ring.left = none) ∧
      ringProgram.findMethod Catalogue.Ring.left .init ≠ none := by
  have hDecl : ringResolver.symbols.class? Catalogue.Ring.left = some ringLeft := rfl
  obtain ⟨hGrounded, _, hNever⟩ :=
    lookup_ends_unless_round ringResolver_reachable ringResolver_lower hDecl
  refine ⟨ringResolver_reachable, ringResolver_lower, hDecl, hGrounded, (hNever _).2, ?_⟩
  rw [Ne, (hNever _).1]
  rintro ⟨_, hNobody⟩
  exact hNobody _ .refl rfl

end TwoPhase.Program
