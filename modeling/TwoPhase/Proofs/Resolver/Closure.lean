import Mathlib.Data.Finset.Card
import Mathlib.Data.Set.Finite.Basic
import TwoPhase.Proofs.Resolver.Answer

/-!
# Resolving everything

`resolveAll` works off a stack of classes that grows while it is worked off: every class pushes
the superclass that its declaration names.  Superclasses may go round, so a set of visited
classes is kept.  What has to come out is a least set: the advertised classes and, with every
class in it, its superclass (`Needed`).

## Strategy

`Loop` is the invariant of the stack.  Forward it says where the classes on the stack came from
(`Reached`), which bounds what is declared and which class can fail; backward it says that
visited classes are complete and their superclasses not lost.  One visit keeps it
(`Loop.visit`), so does passing over a class (`Loop.skip`), and an induction on the steps does
the rest.  Every visit takes one class out of the finite set of needed ones, which is why enough
steps exist.

## Main results

* `resolveAll_exhausts` — resolving everything terminates, declares exactly what is needed, and
  fails only for a needed class that nobody declares.
-/

namespace TwoPhase

/-- Which superclass a provider names for a class does not depend on the types numbered so far. -/
def DeclarationProvider.SettledSuperclass (p : DeclarationProvider) : Prop :=
  ∀ id types types', (p.declareClass id types).1.map ClassDecl.supertype =
    (p.declareClass id types').1.map ClassDecl.supertype

namespace Resolver

open DeclarationProvider (FirstToDeclare)

variable {r r' : Resolver}

/-! ## What is needed -/

/-- A declaration that counts for a class: the one in the table, or as long as there is none,
any that the first provider to declare the class may give. -/
inductive Declaration (r : Resolver) (id : ClassId) : ClassDecl → Prop
  | held {decl : ClassDecl} (hClass : r.symbols.class? id = some decl) : Declaration r id decl
  | offered {index : Nat} {p : DeclarationProvider} {types : TypeTable} {decl : ClassDecl}
      (hClass : r.symbols.class? id = none)
      (hFirst : FirstToDeclare r.extensions.declarations id index p)
      (hDecl : (p.declareClass id types).1 = some decl) : Declaration r id decl

/-- The least set that has the advertised classes and, with every class, the superclass that its
declaration names. -/
inductive Needed (r : Resolver) : ClassId → Prop
  | advertised {id : ClassId} (h : id ∈ r.advertised) : Needed r id
  | superclass {id parent : ClassId} {decl : ClassDecl} (hNeeded : Needed r id)
      (hDecl : Declaration r id decl) (hParent : decl.supertype = some parent) : Needed r parent

/-- The needed classes that are known to be needed from the table alone. -/
inductive Reached (r : Resolver) : ClassId → Prop
  | advertised {id : ClassId} (h : id ∈ r.advertised) : Reached r id
  | superclass {id parent : ClassId} {decl : ClassDecl} (hReached : Reached r id)
      (hDecl : r.symbols.class? id = some decl) (hParent : decl.supertype = some parent) :
      Reached r parent

theorem Reached.needed {id : ClassId} (h : r.Reached id) : r.Needed id := by
  induction h with
  | advertised h => exact .advertised h
  | superclass _ hDecl hParent ih => exact .superclass ih (.held hDecl) hParent

theorem Grows.advertised_eq (hGrows : Grows r r') : r'.advertised = r.advertised := by
  rw [advertised, advertised, hGrows.extensions]

theorem Reached.grows {id : ClassId} (h : r.Reached id) (hGrows : Grows r r') :
    r'.Reached id := by
  induction h with
  | advertised h => exact .advertised (by rw [hGrows.advertised_eq]; exact h)
  | superclass _ hDecl hParent ih => exact .superclass ih (hGrows.classes hDecl) hParent

/-- A declaration that counts later could already count before. -/
theorem Declaration.of_grows (h : r'.Coherent) (hRoot : r.Coherent) (hGrows : Grows r r')
    {id : ClassId} {decl : ClassDecl} (hDecl : r'.Declaration id decl) :
    r.Declaration id decl := by
  cases hDecl with
  | held hClass =>
      cases hBefore : r.symbols.class? id with
      | some decl' =>
          have hEq := (hGrows.classes hBefore).symm.trans hClass
          exact .held (hBefore.trans hEq)
      | none =>
          rcases h.exists_source hClass with rfl | ⟨index, p, types, hFirst, hAnswer⟩
          · rw [hRoot.root] at hBefore
            cases hBefore
          · rw [hGrows.extensions] at hFirst
            exact .offered hBefore hFirst hAnswer
  | offered hClass hFirst hAnswer =>
      cases hBefore : r.symbols.class? id with
      | some decl' => rw [hGrows.classes hBefore] at hClass; cases hClass
      | none =>
          rw [hGrows.extensions] at hFirst
          exact .offered hBefore hFirst hAnswer

/-- Learning more makes the needed classes fewer. -/
theorem Needed.of_grows (h : r'.Coherent) (hRoot : r.Coherent) (hGrows : Grows r r')
    {id : ClassId} (hNeeded : r'.Needed id) : r.Needed id := by
  induction hNeeded with
  | advertised h => exact .advertised (by rw [← hGrows.advertised_eq]; exact h)
  | superclass _ hDecl hParent ih =>
      exact .superclass ih (hDecl.of_grows h hRoot hGrows) hParent

/-- With settled superclasses, all declarations that count for a class name the same one. -/
theorem Declaration.supertype_eq
    (hSettled : ∀ p ∈ r.extensions.declarations, p.SettledSuperclass) (h : r.Coherent)
    {id : ClassId} {decl : ClassDecl} (hDecl : r.Declaration id decl) (hRoot : id ≠ rootClass) :
    ∃ index p, FirstToDeclare r.extensions.declarations id index p ∧
      ∀ types, (p.declareClass id types).1.map ClassDecl.supertype = some decl.supertype := by
  have hGiven : ∃ index p types, FirstToDeclare r.extensions.declarations id index p ∧
      (p.declareClass id types).1 = some decl := by
    cases hDecl with
    | held hClass => exact (h.exists_source hClass).resolve_left hRoot
    | offered _ hFirst hAnswer => exact ⟨_, _, _, hFirst, hAnswer⟩
  obtain ⟨index, p, types, hFirst, hAnswer⟩ := hGiven
  refine ⟨index, p, hFirst, fun types' => ?_⟩
  rw [hSettled p hFirst.mem id types' types, hAnswer]
  rfl

/-- With settled superclasses, what is needed does not change as questions are asked. -/
theorem Needed.grows (hSettled : ∀ p ∈ r.extensions.declarations, p.SettledSuperclass)
    (h : r.Coherent) (h' : r'.Coherent) (hGrows : Grows r r') {id : ClassId}
    (hNeeded : r.Needed id) : r'.Needed id := by
  induction hNeeded with
  | advertised h => exact .advertised (by rw [hGrows.advertised_eq]; exact h)
  | @superclass id parent decl _ hDecl hParent ih =>
      by_cases hRoot : id = rootClass
      · -- the root class is in the table from the start and extends nothing
        subst hRoot
        cases hDecl with
        | held hClass => exact .superclass ih (.held (hGrows.classes hClass)) hParent
        | offered hClass => rw [h.root] at hClass; cases hClass
      · obtain ⟨index, p, hFirst, hSuper⟩ := hDecl.supertype_eq hSettled h hRoot
        rw [← hGrows.extensions] at hFirst
        have hSettled' : ∀ p ∈ r'.extensions.declarations, p.SettledSuperclass := by
          rw [hGrows.extensions]
          exact hSettled
        -- whichever declaration counts now, it names the same superclass
        have hNow : ∃ decl', r'.Declaration id decl' := by
          cases hClass : r'.symbols.class? id with
          | some decl' => exact ⟨decl', .held hClass⟩
          | none =>
              obtain ⟨decl', hAnswer⟩ := Option.isSome_iff_exists.1
                (hFirst.declares.2 r'.types)
              exact ⟨decl', .offered hClass hFirst hAnswer⟩
        obtain ⟨decl', hDecl'⟩ := hNow
        obtain ⟨index', p', hFirst', hSuper'⟩ := hDecl'.supertype_eq hSettled' h' hRoot
        obtain ⟨_, rfl⟩ := hFirst.unique hFirst'
        have hEq : decl'.supertype = decl.supertype :=
          Option.some.inj ((hSuper' r'.types).symm.trans (hSuper r'.types))
        exact .superclass ih hDecl' (hEq.trans hParent)

/-! ## The loop -/

/-- The invariant of the stack: where its classes came from, and that no superclass of a visited
class is lost. -/
structure Loop (r : Resolver) (stack visited : List ClassId) : Prop where
  faithful : ∀ p ∈ r.extensions.declarations, p.Faithful
  coherent : r.Coherent
  reached : ∀ id, id ∈ stack ∨ id ∈ visited → r.Reached id
  complete : ∀ id ∈ visited, r.Complete id
  closed : ∀ id ∈ visited, ∀ decl, r.symbols.class? id = some decl →
    ∀ parent, decl.supertype = some parent → parent ∈ stack ∨ parent ∈ visited

/-- A class that was visited is passed over. -/
theorem Loop.skip {id : ClassId} {rest visited : List ClassId}
    (h : Loop r (id :: rest) visited) (hSeen : id ∈ visited) : Loop r rest visited where
  faithful := h.faithful
  coherent := h.coherent
  reached other hOther := h.reached other (hOther.imp_left (List.mem_cons_of_mem id))
  complete := h.complete
  closed other hOther decl hDecl parent hParent := by
    rcases h.closed other hOther decl hDecl parent hParent with hStack | hVisited
    · rcases List.mem_cons.1 hStack with rfl | hRest
      · exact .inr hSeen
      · exact .inl hRest
    · exact .inr hVisited

/-- A visit completes a class and puts its superclass on the stack. -/
theorem Loop.visit {id : ClassId} {rest visited : List ClassId}
    (h : Loop r (id :: rest) visited) {supertype : Option ClassId}
    (hWhole : r.resolveWhole id = (.ok supertype, r')) :
    Loop r' (supertype.toList ++ rest) (id :: visited) := by
  obtain ⟨decl, hClass, rfl, hComplete⟩ := resolveWhole_eq_ok h.faithful h.coherent hWhole
  have hSteps : Steps r r' := steps_of_resolveWhole hWhole
  have hGrows := hSteps.grows
  have hHere : r'.Reached id := (h.reached id (.inl List.mem_cons_self)).grows hGrows
  refine ⟨?_, h.coherent.steps h.faithful hSteps, ?_, ?_, ?_⟩
  · exact hGrows.faithful h.faithful
  · intro other hOther
    rcases hOther with hStack | hVisited
    · rcases List.mem_append.1 hStack with hParent | hRest
      · exact .superclass hHere hClass (by simpa using hParent)
      · exact (h.reached other (.inl (List.mem_cons_of_mem id hRest))).grows hGrows
    · rcases List.mem_cons.1 hVisited with rfl | hVisited
      · exact hHere
      · exact (h.reached other (.inr hVisited)).grows hGrows
  · intro other hOther
    rcases List.mem_cons.1 hOther with rfl | hOther
    · exact hComplete
    · exact (h.complete other hOther).grows h.coherent hGrows
  · intro other hOther decl' hDecl' parent hParent
    rcases List.mem_cons.1 hOther with rfl | hOther
    · cases hClass.symm.trans hDecl'
      exact .inl (List.mem_append_left _ (by simpa using hParent))
    · obtain ⟨before, hBefore⟩ := Option.isSome_iff_exists.1 (h.complete other hOther).1
      cases (hGrows.classes hBefore).symm.trans hDecl'
      rcases h.closed other hOther _ hBefore parent hParent with hStack | hVisited
      · rcases List.mem_cons.1 hStack with rfl | hRest
        · exact .inr List.mem_cons_self
        · exact .inl (List.mem_append_right _ hRest)
      · exact .inr (List.mem_cons_of_mem id hVisited)

/-- What the loop has shown when it ends. -/
structure Outcome (r : Resolver) (stack visited : List ClassId)
    (result : Except CompileError Unit) (r' : Resolver) : Prop where
  /-- Success: the stack and the visited classes are part of a closed set of complete classes. -/
  ok : result = .ok () → ∃ all : List ClassId, (∀ id, id ∈ stack ∨ id ∈ visited → id ∈ all) ∧
    (∀ id ∈ all, r'.Complete id) ∧
    ∀ id ∈ all, ∀ decl, r'.symbols.class? id = some decl →
      ∀ parent, decl.supertype = some parent → parent ∈ all
  /-- Failure: a class that is needed and unknown. -/
  error : ∀ e, result = .error e → ∃ id, e = .unresolvedClass id ∧ r'.Reached id ∧
    ¬ Known r'.extensions.declarations id
  /-- Whatever is new was needed. -/
  new : ∀ id, (r'.symbols.class? id).isSome = true →
    (r.symbols.class? id).isSome = true ∨ r'.Reached id

theorem Outcome.of_empty {visited : List ClassId} (h : Loop r [] visited) :
    Outcome r [] visited (.ok ()) r := by
  refine ⟨fun _ => ⟨visited, ?_, h.complete, ?_⟩, nofun, fun id hId => .inl hId⟩
  · rintro id (hStack | hVisited)
    · cases hStack
    · exact hVisited
  · intro id hId decl hDecl parent hParent
    rcases h.closed id hId decl hDecl parent hParent with hStack | hVisited
    · cases hStack
    · exact hVisited

section Advance

variable {id : ClassId} {rest visited : List ClassId} {result : Except CompileError Unit}

theorem Outcome.of_skip (hSeen : id ∈ visited) (h : Outcome r rest visited result r') :
    Outcome r (id :: rest) visited result r' := by
  refine ⟨fun hOk => ?_, h.error, h.new⟩
  obtain ⟨all, hAll, hRest⟩ := h.ok hOk
  refine ⟨all, ?_, hRest⟩
  rintro other (hStack | hVisited)
  · rcases List.mem_cons.1 hStack with rfl | hRest
    · exact hAll other (.inr hSeen)
    · exact hAll other (.inl hRest)
  · exact hAll other (.inr hVisited)

/-- The class that the loop stops at was needed, and nobody declares it. -/
theorem Outcome.of_failure {e : CompileError} (h : Loop r (id :: rest) visited)
    (hWhole : r.resolveWhole id = (.error e, r')) :
    Outcome r (id :: rest) visited (.error e) r' := by
  have hGrows : Grows r r' := (steps_of_resolveWhole hWhole).grows
  have hHere : r'.Reached id := (h.reached id (.inl List.mem_cons_self)).grows hGrows
  have hUnknown : ¬ Known r.extensions.declarations id := by
    intro hKnown
    obtain ⟨decl, last, hOk, _⟩ := resolveWhole_of_known h.faithful h.coherent hKnown
    rw [hWhole] at hOk
    cases hOk
  refine ⟨nofun, ?_, ?_⟩
  · intro e' hError
    cases hError
    have hReport := resolveWhole_of_not_known h.faithful h.coherent hUnknown
    rw [hWhole] at hReport
    cases hReport
    refine ⟨id, rfl, hHere, ?_⟩
    rw [hGrows.extensions]
    exact hUnknown
  · intro other hOther
    rcases resolveWhole_new_class h.faithful hWhole hOther with hOld | rfl
    · exact .inl hOld
    · exact .inr hHere

theorem Outcome.of_visit {next : Resolver} {supertype : Option ClassId}
    (h : Loop r (id :: rest) visited) (hWhole : r.resolveWhole id = (.ok supertype, next))
    (hSteps : Steps next r')
    (hLater : Outcome next (supertype.toList ++ rest) (id :: visited) result r') :
    Outcome r (id :: rest) visited result r' := by
  refine ⟨fun hOk => ?_, hLater.error, ?_⟩
  · obtain ⟨all, hAll, hRest⟩ := hLater.ok hOk
    refine ⟨all, ?_, hRest⟩
    rintro other (hStack | hVisited)
    · rcases List.mem_cons.1 hStack with rfl | hRest
      · exact hAll other (.inr List.mem_cons_self)
      · exact hAll other (.inl (List.mem_append_right _ hRest))
    · exact hAll other (.inr (List.mem_cons_of_mem id hVisited))
  · intro other hOther
    rcases hLater.new other hOther with hOld | hReached
    · rcases resolveWhole_new_class h.faithful hWhole hOld with hOlder | rfl
      · exact .inl hOlder
      · have hHere := (h.visit hWhole).reached other (.inr List.mem_cons_self)
        exact .inr (hHere.grows hSteps.grows)
    · exact .inr hReached

end Advance

/-- The loop's outcome, from the invariant at its start. -/
theorem Loop.outcome {result : Except CompileError Unit} :
    ∀ (steps : Nat) {r : Resolver} {stack visited : List ClassId}, Loop r stack visited →
      resolveStack steps r stack visited = some (result, r') →
      Outcome r stack visited result r' := by
  intro steps
  induction steps with
  | zero =>
      intro r stack visited h hRun
      cases stack with
      | nil => cases hRun; exact .of_empty h
      | cons id rest => cases hRun
  | succ steps ih =>
      intro r stack visited h hRun
      cases stack with
      | nil => cases hRun; exact .of_empty h
      | cons id rest =>
          rw [resolveStack] at hRun
          by_cases hSeen : id ∈ visited
          · rw [if_pos hSeen] at hRun
            exact .of_skip hSeen (ih (h.skip hSeen) hRun)
          · rw [if_neg hSeen] at hRun
            split at hRun
            · rename_i e next hWhole
              cases hRun
              exact .of_failure h hWhole
            · rename_i supertype next hWhole
              exact .of_visit h hWhole (steps_of_resolveStack steps _ _ _ hRun)
                (ih (h.visit hWhole) hRun)

/-! ## Enough steps -/

/-- More steps do not change a result. -/
theorem resolveStack_mono {out : Except CompileError Unit × Resolver} :
    ∀ {steps more : Nat} {r : Resolver} {stack visited : List ClassId}, steps ≤ more →
      resolveStack steps r stack visited = some out →
      resolveStack more r stack visited = some out := by
  intro steps
  induction steps with
  | zero =>
      intro more r stack visited _ h
      cases stack with
      | nil => cases more <;> exact h
      | cons id rest => cases h
  | succ steps ih =>
      intro more r stack visited hMore h
      obtain ⟨more, rfl⟩ : ∃ m, more = m + 1 := ⟨more - 1, by omega⟩
      cases stack with
      | nil => exact h
      | cons id rest =>
          rw [resolveStack] at h ⊢
          split at h
          · rename_i hSeen
            rw [if_pos hSeen]
            exact ih (by omega) h
          · rename_i hSeen
            rw [if_neg hSeen]
            split at h
            · exact h
            · exact ih (by omega) h

/-- The loop ends when there is a step for every class on the stack and one for every class that
may still be visited: a visit pushes at most one class and uses one up. -/
theorem Loop.terminates {needed : Finset ClassId} :
    ∀ (steps : Nat) {r : Resolver} {stack visited : List ClassId}, Loop r stack visited →
      (∀ id, r.Needed id → id ∈ needed) →
      stack.length + (needed \ visited.toFinset).card ≤ steps →
      ∃ out, resolveStack steps r stack visited = some out := by
  intro steps
  induction steps with
  | zero =>
      intro r stack visited _ _ hSteps
      cases stack with
      | nil => exact ⟨_, rfl⟩
      | cons id rest => simp at hSteps
  | succ steps ih =>
      intro r stack visited h hNeeded hSteps
      cases stack with
      | nil => exact ⟨_, rfl⟩
      | cons id rest =>
          rw [List.length_cons] at hSteps
          rw [resolveStack]
          by_cases hSeen : id ∈ visited
          · rw [if_pos hSeen]
            exact ih (h.skip hSeen) hNeeded (by omega)
          · rw [if_neg hSeen]
            split
            · exact ⟨_, rfl⟩
            · rename_i supertype next hWhole
              have hLoop := h.visit hWhole
              have hGrows : Grows r next := (steps_of_resolveWhole hWhole).grows
              refine ih hLoop (fun other hOther => hNeeded other
                (hOther.of_grows hLoop.coherent h.coherent hGrows)) ?_
              have hMem : id ∈ needed \ visited.toFinset := by
                rw [Finset.mem_sdiff, List.mem_toFinset]
                exact ⟨hNeeded id (h.reached id (.inl List.mem_cons_self)).needed, hSeen⟩
              have hCard : (needed \ (id :: visited).toFinset).card + 1 =
                  (needed \ visited.toFinset).card := by
                rw [List.toFinset_cons, Finset.sdiff_insert]
                exact Finset.card_erase_add_one hMem
              have hPushed : supertype.toList.length ≤ 1 := by
                cases supertype <;> simp
              rw [List.length_append]
              omega

/-! ## The result -/

/-- The invariant holds of the advertised classes before any of them is visited. -/
theorem Loop.start (hFaithful : ∀ p ∈ r.extensions.declarations, p.Faithful)
    (h : r.Coherent) : Loop r (Order.sortDistinct r.advertised).reverse [] where
  faithful := hFaithful
  coherent := h
  reached := by
    rintro id (hStack | hVisited)
    · exact .advertised (Order.mem_sortDistinct.1 (List.mem_reverse.1 hStack))
    · cases hVisited
  complete := nofun
  closed := nofun

/-- A closed set of complete classes with the advertised ones has all that is needed. -/
theorem Needed.mem_of_closed {all : List ClassId} (hStart : ∀ id ∈ r.advertised, id ∈ all)
    (hComplete : ∀ id ∈ all, r.Complete id)
    (hClosed : ∀ id ∈ all, ∀ decl, r.symbols.class? id = some decl →
      ∀ parent, decl.supertype = some parent → parent ∈ all)
    {id : ClassId} (h : r.Needed id) : id ∈ all := by
  induction h with
  | advertised h => exact hStart _ h
  | superclass _ hDecl hParent ih =>
      cases hDecl with
      | held hClass => exact hClosed _ ih _ hClass _ hParent
      | offered hClass =>
          have hSome := (hComplete _ ih).1
          rw [hClass] at hSome
          cases hSome

/-- What resolving everything has achieved, with this result.  What is needed is read off the
declarations that count afterwards. -/
structure Exhausted (r : Resolver) (result : Except CompileError Unit) (r' : Resolver) :
    Prop where
  /-- It succeeds exactly if all that is needed is known. -/
  ok_iff : result = .ok () ↔ ∀ id, r'.Needed id → Known r'.extensions.declarations id
  /-- Then every needed class is in the table, with a callable group for every member name. -/
  complete : result = .ok () → ∀ id, r'.Needed id →
    (r'.symbols.class? id).isSome = true ∧ ∃ names, r'.memberNames id = .ok names ∧
      ∀ name ∈ names, r'.symbols.hasCallables (.member id name) = true
  /-- Only needed classes are added. -/
  new : ∀ id, (r'.symbols.class? id).isSome = true →
    (r.symbols.class? id).isSome = true ∨ r'.Needed id
  /-- The only failure is a needed class that is not known. -/
  error : ∀ e, result = .error e → ∃ id, e = .unresolvedClass id ∧ r'.Needed id ∧
    ¬ Known r'.extensions.declarations id
  /-- Where superclasses are settled, needed before is the same as needed afterwards. -/
  settled : (∀ p ∈ r.extensions.declarations, p.SettledSuperclass) →
    ∀ id, r'.Needed id ↔ r.Needed id

theorem exhausted_of_resolveAll {steps : Nat} {result : Except CompileError Unit}
    (hFaithful : ∀ p ∈ r.extensions.declarations, p.Faithful) (h : r.Coherent)
    (hRun : r.resolveAll steps = some (result, r')) : Exhausted r result r' := by
  have hGrows := (steps_of_resolveAll hRun).grows
  have hCoherent := h.steps hFaithful (steps_of_resolveAll hRun)
  have hOutcome := (Loop.start hFaithful h).outcome steps hRun
  have hComplete : result = .ok () → ∀ id, r'.Needed id → r'.Complete id := by
    intro hOk id hNeeded
    obtain ⟨all, hAll, hComplete, hClosed⟩ := hOutcome.ok hOk
    refine hComplete id (hNeeded.mem_of_closed (fun other hOther => ?_) hComplete hClosed)
    rw [hGrows.advertised_eq] at hOther
    exact hAll other (.inl (List.mem_reverse.2 (Order.mem_sortDistinct.2 hOther)))
  have hError : ∀ e, result = .error e → ∃ id, e = .unresolvedClass id ∧ r'.Needed id ∧
      ¬ Known r'.extensions.declarations id := by
    intro e hResult
    obtain ⟨id, hId, hReached, hUnknown⟩ := hOutcome.error e hResult
    exact ⟨id, hId, hReached.needed, hUnknown⟩
  refine ⟨⟨?_, ?_⟩, ?_, ?_, hError, ?_⟩
  · intro hOk id hNeeded
    exact hCoherent.known (hComplete hOk id hNeeded).1
  · intro hKnown
    cases result with
    | ok => rfl
    | error e =>
        obtain ⟨id, _, hNeeded, hUnknown⟩ := hError e rfl
        exact absurd (hKnown id hNeeded) hUnknown
  · intro hOk id hNeeded
    have hId := hComplete hOk id hNeeded
    exact ⟨hId.1, hId.memberNames hCoherent⟩
  · intro id hId
    exact (hOutcome.new id hId).imp_right Reached.needed
  · intro hSettled id
    exact ⟨fun hNeeded => hNeeded.of_grows hCoherent h hGrows,
      fun hNeeded => hNeeded.grows hSettled h hCoherent hGrows⟩

/-- **Resolving everything is complete, exact and terminating.**  If only finitely many classes
are needed, however their superclasses go round, then resolving everything comes to an end, and
what it has achieved is described by `Exhausted`. -/
theorem resolveAll_exhausts {name : String} {extensions : Extensions}
    (hFaithful : ∀ p ∈ extensions.declarations, p.Faithful)
    (hReachable : Reachable name extensions r) (hFinite : {id | r.Needed id}.Finite) :
    ∃ result r', (∃ enough, ∀ steps, enough ≤ steps → r.resolveAll steps = some (result, r')) ∧
      Exhausted r result r' := by
  have hFaithful' : ∀ p ∈ r.extensions.declarations, p.Faithful := by
    rw [hReachable.extensions_eq]
    exact hFaithful
  have hCoherent : r.Coherent := coherent_of_reachable hFaithful hReachable
  have hNeeded : ∀ id, r.Needed id → id ∈ hFinite.toFinset :=
    fun id hId => hFinite.mem_toFinset.2 hId
  obtain ⟨⟨result, r'⟩, hRun⟩ :=
    (Loop.start hFaithful' hCoherent).terminates _ hNeeded (le_refl _)
  exact ⟨result, r', ⟨_, fun steps hSteps => resolveStack_mono hSteps hRun⟩,
    exhausted_of_resolveAll hFaithful' hCoherent hRun⟩

/-- The classes of the sample are all that its resolution needs. -/
private theorem ring_needed {id : ClassId}
    (h : (start "main" ⟨[Catalogue.ring.provider], []⟩).Needed id) :
    id = Catalogue.Ring.left ∨ id = Catalogue.Ring.right := by
  induction h with
  | advertised h => exact .inl (List.mem_singleton.1 h)
  | @superclass id parent decl _ hDecl hParent ih =>
      cases hDecl with
      | held hClass => rcases ih with rfl | rfl <;> cases hClass
      | @offered _ p types _ _ hFirst hAnswer =>
          obtain rfl := List.mem_singleton.1 hFirst.mem
          -- each class is answered with its entry, whatever types there are
          have hSuper : (Catalogue.ring.declareClass id types).1.map ClassDecl.supertype =
              some (some parent) := by
            rw [← hParent]
            exact congrArg (Option.map ClassDecl.supertype) hAnswer
          rcases ih with rfl | rfl
          · have hEq : some (some Catalogue.Ring.right) = some (some parent) := hSuper
            simp_all
          · have hEq : some (some Catalogue.Ring.left) = some (some parent) := hSuper
            simp_all

/-- Two classes that extend each other are resolved all the same. -/
theorem ring_exhausts :
    let r := start "main" ⟨[Catalogue.ring.provider], []⟩
    Reachable "main" ⟨[Catalogue.ring.provider], []⟩ r ∧ {id | r.Needed id}.Finite ∧
      ∃ result r', (∃ enough, ∀ steps, enough ≤ steps →
        r.resolveAll steps = some (result, r')) ∧ Exhausted r result r' := by
  intro r
  have hFinite : {id | r.Needed id}.Finite :=
    (Set.toFinite {Catalogue.Ring.left, Catalogue.Ring.right}).subset fun _ h => ring_needed h
  exact ⟨.refl, hFinite, resolveAll_exhausts Catalogue.ring_faithful .refl hFinite⟩

end Resolver
end TwoPhase
