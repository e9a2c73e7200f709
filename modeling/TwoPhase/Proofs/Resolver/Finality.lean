import TwoPhase.Proofs.Resolver.Coherence

/-!
# How long an answer about a class lasts

A resolver remembers classes in two ways: under the identifier that was asked for, and in the
symbol table under the identifier that the declaration carries.  Providers need not care for the
difference, and may answer a request for one class with the declaration of another.  This module
says which answers last in spite of that.

## Strategy

Nothing is forgotten (`Steps.grows`), so a declaration that was answered once is answered always.
Answers without a declaration are of two kinds.  Either the request is barred: it was noted as
vain, or the declaration it is answered with carries an identifier that is taken.  A barred request
stays so (`Barred.steps`).  Or the request was answered with the declaration of another class.
Then the resolver looks into the table under the wrong identifier, and finds something there as
soon as a third request is answered with a declaration that carries it.

`Recorded` ties the two ways together: what is owned was answered with something in the table, and
what is in the table was the answer to something that is owned.

## Main results

* `resolveClass_of_asked` — how a repeated request is answered, at any later time.
* `class_answers_last` — which answers are final, and which classes of the table are found.
-/

namespace TwoPhase

open Relation (ReflTransGen)

/-- The identifier of what the provider declares for a class depends on nothing but the class. -/
def DeclarationProvider.Steady (p : DeclarationProvider) : Prop :=
  ∀ id types types', (p.declareClass id types).1.map ClassDecl.id =
    (p.declareClass id types').1.map ClassDecl.id

namespace Resolver

variable {r r' later : Resolver} {id other : ClassId} {answer : Option ClassDecl}

/-! ## What providers answer with -/

/-- The identifier that the answer to a request carries, if any provider declares the class. -/
def carried (r : Resolver) (id : ClassId) : Option ClassId :=
  (askClass id r.extensions.declarations 0 .initial).1.map fun found => found.2.id

/-- Steady providers answer under the same identifier whenever they are asked. -/
theorem map_id_askClass (id : ClassId) :
    ∀ (providers : List DeclarationProvider) (index : Nat) (types types' : TypeTable),
      (∀ p ∈ providers, p.Steady) →
      (askClass id providers index types).1.map (fun found => found.2.id) =
        (askClass id providers index types').1.map fun found => found.2.id := by
  intro providers
  induction providers with
  | nil => intro index types types' _; rfl
  | cons p rest ih =>
      intro index types types' hSteady
      obtain ⟨hFirst, hRest⟩ := List.forall_mem_cons.1 hSteady
      rw [askClass, askClass]
      by_cases hNamespace : p.hasNamespace id.package = true
      · rw [if_pos hNamespace, if_pos hNamespace]
        have hSame := hFirst id types types'
        have hLater := ih (index + 1) (p.declareClass id types).2 (p.declareClass id types').2 hRest
        cases hAnswer : (p.declareClass id types).1 with
        | none =>
            have hAnswer' : (p.declareClass id types').1 = none := by
              rw [hAnswer] at hSame
              exact Option.map_eq_none_iff.1 hSame.symm
            simpa [hAnswer, hAnswer'] using hLater
        | some decl =>
            rw [hAnswer] at hSame
            obtain ⟨decl', hAnswer', hId⟩ := Option.map_eq_some_iff.1 hSame.symm
            simpa [hAnswer, hAnswer'] using hId.symm
      · rw [if_neg hNamespace, if_neg hNamespace]
        exact ih (index + 1) types types' hRest

theorem carried_of_asked (hSteady : ∀ p ∈ r.extensions.declarations, p.Steady)
    {found : Option (Nat × ClassDecl)} {types : TypeTable}
    (hAsked : askClass id r.extensions.declarations 0 r.types = (found, types)) :
    r.carried id = found.map fun found => found.2.id := by
  rw [carried, map_id_askClass id _ 0 .initial r.types hSteady, hAsked]

theorem Grows.carried_eq (h : Grows r r') (id : ClassId) : r'.carried id = r.carried id := by
  rw [carried, carried, h.extensions]

theorem Grows.steady (h : Grows r r') (hSteady : ∀ p ∈ r.extensions.declarations, p.Steady) :
    ∀ p ∈ r'.extensions.declarations, p.Steady := by
  rw [h.extensions]
  exact hSteady

theorem Grows.stored (h : Grows r r') (hStored : (r.symbols.class? id).isSome = true) :
    (r'.symbols.class? id).isSome = true := by
  obtain ⟨decl, hDecl⟩ := Option.isSome_iff_exists.1 hStored
  rw [h.classes hDecl]
  rfl

theorem Grows.owned (h : Grows r r') (hOwned : (r.owner? id).isSome = true) :
    (r'.owner? id).isSome = true := by
  obtain ⟨source, hSource⟩ := Option.isSome_iff_exists.1 hOwned
  rw [h.owner hSource]
  rfl

/-! ## Requests in vain -/

/-- The request for the class is in vain: it was noted as such, or the declaration it is answered
with carries an identifier that is taken. -/
structure Barred (r : Resolver) (id : ClassId) : Prop where
  owner : r.owner? id = none
  reason : id ∈ r.unresolved ∨
    ∃ other, r.carried id = some other ∧ (r.symbols.class? other).isSome = true

/-- It stays so unless the class gets an owner. -/
theorem Barred.grows (h : r.Barred id) (hGrows : Grows r r')
    (hNoted : r.unresolved ⊆ r'.unresolved) (hOwner : r'.owner? id = none) : r'.Barred id := by
  refine ⟨hOwner, h.reason.imp (fun hMem => hNoted hMem) ?_⟩
  rintro ⟨other, hCarried, hStored⟩
  exact ⟨other, (hGrows.carried_eq id).trans hCarried, hGrows.stored hStored⟩

theorem ClassStep.unresolved_subset (h : ClassStep r id answer r') :
    r.unresolved ⊆ r'.unresolved := by
  cases h with
  | undeclared => exact List.subset_cons_self _ _
  | _ => exact List.Subset.refl _

section Steady

variable (hSteady : ∀ p ∈ r.extensions.declarations, p.Steady)

include hSteady

/-- A request in vain is answered with nothing, and remains in vain. -/
theorem Barred.asked (h : r.Barred id) (hStep : ClassStep r id answer r') :
    answer = none ∧ r'.Barred id := by
  have hGrows := hStep.grows
  have hNoted := hStep.unresolved_subset
  cases hStep with
  | known hOwned =>
      rw [h.owner] at hOwned
      cases hOwned
  | refused hOwned _ => exact ⟨rfl, h⟩
  | undeclared hOwned _ _ => exact ⟨rfl, h.grows hGrows hNoted hOwned⟩
  | clash hOwned _ _ _ => exact ⟨rfl, h.grows hGrows hNoted hOwned⟩
  | declared _ hNew hAsked hDefined =>
      -- the identifier would have to be taken and new at once
      obtain hMem | ⟨other, hCarried, hStored⟩ := h.reason
      · exact absurd hMem hNew
      · rw [carried_of_asked hSteady hAsked] at hCarried
        cases hCarried
        exact absurd (SymbolTable.class?_isSome_iff.1 hStored)
          (SymbolTable.defineClass_eq_ok hDefined).1

/-- Other questions do not help either. -/
theorem Barred.step (h : r.Barred id) (hStep : Step r r') : r'.Barred id := by
  refine hStep.elim (P := fun r' => r'.Barred id) ?_ ?_
  · intro other answer next hClass
    by_cases hSame : other = id
    · subst hSame
      exact (h.asked hSteady hClass).2
    · refine h.grows hClass.grows hClass.unresolved_subset ?_
      cases hClass with
      | declared =>
          rw [owner?_cons rfl, if_neg (Ne.symm hSame)]
          exact h.owner
      | _ => exact h.owner
  · intro owner name answer next hMember
    have hGrows := hMember.grows
    cases hMember with
    | declared => exact h.grows hGrows (List.Subset.refl _) h.owner
    | _ => exact h

theorem Barred.steps (h : r.Barred id) (hSteps : Steps r later) : later.Barred id := by
  induction hSteps with
  | refl => exact h
  | tail hBefore hStep ih => exact ih.step ((Steps.grows hBefore).steady hSteady) hStep

/-- After a request the class is remembered, or the request was in vain. -/
theorem ClassStep.owned_or_barred (h : ClassStep r id answer r') :
    ((r'.owner? id).isSome = true ∧ answer = r'.symbols.class? id) ∨
      (r'.Barred id ∧ answer = none) := by
  cases h with
  | known hOwned => exact .inl ⟨hOwned, rfl⟩
  | refused hOwned hRefused => exact .inr ⟨⟨hOwned, .inl hRefused⟩, rfl⟩
  | undeclared hOwned _ _ => exact .inr ⟨⟨hOwned, .inl List.mem_cons_self⟩, rfl⟩
  | @clash _ _ decl hOwned _ hAsked hDefined =>
      refine .inr ⟨⟨hOwned, .inr ⟨decl.id, carried_of_asked hSteady hAsked, ?_⟩⟩, rfl⟩
      exact SymbolTable.class?_isSome_iff.2 hDefined
  | declared _ _ _ _ =>
      refine .inl ⟨?_, rfl⟩
      rw [owner?_cons rfl, if_pos rfl]
      rfl

/-- **How a repeated request is answered**: from the table if the class is remembered, whatever the
table has under its identifier by then; with nothing if the first request was in vain. -/
theorem resolveClass_of_asked (hLater : Steps (r.resolveClass id).2 later) :
    (later.resolveClass id).1 =
      if ((r.resolveClass id).2.owner? id).isSome then later.symbols.class? id else none := by
  have hStep := r.resolveClass_step id
  rcases hStep.owned_or_barred hSteady with ⟨hOwned, _⟩ | ⟨hBarred, _⟩
  · rw [if_pos hOwned, resolveClass, if_pos (hLater.grows.owned hOwned)]
  · have hStill := hBarred.steps (hStep.grows.steady hSteady) hLater
    have hSteadyLater := (hStep.grows.trans hLater.grows).steady hSteady
    rw [if_neg (by rw [hBarred.owner]; exact Bool.false_ne_true)]
    exact (hStill.asked hSteadyLater (later.resolveClass_step id)).1

end Steady

/-! ## The two ways of remembering -/

/-- What is owned was answered with something that the table has, and what the table has was the
answer to something that is owned. -/
structure Recorded (r : Resolver) : Prop where
  root : (r.owner? rootClass).isSome = true ∧ (r.symbols.class? rootClass).isSome = true
  owned : ∀ {id}, (r.owner? id).isSome = true → id = rootClass ∨
    ∃ other, r.carried id = some other ∧ (r.symbols.class? other).isSome = true
  stored : ∀ {other}, (r.symbols.class? other).isSome = true → other = rootClass ∨
    ∃ id, (r.owner? id).isSome = true ∧ r.carried id = some other

theorem recorded_start (name : String) (extensions : Extensions) :
    (start name extensions).Recorded where
  root := ⟨rfl, rfl⟩
  owned := by
    intro id hOwned
    left
    by_contra hNe
    have hNone : (start name extensions).owner? id = none := by
      rw [owner?_cons (r := { start name extensions with owners := [] }) rfl, if_neg hNe]
      rfl
    rw [hNone] at hOwned
    cases hOwned
  stored := by
    intro other hStored
    left
    have hMem := SymbolTable.class?_isSome_iff.1 hStored
    exact List.mem_singleton.1 hMem

/-- What grows without new owners and new classes stays recorded. -/
theorem Recorded.grows (h : r.Recorded) (hGrows : Grows r r')
    (hOwner : ∀ id, r'.owner? id = r.owner? id)
    (hClass : ∀ id, r'.symbols.class? id = r.symbols.class? id) : r'.Recorded where
  root := ⟨hGrows.owned h.root.1, hGrows.stored h.root.2⟩
  owned := by
    intro id hOwned
    simpa only [hGrows.carried_eq, hClass] using h.owned (hOwner id ▸ hOwned)
  stored := by
    intro other hStored
    simpa only [hGrows.carried_eq, hOwner] using h.stored (hClass other ▸ hStored)

theorem Recorded.classStep (h : r.Recorded) (hSteady : ∀ p ∈ r.extensions.declarations, p.Steady)
    (hStep : ClassStep r id answer r') : r'.Recorded := by
  have hGrows := hStep.grows
  cases hStep with
  | known => exact h
  | refused => exact h
  | undeclared => exact h.grows hGrows (fun _ => rfl) fun _ => rfl
  | clash => exact h.grows hGrows (fun _ => rfl) fun _ => rfl
  | @declared _ _ decl symbols _ _ hAsked hDefined =>
      have hCarried : r.carried id = some decl.id := carried_of_asked hSteady hAsked
      have hStored : (symbols.class? decl.id).isSome = true := by
        rw [SymbolTable.class?_defineClass hDefined, if_pos rfl]
        rfl
      refine ⟨⟨hGrows.owned h.root.1, hGrows.stored h.root.2⟩, ?_, ?_⟩
      · intro other hOwned
        rw [owner?_cons rfl] at hOwned
        by_cases hSame : other = id
        · subst hSame
          exact .inr ⟨decl.id, (hGrows.carried_eq _).trans hCarried, hStored⟩
        · rw [if_neg hSame] at hOwned
          refine (h.owned hOwned).imp (fun hRoot => hRoot) ?_
          rintro ⟨carriedId, hOther, hClass⟩
          exact ⟨carriedId, (hGrows.carried_eq _).trans hOther, hGrows.stored hClass⟩
      · intro other hOther
        replace hOther : (symbols.class? other).isSome = true := hOther
        rw [SymbolTable.class?_defineClass hDefined] at hOther
        by_cases hSame : decl.id = other
        · subst hSame
          refine .inr ⟨id, ?_, (hGrows.carried_eq _).trans hCarried⟩
          rw [owner?_cons rfl, if_pos rfl]
          rfl
        · rw [if_neg hSame] at hOther
          refine (h.stored hOther).imp (fun hRoot => hRoot) ?_
          rintro ⟨asked, hOwned, hAnswer⟩
          exact ⟨asked, hGrows.owned hOwned, (hGrows.carried_eq _).trans hAnswer⟩

theorem Recorded.step (h : r.Recorded) (hSteady : ∀ p ∈ r.extensions.declarations, p.Steady)
    (hStep : Step r r') : r'.Recorded := by
  refine hStep.elim (h.classStep hSteady) ?_
  intro owner name answer next hMember
  have hGrows := hMember.grows
  have hClass := hMember.class?_eq
  cases hMember with
  | known => exact h
  | failed => exact h
  | declared => exact h.grows hGrows (fun _ => rfl) hClass

theorem Recorded.steps (h : r.Recorded) (hSteady : ∀ p ∈ r.extensions.declarations, p.Steady)
    (hSteps : Steps r later) : later.Recorded := by
  induction hSteps with
  | refl => exact h
  | tail hBefore hStep ih => exact ih.step ((Steps.grows hBefore).steady hSteady) hStep

theorem recorded_of_reachable {name : String} {extensions : Extensions}
    (hSteady : ∀ p ∈ extensions.declarations, p.Steady) (h : Reachable name extensions r) :
    r.Recorded :=
  (recorded_start name extensions).steps hSteady h.steps

/-! ## What lasts -/

/-- A class of the table is found if no other class is answered with its declaration. -/
theorem Recorded.resolveClass_of_stored (h : r.Recorded) {decl : ClassDecl}
    (hStored : r.symbols.class? id = some decl)
    (hAlone : ∀ other, r.carried other = some id → other = id) :
    (r.resolveClass id).1 = some decl := by
  have hOwned : (r.owner? id).isSome = true := by
    rcases h.stored (by rw [hStored]; rfl) with rfl | ⟨other, hOwned, hCarried⟩
    · exact h.root.1
    · rw [← hAlone other hCarried]
      exact hOwned
  rw [resolveClass, if_pos hOwned]
  exact hStored

/-- A remembered class is in the table if it was answered with its own declaration. -/
theorem Recorded.stored_of_owned (h : r.Recorded) (hOwned : (r.owner? id).isSome = true)
    (hOwn : ∀ other, r.carried id = some other → other = id) :
    (r.symbols.class? id).isSome = true := by
  rcases h.owned hOwned with rfl | ⟨other, hCarried, hStored⟩
  · exact h.root.2
  · rw [← hOwn other hCarried]
    exact hStored

/-- **Which answers about classes last**, for providers that answer each request under one
identifier, be it the one that was asked for or not.

A declaration is final.  That there is none is final if the request is answered, if at all, with a
declaration of the class itself; in general a repeated request is answered from the table if the
class is remembered and with nothing otherwise.  A class of the table is found if no request for
another class is answered with its declaration. -/
theorem class_answers_last {name : String} {extensions : Extensions}
    (hSteady : ∀ p ∈ extensions.declarations, p.Steady)
    (hReachable : Reachable name extensions r) (id : ClassId)
    (hLater : ReflTransGen Call (r.resolveClass id).2 later) :
    (∀ {decl}, (r.resolveClass id).1 = some decl → (later.resolveClass id).1 = some decl) ∧
    ((r.resolveClass id).1 = none → (∀ other, r.carried id = some other → other = id) →
      (later.resolveClass id).1 = none) ∧
    (later.resolveClass id).1 =
      (if ((r.resolveClass id).2.owner? id).isSome then later.symbols.class? id else none) ∧
    ∀ {decl}, r.symbols.class? id = some decl →
      (∀ other, r.carried other = some id → other = id) →
      (r.resolveClass id).1 = some decl := by
  have hRecorded := recorded_of_reachable hSteady hReachable
  rw [← hReachable.extensions_eq] at hSteady
  have hSteps := steps_of_calls hLater
  have hStep := r.resolveClass_step id
  have hAgain := resolveClass_of_asked hSteady hSteps
  refine ⟨?_, ?_, hAgain, hRecorded.resolveClass_of_stored⟩
  · intro decl hAnswer
    rcases hStep.owned_or_barred hSteady with ⟨hOwned, hSame⟩ | ⟨_, hNone⟩
    · rw [hAgain, if_pos hOwned]
      exact hSteps.grows.classes (hSame.symm.trans hAnswer)
    · cases hNone.symm.trans hAnswer
  · intro hAnswer hOwn
    rcases hStep.owned_or_barred hSteady with ⟨hOwned, hSame⟩ | ⟨hBarred, _⟩
    · -- a class that is remembered under its own identifier has a declaration
      have hStored := (hRecorded.classStep hSteady hStep).stored_of_owned hOwned
        fun other hCarried => hOwn other ((hStep.grows.carried_eq id).symm.trans hCarried)
      rw [← hSame, hAnswer] at hStored
      cases hStored
    · rw [hAgain, hBarred.owner]
      rfl

end Resolver

/-! ## A sample -/

namespace Catalogue

namespace Aliases

/-- The key of the sample. -/
def key : Key := ⟨0, "aliases"⟩

/-- A class of the sample. -/
def classNamed (name : String) : ClassId := ⟨⟨[⟨"aliases"⟩]⟩, ⟨name⟩⟩

/-- The declaration of a class, which has no fields. -/
def declaration (name : String) : ClassDecl :=
  ⟨classNamed name, none, [], .generated key, .synthetic⟩

/-- Answers the request for one class with the declaration of another. -/
def entry (asked answered : String) : ClassEntry :=
  ⟨classNamed asked, none, [],
    some ⟨classNamed answered, none, [], .generated key, .synthetic⟩⟩

end Aliases

/-- Whoever asks for the first class gets the second one, and whoever asks for the third one gets
the first one.  The fourth one is what it is. -/
def aliases : Catalogue where
  classes := [Aliases.entry "A" "B", Aliases.entry "C" "A", Aliases.entry "D" "D"]
  members := []
  namespaces := none
  topLevel := none
  names := []

namespace Aliases

/-- What the sample answers, which depends on the class that is asked for and on nothing else. -/
def answers (id : ClassId) : Option ClassDecl :=
  if id = classNamed "A" then some (declaration "B")
  else if id = classNamed "C" then some (declaration "A")
  else if id = classNamed "D" then some (declaration "D")
  else none

theorem declareClass_eq (id : ClassId) (types : TypeTable) :
    aliases.provider.declareClass id types = (answers id, types) := by
  show aliases.declareClass id types = _
  rw [answers]
  split
  · subst id
    rfl
  · split
    · subst id
      rfl
    · split
      · subst id
        rfl
      · rename_i hFirst hThird hFourth
        have hNone : aliases.classes.find? (fun entry => entry.answersFor id types) = none := by
          simp [aliases, entry, ClassEntry.answersFor, Ne.symm hFirst, Ne.symm hThird,
            Ne.symm hFourth]
        rw [Catalogue.declareClass, hNone]

/-- The sample as an extension. -/
def extensions : Extensions := ⟨[aliases.provider], []⟩

theorem steady : ∀ p ∈ extensions.declarations, p.Steady := by
  intro p hp id types types'
  rw [List.mem_singleton.1 hp, declareClass_eq, declareClass_eq]

/-- The sample before anything was asked. -/
def fresh : Resolver := .start "main" extensions

/-- After the request for the first class. -/
def asked : Resolver := (fresh.resolveClass (classNamed "A")).2

/-- After the request for the third class as well. -/
def later : Resolver := (asked.resolveClass (classNamed "C")).2

theorem reachable_asked : Resolver.Reachable "main" extensions asked :=
  .single (.resolveClass (classNamed "A"))

theorem calls_later : ReflTransGen Resolver.Call asked later :=
  .single (.resolveClass (classNamed "C"))

/-- The sample answers every request with a function of the identifier.  Yet the first class,
which is not there at first, is there after the third one was asked for; and the second class is
in the table and not there. -/
theorem aliased_answers_change :
    (∀ p ∈ extensions.declarations, ∀ id types, p.declareClass id types = (answers id, types)) ∧
      Resolver.Reachable "main" extensions asked ∧
      (fresh.resolveClass (classNamed "A")).1 = none ∧
      ReflTransGen Resolver.Call (fresh.resolveClass (classNamed "A")).2 later ∧
      (later.resolveClass (classNamed "A")).1 = some (declaration "A") ∧
      asked.symbols.class? (classNamed "B") = some (declaration "B") ∧
      (asked.resolveClass (classNamed "B")).1 = none := by
  refine ⟨?_, reachable_asked, rfl, calls_later, rfl, rfl, rfl⟩
  intro p hp
  rw [List.mem_singleton.1 hp]
  exact declareClass_eq

/-- The answer for the first class follows the table, as the class is remembered.  That the second
one is not there remains so, and the fourth one is always found. -/
theorem aliased_answers_last :
    (∀ p ∈ extensions.declarations, p.Steady) ∧
      Resolver.Reachable "main" extensions asked ∧ ReflTransGen Resolver.Call asked later ∧
      (later.resolveClass (classNamed "A")).1 = later.symbols.class? (classNamed "A") ∧
      (∀ {last}, ReflTransGen Resolver.Call (asked.resolveClass (classNamed "B")).2 last →
        (last.resolveClass (classNamed "B")).1 = none) ∧
      ∀ {last}, ReflTransGen Resolver.Call (asked.resolveClass (classNamed "D")).2 last →
        (last.resolveClass (classNamed "D")).1 = some (declaration "D") := by
  obtain ⟨_, _, hFirst, _⟩ :=
    Resolver.class_answers_last steady .refl (classNamed "A") calls_later
  refine ⟨steady, reachable_asked, calls_later, hFirst, ?_, ?_⟩
  · intro last hLast
    have hNobody : ∀ other, asked.carried (classNamed "B") = some other →
        other = classNamed "B" := nofun
    exact (Resolver.class_answers_last steady reachable_asked _ hLast).2.1 rfl hNobody
  · intro last hLast
    exact (Resolver.class_answers_last steady reachable_asked _ hLast).1 rfl

end Aliases
end Catalogue
end TwoPhase
