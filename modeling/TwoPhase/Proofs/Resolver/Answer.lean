import TwoPhase.Proofs.Resolver.Coherence

/-!
# The answers of a coherent resolver

`Coherent` is about what a resolver remembers.  This module draws the consequences for what it
answers: which classes it finds, and that all the members whose names it gives can be had one after
the other.  Together they settle the question for one class with all its members.

## Main results

* `resolveClass_isSome_iff` — a class is found exactly if it is the root class or some provider
  declares it.
* `resolveWhole_of_known`, `resolveWhole_of_not_known` — one class with all its members is
  resolved exactly if the class is known, and otherwise it is reported.
-/

namespace TwoPhase.Resolver

open DeclarationProvider (FirstToDeclare)

/-- The root class, or one that some provider declares. -/
def Known (providers : List DeclarationProvider) (id : ClassId) : Prop :=
  id = rootClass ∨ ∃ p ∈ providers, p.Declares id

variable {r r' : Resolver}

/-! ## Classes -/

/-- Whatever is in the table is known. -/
theorem Coherent.known (h : r.Coherent) {id : ClassId}
    (hClass : (r.symbols.class? id).isSome = true) : Known r.extensions.declarations id := by
  obtain ⟨decl, hDecl⟩ := Option.isSome_iff_exists.1 hClass
  rcases h.exists_source hDecl with hRoot | ⟨index, p, types, hFirst, _⟩
  · exact .inl hRoot
  · exact .inr ⟨p, hFirst.mem, hFirst.declares⟩

/-- The answer for a class is what the table then holds, and it is an answer exactly if the
class is known. -/
theorem ClassStep.answer_eq (hFaithful : ∀ p ∈ r.extensions.declarations, p.Faithful)
    (h : r.Coherent) {id : ClassId} {answer : Option ClassDecl}
    (hStep : ClassStep r id answer r') :
    answer = r'.symbols.class? id ∧
      (answer.isSome = true ↔ Known r.extensions.declarations id) := by
  have hCoherent := h.classStep hFaithful hStep
  have hExtensions := hStep.grows.extensions
  have hOnlyIf : (r'.symbols.class? id).isSome = true → Known r.extensions.declarations id := by
    intro hClass
    rw [← hExtensions]
    exact hCoherent.known hClass
  cases hStep with
  | known hOwned =>
      refine ⟨rfl, hOnlyIf, fun _ => ?_⟩
      rw [← h.owned]
      exact hOwned
  | refused hOwner hRefused =>
      refine ⟨(h.filed.class?_eq_none hOwner).symm, nofun, ?_⟩
      rintro (hRoot | ⟨p, hp, hDeclares⟩)
      · exact absurd hRoot (h.filed.ne_root hOwner)
      · exact absurd hDeclares ((h.unresolved id hRefused).2 p hp)
  | undeclared hOwner hNew hAsked =>
      refine ⟨(h.filed.class?_eq_none hOwner).symm, nofun, ?_⟩
      rintro (hRoot | ⟨p, hp, hDeclares⟩)
      · exact absurd hRoot (h.filed.ne_root hOwner)
      · exact absurd hDeclares ((hCoherent.unresolved id List.mem_cons_self).2 p hp)
  | clash hOwner hNew hAsked hDefined =>
      exact absurd hDefined
        (h.filed.not_mem_of_asked (fun p hp => (hFaithful p hp).keepsIds) hOwner hAsked)
  | @declared types index decl symbols hOwner hNew hAsked hDefined =>
      refine ⟨rfl, hOnlyIf, fun _ => ?_⟩
      have hOwned := hCoherent.owned id
      rw [owner?_cons rfl, if_pos rfl] at hOwned
      exact hOwned.symm

/-- Asking for a class adds at most that class to the table. -/
theorem ClassStep.new_class (hFaithful : ∀ p ∈ r.extensions.declarations, p.Faithful)
    {id : ClassId} {answer : Option ClassDecl} (hStep : ClassStep r id answer r')
    {other : ClassId} (hOther : (r'.symbols.class? other).isSome = true) :
    (r.symbols.class? other).isSome = true ∨ other = id := by
  cases hStep with
  | known => exact .inl hOther
  | refused => exact .inl hOther
  | undeclared => exact .inl hOther
  | clash => exact .inl hOther
  | declared hOwner hNew hAsked hDefined =>
      have hId := (exists_first_of_asked hFaithful hAsked).1
      rw [SymbolTable.class?_defineClass hDefined, hId] at hOther
      by_cases hEq : id = other
      · exact .inr hEq.symm
      · rw [if_neg hEq] at hOther
        exact .inl hOther

/-- A class is found exactly if it is known. -/
theorem resolveClass_isSome_iff (hFaithful : ∀ p ∈ r.extensions.declarations, p.Faithful)
    (h : r.Coherent) (id : ClassId) :
    (r.resolveClass id).1.isSome = true ↔ Known r.extensions.declarations id :=
  ((r.resolveClass_step id).answer_eq hFaithful h).2

/-! ## Members -/

theorem resolveMembers_of_listed (owner : ClassId) :
    ∀ (names : List Name) {r : Resolver}, (∀ p ∈ r.extensions.declarations, p.Faithful) →
      r.Coherent → (∀ name ∈ names, r.Listed owner name) →
      ∃ r', r.resolveMembers owner names = (.ok (), r') ∧
        ∀ name ∈ names, r'.symbols.hasCallables (.member owner name) = true := by
  intro names
  induction names with
  | nil =>
      intro r _ _ _
      exact ⟨r, rfl, fun name hName => by cases hName⟩
  | cons name rest ih =>
      intro r hFaithful h hListed
      have hStep := r.resolveMember_step owner name
      obtain ⟨⟨members, hOk⟩, hHere⟩ := hStep.ok_of_listed h.filed
        (hListed name List.mem_cons_self)
      generalize hNext : (r.resolveMember owner name).2 = next at hStep hHere
      have hResult : r.resolveMember owner name = (.ok members, next) := Prod.ext hOk hNext
      have hFaithful' := hStep.grows.faithful hFaithful
      have hListed' : ∀ other ∈ rest, next.Listed owner other := fun other hOther =>
        (hListed other (List.mem_cons_of_mem name hOther)).grows hStep.grows
      obtain ⟨last, hRest, hAll⟩ := ih hFaithful' (h.memberStep hFaithful hStep) hListed'
      have hGrows : Grows next last := (steps_of_resolveMembers rest hRest).grows
      refine ⟨last, ?_, ?_⟩
      · rw [resolveMembers, hResult]
        exact hRest
      · intro other hOther
        rcases List.mem_cons.1 hOther with rfl | hOther
        · exact hGrows.callables hHere
        · exact hAll other hOther

/-- Resolving members leaves the classes alone. -/
theorem classes_of_resolveMembers {owner : ClassId} {result : Except CompileError Unit}
    (id : ClassId) :
    ∀ (names : List Name) {r : Resolver}, r.resolveMembers owner names = (result, r') →
      r'.symbols.class? id = r.symbols.class? id := by
  have hStep : ∀ (r : Resolver) (name : Name),
      (r.resolveMember owner name).2.symbols.class? id = r.symbols.class? id := by
    intro r name
    have h := r.resolveMember_step owner name
    generalize (r.resolveMember owner name).2 = r', (r.resolveMember owner name).1 = answer at h
    cases h with
    | known => rfl
    | failed => rfl
    | declared hNew hOwner hClass hProvider hName hAsked hDefined =>
        exact SymbolTable.class?_defineCallables hDefined id
  intro names
  induction names with
  | nil => intro r h; cases h; rfl
  | cons name rest ih =>
      intro r h
      have hFirst := hStep r name
      rw [resolveMembers] at h
      split at h
      · rename_i members next hResult
        rw [hResult] at hFirst
        rw [ih h, hFirst]
      · rename_i e next hResult
        rw [hResult] at hFirst
        cases h
        exact hFirst

/-! ## One class with all its members -/

/-- A class in the table all of whose listed members are defined. -/
def Complete (r : Resolver) (id : ClassId) : Prop :=
  (r.symbols.class? id).isSome = true ∧
    ∀ name, r.Listed id name → r.symbols.hasCallables (.member id name) = true

/-- What is complete stays complete. -/
theorem Complete.grows (h : r.Coherent) {id : ClassId} (hComplete : r.Complete id)
    (hGrows : Grows r r') : r'.Complete id := by
  obtain ⟨hClass, hMembers⟩ := hComplete
  obtain ⟨decl, hDecl⟩ := Option.isSome_iff_exists.1 hClass
  refine ⟨by rw [hGrows.classes hDecl]; rfl, fun name hListed => hGrows.callables ?_⟩
  exact hMembers name (h.filed.listed_of_grows hClass hGrows hListed)

/-- Completeness, said through the member names that the resolver gives. -/
theorem Complete.memberNames (h : r.Coherent) {id : ClassId} (hComplete : r.Complete id) :
    ∃ names, r.memberNames id = .ok names ∧
      ∀ name ∈ names, r.symbols.hasCallables (.member id name) = true := by
  obtain ⟨names, hNames, hMem⟩ := memberNames_eq_ok h.filed hComplete.1
  exact ⟨names, hNames, fun name hName => hComplete.2 name ((hMem name).1 hName)⟩

/-- A known class is completed, and its superclass is answered. -/
theorem resolveWhole_of_known (hFaithful : ∀ p ∈ r.extensions.declarations, p.Faithful)
    (h : r.Coherent) {id : ClassId} (hKnown : Known r.extensions.declarations id) :
    ∃ decl r', r.resolveWhole id = (.ok decl.supertype, r') ∧
      r'.symbols.class? id = some decl ∧ r'.Complete id := by
  have hStep := r.resolveClass_step id
  obtain ⟨hAnswer, hIff⟩ := hStep.answer_eq hFaithful h
  obtain ⟨decl, hDecl⟩ := Option.isSome_iff_exists.1 (hIff.2 hKnown)
  generalize hNext : (r.resolveClass id).2 = next at hStep hAnswer
  have hResult : r.resolveClass id = (some decl, next) := Prod.ext hDecl hNext
  have hClass : next.symbols.class? id = some decl := hAnswer.symm.trans hDecl
  have hCoherent : next.Coherent := h.classStep hFaithful hStep
  have hFaithful' := hStep.grows.faithful hFaithful
  obtain ⟨names, hNames, hMem⟩ := memberNames_eq_ok hCoherent.filed (by rw [hClass]; rfl)
  obtain ⟨last, hLast, hAll⟩ := resolveMembers_of_listed id names hFaithful' hCoherent
    fun name hName => (hMem name).1 hName
  have hGrows : Grows next last := (steps_of_resolveMembers names hLast).grows
  have hSame := classes_of_resolveMembers id names hLast
  refine ⟨decl, last, ?_, hSame.trans hClass, ?_, ?_⟩
  · rw [resolveWhole, hResult]
    simp only [hNames, hLast]
  · rw [hSame, hClass]
    rfl
  · intro name hListed
    -- the names were given before the members were resolved
    have hBefore : next.Listed id name :=
      hCoherent.filed.listed_of_grows (by rw [hClass]; rfl) hGrows hListed
    exact hAll name ((hMem name).2 hBefore)

/-- An unknown class is reported. -/
theorem resolveWhole_of_not_known (hFaithful : ∀ p ∈ r.extensions.declarations, p.Faithful)
    (h : r.Coherent) {id : ClassId} (hKnown : ¬ Known r.extensions.declarations id) :
    (r.resolveWhole id).1 = .error (.unresolvedClass id) := by
  have hNone : (r.resolveClass id).1 = none := by
    rw [← Option.not_isSome_iff_eq_none, resolveClass_isSome_iff hFaithful h]
    exact hKnown
  rw [resolveWhole]
  split
  · rfl
  · rename_i decl next hResult
    rw [hResult] at hNone
    cases hNone

/-- A class that was resolved with its members is complete, and the answer is the superclass that
the table has for it. -/
theorem resolveWhole_eq_ok (hFaithful : ∀ p ∈ r.extensions.declarations, p.Faithful)
    (h : r.Coherent) {id : ClassId} {supertype : Option ClassId}
    (hWhole : r.resolveWhole id = (.ok supertype, r')) :
    ∃ decl, r'.symbols.class? id = some decl ∧ decl.supertype = supertype ∧ r'.Complete id := by
  have hKnown : Known r.extensions.declarations id := by
    by_contra hNot
    have hError := resolveWhole_of_not_known hFaithful h hNot
    rw [hWhole] at hError
    cases hError
  obtain ⟨decl, next, hResult, hClass, hComplete⟩ := resolveWhole_of_known hFaithful h hKnown
  rw [hWhole] at hResult
  obtain ⟨rfl, rfl⟩ : supertype = decl.supertype ∧ r' = next := by simpa using hResult
  exact ⟨decl, hClass, rfl, hComplete⟩

/-- Resolving one class with its members adds at most that class. -/
theorem resolveWhole_new_class (hFaithful : ∀ p ∈ r.extensions.declarations, p.Faithful)
    {id other : ClassId} {result : Except CompileError (Option ClassId)}
    (hWhole : r.resolveWhole id = (result, r'))
    (hOther : (r'.symbols.class? other).isSome = true) :
    (r.symbols.class? other).isSome = true ∨ other = id := by
  have hStep := r.resolveClass_step id
  rw [resolveWhole] at hWhole
  split at hWhole
  · rename_i next hResult
    rw [hResult] at hStep
    cases hWhole
    exact hStep.new_class hFaithful hOther
  · rename_i decl next hResult
    rw [hResult] at hStep
    refine hStep.new_class hFaithful ?_
    split at hWhole
    · cases hWhole
      exact hOther
    · rename_i names _
      split at hWhole <;>
      · rename_i hMembers
        cases hWhole
        rw [← classes_of_resolveMembers other names hMembers]
        exact hOther

end TwoPhase.Resolver
