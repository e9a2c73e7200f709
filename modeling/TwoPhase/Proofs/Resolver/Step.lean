import Mathlib.Logic.Relation
import TwoPhase.Proofs.Provider.Faithful
import TwoPhase.Proofs.Symbol.Definition
import TwoPhase.Resolver

/-!
# Questions to a resolver, one at a time

Everything that a resolver ever does is a sequence of two questions: for a class and for the
members of one name on a class.  This module says once what each of them can do (`ClassStep`,
`MemberStep`), so that an invariant is proved by a case analysis on these and never by unfolding
the resolver.

## Main results

* `resolveClass_step`, `resolveMember_step` — the two questions do what the relations say.  In
  particular the callables of a member are never defined twice.
* `steps_of_resolveAll` — resolving everything is a sequence of questions, whatever its result.
* `Steps.grows` — questions only add: nothing that was declared or owned is forgotten.
-/

namespace TwoPhase.Resolver

/-! ## The question for a class -/

/-- What asking for a class answers, and the resolver it leaves behind. -/
inductive ClassStep (r : Resolver) (id : ClassId) : Option ClassDecl → Resolver → Prop
  /-- The class was answered for before. -/
  | known (hOwned : (r.owner? id).isSome = true) : ClassStep r id (r.symbols.class? id) r
  /-- The class was asked for before, in vain. -/
  | refused (hOwned : r.owner? id = none) (hRefused : id ∈ r.unresolved) : ClassStep r id none r
  /-- No provider declares the class, which is remembered. -/
  | undeclared {types : TypeTable} (hOwned : r.owner? id = none) (hNew : id ∉ r.unresolved)
      (hAsked : askClass id r.extensions.declarations 0 r.types = (none, types)) :
      ClassStep r id none { r with types, unresolved := id :: r.unresolved }
  /-- The declaration carries an identifier that is defined already. -/
  | clash {types : TypeTable} {index : Nat} {decl : ClassDecl} (hOwned : r.owner? id = none)
      (hNew : id ∉ r.unresolved)
      (hAsked : askClass id r.extensions.declarations 0 r.types = (some (index, decl), types))
      (hDefined : decl.id ∈ r.symbols.classes.map ClassDecl.id) :
      ClassStep r id none { r with types }
  /-- The class is declared and remembered with its provider. -/
  | declared {types : TypeTable} {index : Nat} {decl : ClassDecl} {symbols : SymbolTable}
      (hOwned : r.owner? id = none) (hNew : id ∉ r.unresolved)
      (hAsked : askClass id r.extensions.declarations 0 r.types = (some (index, decl), types))
      (hDefined : r.symbols.defineClass decl = (.ok (), symbols)) :
      ClassStep r id (symbols.class? id)
        { r with types, symbols, owners := (id, .provider index) :: r.owners }

theorem resolveClass_step (r : Resolver) (id : ClassId) :
    ClassStep r id (r.resolveClass id).1 (r.resolveClass id).2 := by
  rw [resolveClass]
  by_cases hOwned : (r.owner? id).isSome = true
  · rw [if_pos hOwned]
    exact .known hOwned
  · rw [if_neg hOwned]
    have hNone : r.owner? id = none := by simpa using hOwned
    by_cases hRefused : id ∈ r.unresolved
    · rw [if_pos hRefused]
      exact .refused hNone hRefused
    · rw [if_neg hRefused]
      split
      · rename_i types hAsked
        exact .undeclared hNone hRefused hAsked
      · rename_i index decl types hAsked
        split
        · rename_i e symbols hRefusal
          obtain ⟨hDefined, _, rfl⟩ := SymbolTable.defineClass_refused_iff.1 hRefusal
          exact .clash hNone hRefused hAsked hDefined
        · rename_i symbols hDefined
          exact .declared hNone hRefused hAsked hDefined

/-! ## The question for members -/

/-- Why asking for members fails.  Nothing changes then. -/
inductive MemberFault (r : Resolver) (owner : ClassId) (name : Name) : CompileError → Prop
  /-- The class was never answered for. -/
  | unowned (hOwner : r.owner? owner = none) : MemberFault r owner name (.unresolvedClass owner)
  /-- The members of the host's class are all there from the start. -/
  | host (hOwner : r.owner? owner = some .host) :
      MemberFault r owner name (.unresolvedMember owner name)
  | undeclared {index : Nat} (hOwner : r.owner? owner = some (.provider index))
      (hClass : r.symbols.class? owner = none) :
      MemberFault r owner name (.unresolvedClass owner)
  | absent {index : Nat} {decl : ClassDecl} (hOwner : r.owner? owner = some (.provider index))
      (hClass : r.symbols.class? owner = some decl)
      (hProvider : r.extensions.declarations[index]? = none) :
      MemberFault r owner name (.unresolvedClass owner)
  /-- The provider does not list the name. -/
  | unlisted {index : Nat} {decl : ClassDecl} {p : DeclarationProvider}
      (hOwner : r.owner? owner = some (.provider index))
      (hClass : r.symbols.class? owner = some decl)
      (hProvider : r.extensions.declarations[index]? = some p)
      (hName : name ∉ p.memberNames decl) :
      MemberFault r owner name (.unresolvedMember owner name)

/-- What asking for members answers, and the resolver it leaves behind. -/
inductive MemberStep (r : Resolver) (owner : ClassId) (name : Name) :
    Except CompileError (List CallableDecl) → Resolver → Prop
  /-- The members were asked for before. -/
  | known (hKnown : r.symbols.hasCallables (.member owner name) = true) :
      MemberStep r owner name (.ok (r.symbols.callables (.member owner name))) r
  | failed {e : CompileError} (hNew : r.symbols.hasCallables (.member owner name) = false)
      (hFault : MemberFault r owner name e) : MemberStep r owner name (.error e) r
  /-- The provider of the class lists the name, and declares the members. -/
  | declared {index : Nat} {decl : ClassDecl} {p : DeclarationProvider}
      {members : List CallableDecl} {types : TypeTable} {symbols : SymbolTable}
      (hNew : r.symbols.hasCallables (.member owner name) = false)
      (hOwner : r.owner? owner = some (.provider index))
      (hClass : r.symbols.class? owner = some decl)
      (hProvider : r.extensions.declarations[index]? = some p)
      (hName : name ∈ p.memberNames decl)
      (hAsked : p.declareMembers (.member owner name) decl r.types = (members, types))
      (hDefined : r.symbols.defineCallables (.member owner name) members = (.ok (), symbols)) :
      MemberStep r owner name (.ok members) { r with types, symbols }

theorem classOf_eq_ok {r : Resolver} {id : ClassId} {decl : ClassDecl}
    (h : r.symbols.class? id = some decl) : r.classOf id = .ok decl := by
  rw [classOf, h]

theorem classOf_eq_error {r : Resolver} {id : ClassId} (h : r.symbols.class? id = none) :
    r.classOf id = .error (.unresolvedClass id) := by
  rw [classOf, h]

theorem resolveMember_step (r : Resolver) (owner : ClassId) (name : Name) :
    MemberStep r owner name (r.resolveMember owner name).1 (r.resolveMember owner name).2 := by
  by_cases hKnown : r.symbols.hasCallables (.member owner name) = true
  · simp only [resolveMember, hKnown, if_true]
    exact .known hKnown
  · have hNew : r.symbols.hasCallables (.member owner name) = false := by simpa using hKnown
    cases hOwner : r.owner? owner with
    | none =>
        simp only [resolveMember, hNew, hOwner, Bool.false_eq_true, if_false]
        exact .failed hNew (.unowned hOwner)
    | some source =>
        cases source with
        | host =>
            simp only [resolveMember, hNew, hOwner, Bool.false_eq_true, if_false]
            exact .failed hNew (.host hOwner)
        | provider index =>
            cases hClass : r.symbols.class? owner with
            | none =>
                simp only [resolveMember, hNew, hOwner, classOf_eq_error hClass,
                  Bool.false_eq_true, if_false]
                exact .failed hNew (.undeclared hOwner hClass)
            | some decl =>
                cases hProvider : r.extensions.declarations[index]? with
                | none =>
                    simp only [resolveMember, hNew, hOwner, classOf_eq_ok hClass, hProvider,
                      Bool.false_eq_true, if_false]
                    exact .failed hNew (.absent hOwner hClass hProvider)
                | some p =>
                    by_cases hName : name ∈ p.memberNames decl
                    · -- the identifier is new, so the table accepts whatever is declared
                      obtain ⟨symbols, hDefined⟩ := SymbolTable.exists_defineCallables_eq_ok
                        (p.declareMembers (.member owner name) decl r.types).1 hNew
                      have hStored := SymbolTable.callables_defineCallables hDefined
                      simp only [resolveMember, hNew, hOwner, classOf_eq_ok hClass, hProvider,
                        if_pos hName, hDefined, hStored, Bool.false_eq_true, if_false]
                      exact .declared hNew hOwner hClass hProvider hName rfl hDefined
                    · simp only [resolveMember, hNew, hOwner, classOf_eq_ok hClass, hProvider,
                        if_neg hName, Bool.false_eq_true, if_false]
                      exact .failed hNew (.unlisted hOwner hClass hProvider hName)

/-! ## Sequences of questions -/

/-- One question to a resolver. -/
inductive Step (r : Resolver) : Resolver → Prop
  | resolveClass (id : ClassId) : Step r (r.resolveClass id).2
  | resolveMember (owner : ClassId) (name : Name) : Step r (r.resolveMember owner name).2

/-- Any number of questions. -/
def Steps : Resolver → Resolver → Prop := Relation.ReflTransGen Step

/-- What both questions preserve is preserved by a step. -/
theorem Step.elim {r r' : Resolver} (h : Step r r') {P : Resolver → Prop}
    (hClass : ∀ {id answer r'}, ClassStep r id answer r' → P r')
    (hMember : ∀ {owner name answer r'}, MemberStep r owner name answer r' → P r') : P r' := by
  cases h with
  | resolveClass id => exact hClass (r.resolveClass_step id)
  | resolveMember owner name => exact hMember (r.resolveMember_step owner name)

/-- An invariant of the single question is one of every sequence of questions. -/
theorem Steps.invariant {P : Resolver → Prop} (hStep : ∀ {r r'}, Step r r' → P r → P r')
    {r r' : Resolver} (h : Steps r r') (hStart : P r) : P r' := by
  induction h with
  | refl => exact hStart
  | tail _ hLast ih => exact hStep hLast ih

theorem steps_of_resolveMembers {owner : ClassId} {result : Except CompileError Unit}
    {r' : Resolver} :
    ∀ (names : List Name) {r : Resolver}, r.resolveMembers owner names = (result, r') →
      Steps r r' := by
  intro names
  induction names with
  | nil => intro r h; cases h; exact .refl
  | cons name rest ih =>
      intro r h
      have hFirst : Step r (r.resolveMember owner name).2 := .resolveMember owner name
      rw [resolveMembers] at h
      split at h
      · rename_i members next hResult
        rw [hResult] at hFirst
        exact .head hFirst (ih h)
      · rename_i e next hResult
        rw [hResult] at hFirst
        cases h
        exact .single hFirst

theorem steps_of_resolveWhole {r r' : Resolver} {id : ClassId}
    {result : Except CompileError (Option ClassId)} (h : r.resolveWhole id = (result, r')) :
    Steps r r' := by
  have hFirst : Step r (r.resolveClass id).2 := .resolveClass id
  rw [resolveWhole] at h
  split at h
  · rename_i next hResult
    rw [hResult] at hFirst
    cases h
    exact .single hFirst
  · rename_i decl next hResult
    rw [hResult] at hFirst
    split at h
    · cases h
      exact .single hFirst
    · rename_i names _
      split at h
      · rename_i e last hMembers
        cases h
        exact .head hFirst (steps_of_resolveMembers names hMembers)
      · rename_i last hMembers
        cases h
        exact .head hFirst (steps_of_resolveMembers names hMembers)

theorem steps_of_resolveStack {result : Except CompileError Unit} {r' : Resolver} :
    ∀ (steps : Nat) (r : Resolver) (stack visited : List ClassId),
      resolveStack steps r stack visited = some (result, r') → Steps r r' := by
  intro steps
  induction steps with
  | zero =>
      intro r stack visited h
      cases stack with
      | nil => cases h; exact .refl
      | cons id rest => cases h
  | succ steps ih =>
      intro r stack visited h
      cases stack with
      | nil => cases h; exact .refl
      | cons id rest =>
          rw [resolveStack] at h
          split at h
          · exact ih r rest visited h
          · split at h
            · rename_i e next hWhole
              cases h
              exact steps_of_resolveWhole hWhole
            · rename_i supertype next hWhole
              exact .trans (steps_of_resolveWhole hWhole) (ih next _ _ h)

/-- **Resolving everything is a sequence of questions**, also when it fails. -/
theorem steps_of_resolveAll {steps : Nat} {r r' : Resolver} {result : Except CompileError Unit}
    (h : r.resolveAll steps = some (result, r')) : Steps r r' :=
  steps_of_resolveStack steps r _ _ h

/-! ## Reachable resolvers -/

/-- One call to a resolver: a question, or a resolution of everything that comes to its end. -/
inductive Call (r : Resolver) : Resolver → Prop
  | resolveClass (id : ClassId) : Call r (r.resolveClass id).2
  | resolveMember (owner : ClassId) (name : Name) : Call r (r.resolveMember owner name).2
  | resolveAll {steps : Nat} {result : Except CompileError Unit} {r' : Resolver}
      (h : r.resolveAll steps = some (result, r')) : Call r r'

/-- A resolver that some sequence of calls makes of a new one. -/
def Reachable (name : String) (extensions : Extensions) : Resolver → Prop :=
  Relation.ReflTransGen Call (start name extensions)

theorem Call.steps {r r' : Resolver} (h : Call r r') : Steps r r' := by
  cases h with
  | resolveClass id => exact .single (.resolveClass id)
  | resolveMember owner name => exact .single (.resolveMember owner name)
  | resolveAll h => exact steps_of_resolveAll h

/-- Calls come down to single questions. -/
theorem steps_of_calls {r later : Resolver} (h : Relation.ReflTransGen Call r later) :
    Steps r later := by
  induction h with
  | refl => exact .refl
  | tail _ hLast ih => exact .trans ih hLast.steps

/-- A reachable resolver is reached by single questions. -/
theorem Reachable.steps {name : String} {extensions : Extensions} {r : Resolver}
    (h : Reachable name extensions r) : Steps (start name extensions) r :=
  steps_of_calls h

/-! ## Growth -/

/-- The second resolver knows all that the first one knows, and asks the same providers. -/
structure Grows (r r' : Resolver) : Prop where
  extensions : r'.extensions = r.extensions
  owner : ∀ {id source}, r.owner? id = some source → r'.owner? id = some source
  classes : ∀ {id decl}, r.symbols.class? id = some decl → r'.symbols.class? id = some decl
  callables : ∀ {id}, r.symbols.hasCallables id = true → r'.symbols.hasCallables id = true

theorem Grows.refl (r : Resolver) : Grows r r := ⟨rfl, id, id, id⟩

theorem Grows.trans {r r' r'' : Resolver} (h : Grows r r') (h' : Grows r' r'') :
    Grows r r'' where
  extensions := h'.extensions.trans h.extensions
  owner hOwner := h'.owner (h.owner hOwner)
  classes hClass := h'.classes (h.classes hClass)
  callables hKnown := h'.callables (h.callables hKnown)

/-- The providers are asked as they are, so they stay faithful. -/
theorem Grows.faithful {r r' : Resolver} (h : Grows r r')
    (hFaithful : ∀ p ∈ r.extensions.declarations, p.Faithful) :
    ∀ p ∈ r'.extensions.declarations, p.Faithful := by
  rw [h.extensions]
  exact hFaithful

/-- The owners after one more class has been answered for. -/
theorem owner?_cons {r r' : Resolver} {id : ClassId} {source : Owner}
    (h : r'.owners = (id, source) :: r.owners) (other : ClassId) :
    r'.owner? other = if other = id then some source else r.owner? other := by
  rw [owner?, h, List.lookup_cons]
  by_cases hEq : other = id
  · simp [hEq]
  · have hBeq : (other == id) = false := by simpa using hEq
    simp [hEq, hBeq, owner?]

theorem ClassStep.grows {r r' : Resolver} {id : ClassId} {answer : Option ClassDecl}
    (h : ClassStep r id answer r') : Grows r r' := by
  cases h with
  | known => exact .refl r
  | refused => exact .refl r
  | undeclared => exact ⟨rfl, fun h => h, fun h => h, fun h => h⟩
  | clash => exact ⟨rfl, fun h => h, fun h => h, fun h => h⟩
  | declared hOwned hNew hAsked hDefined =>
      refine ⟨rfl, ?_, ?_, ?_⟩
      · intro other source hOther
        have hNe : other ≠ id := by
          rintro rfl
          rw [hOwned] at hOther
          cases hOther
        rw [owner?_cons rfl, if_neg hNe]
        exact hOther
      · intro other decl' hOther
        obtain ⟨hFresh, _, _⟩ := SymbolTable.defineClass_eq_ok hDefined
        rw [SymbolTable.class?_defineClass hDefined, if_neg]
        · exact hOther
        · rintro rfl
          exact hFresh (SymbolTable.class?_isSome_iff.1 (by rw [hOther]; rfl))
      · intro other hOther
        rw [SymbolTable.hasCallables_defineClass hDefined]
        exact hOther

theorem MemberStep.grows {r r' : Resolver} {owner : ClassId} {name : Name}
    {answer : Except CompileError (List CallableDecl)} (h : MemberStep r owner name answer r') :
    Grows r r' := by
  cases h with
  | known => exact .refl r
  | failed => exact .refl r
  | declared hNew hOwner hClass hProvider hName hAsked hDefined =>
      refine ⟨rfl, fun h => h, ?_, ?_⟩
      · intro id decl hId
        rw [SymbolTable.class?_defineCallables hDefined]
        exact hId
      · intro id hId
        exact (SymbolTable.hasCallables_defineCallables hDefined id).2 (.inr hId)

/-- The question for a class leaves the callables alone. -/
theorem ClassStep.groups_eq {r r' : Resolver} {id : ClassId} {answer : Option ClassDecl}
    (h : ClassStep r id answer r') : r'.symbols.groups = r.symbols.groups := by
  cases h with
  | known => rfl
  | refused => rfl
  | undeclared => rfl
  | clash => rfl
  | declared _ _ _ hDefined => exact (SymbolTable.defineClass_eq_ok hDefined).2.2

/-- The question for members leaves the classes alone. -/
theorem MemberStep.class?_eq {r r' : Resolver} {owner : ClassId} {name : Name}
    {answer : Except CompileError (List CallableDecl)} (h : MemberStep r owner name answer r')
    (id : ClassId) : r'.symbols.class? id = r.symbols.class? id := by
  cases h with
  | known => rfl
  | failed => rfl
  | declared _ _ _ _ _ _ hDefined => exact SymbolTable.class?_defineCallables hDefined id

/-- **Questions only add.** -/
theorem Steps.grows {r r' : Resolver} (h : Steps r r') : Grows r r' :=
  h.invariant (P := Grows r)
    (fun hStep hGrows => hGrows.trans (hStep.elim ClassStep.grows MemberStep.grows)) (.refl r)

theorem Reachable.extensions_eq {name : String} {extensions : Extensions} {r : Resolver}
    (h : Reachable name extensions r) : r.extensions = extensions :=
  h.steps.grows.extensions

end TwoPhase.Resolver
