import TwoPhase.Proofs.Resolver.Step

/-!
# Symbols are filed under what was asked for

As long as the providers answer under the identifiers they are asked for, a resolver files every
class and every callable where it will look for them.  Nothing else is asked of the providers here:
whether they declare a class may depend on the types that are numbered already, and so on the
history.

## Strategy

`Filed` is the invariant: the classes with an owner are those in the table, and every group of
callables belongs to a member that is *listed*, one that the provider of its class has on its list,
or the host's only one.  Both questions preserve it, whatever their answer.

## Main results

* `filed_of_reachable` — every reachable resolver has its symbols filed.
* `memberNames_eq_ok` — the member names of a class with an owner are its listed members.
* `MemberStep.ok_of_listed` — a listed member can be had.
-/

namespace TwoPhase.Resolver

variable {r r' : Resolver} {id owner : ClassId} {name : Name}

/-! ## Asking the providers -/

/-- The answer for a class was given by the provider at the answered position. -/
theorem provider_of_askClass {position : Nat} {decl : ClassDecl} :
    ∀ (providers : List DeclarationProvider) (index : Nat) (types : TypeTable),
      (askClass id providers index types).1 = some (position, decl) →
      ∃ i p types', position = index + i ∧ providers[i]? = some p ∧
        (p.declareClass id types').1 = some decl := by
  intro providers
  induction providers with
  | nil => intro index types h; cases h
  | cons p rest ih =>
      intro index types h
      have hLater : ∀ types, (askClass id rest (index + 1) types).1 = some (position, decl) →
          ∃ i q types', position = index + i ∧ (p :: rest)[i]? = some q ∧
            (q.declareClass id types').1 = some decl := by
        intro types hRest
        obtain ⟨i, q, types', hPosition, hFound, hGiven⟩ := ih (index + 1) types hRest
        exact ⟨i + 1, q, types', by omega, hFound, hGiven⟩
      rw [askClass] at h
      split at h
      · cases hGiven : (p.declareClass id types).1 with
        | none =>
            simp only [hGiven] at h
            exact hLater _ h
        | some given =>
            simp only [hGiven, Option.some.injEq, Prod.mk.injEq] at h
            obtain ⟨rfl, rfl⟩ := h
            exact ⟨0, p, types, rfl, rfl, hGiven⟩
      · exact hLater types h

section Asked

variable {index : Nat} {decl : ClassDecl} {types : TypeTable}

theorem provider_of_asked
    (hAsked : askClass id r.extensions.declarations 0 r.types = (some (index, decl), types)) :
    ∃ p types', r.extensions.declarations[index]? = some p ∧
      (p.declareClass id types').1 = some decl := by
  obtain ⟨i, p, types', hIndex, hFound, hGiven⟩ :=
    provider_of_askClass _ 0 r.types (congrArg Prod.fst hAsked)
  rw [Nat.zero_add] at hIndex
  subst hIndex
  exact ⟨p, types', hFound, hGiven⟩

/-- The answer carries the identifier that was asked for. -/
theorem id_of_asked (hKeeps : ∀ p ∈ r.extensions.declarations, p.KeepsIds)
    (hAsked : askClass id r.extensions.declarations 0 r.types = (some (index, decl), types)) :
    decl.id = id := by
  obtain ⟨p, _, hFound, hGiven⟩ := provider_of_asked hAsked
  exact (hKeeps p (List.mem_of_getElem? hFound)).class_id hGiven

end Asked

/-! ## Listed members -/

/-- A member that may be asked for: the host's only one, or one that the provider of the class
lists. -/
inductive Listed (r : Resolver) : ClassId → Name → Prop
  | host : Listed r rootClass .init
  | provider {owner : ClassId} {name : Name} {index : Nat} {p : DeclarationProvider}
      {decl : ClassDecl} (hOwner : r.owner? owner = some (.provider index))
      (hProvider : r.extensions.declarations[index]? = some p)
      (hClass : r.symbols.class? owner = some decl) (hName : name ∈ p.memberNames decl) :
      Listed r owner name

/-- Growth keeps members listed. -/
theorem Listed.grows {r r' : Resolver} {owner : ClassId} {name : Name}
    (h : r.Listed owner name) (hGrows : Grows r r') : r'.Listed owner name := by
  cases h with
  | host => exact .host
  | provider hOwner hProvider hClass hName =>
      refine .provider (hGrows.owner hOwner) ?_ (hGrows.classes hClass) hName
      rw [hGrows.extensions]
      exact hProvider

/-! ## The invariant -/

/-- Classes and callables are where the resolver looks for them. -/
structure Filed (r : Resolver) : Prop where
  /-- The classes with an owner are those in the table. -/
  owned : ∀ id, (r.owner? id).isSome = (r.symbols.class? id).isSome
  /-- The constructor of the root class is defined, as it was from the start. -/
  rootGroup : ∃ type, ⟨.constructorOf rootClass, [rootConstructor type]⟩ ∈ r.symbols.groups
  host : ∀ id, r.owner? id = some .host ↔ id = rootClass
  /-- Every other owner is one of the providers. -/
  found : ∀ {id index}, r.owner? id = some (.provider index) →
    ∃ p, r.extensions.declarations[index]? = some p
  overloads : ∀ group ∈ r.symbols.groups, ∀ member ∈ group.overloads, member.id = group.id
  groups : ∀ group ∈ r.symbols.groups,
    ∃ owner name, group.id = .member owner name ∧ r.Listed owner name

section Facts

/-- The root class has an owner from the start. -/
theorem Filed.ne_root (h : r.Filed) (hOwner : r.owner? id = none) : id ≠ rootClass := by
  rintro rfl
  rw [(h.host rootClass).2 rfl] at hOwner
  cases hOwner

theorem Filed.class?_eq_none (h : r.Filed) (hOwner : r.owner? id = none) :
    r.symbols.class? id = none := by
  have hOwned := h.owned id
  rw [hOwner] at hOwned
  simpa using hOwned.symm

/-- Every class in the table has an owner. -/
theorem Filed.exists_owner (h : r.Filed) (hClass : (r.symbols.class? id).isSome = true) :
    ∃ source, r.owner? id = some source := by
  have hOwned := h.owned id
  rw [hClass] at hOwned
  exact Option.isSome_iff_exists.1 hOwned

/-- A class whose members are listed has an owner. -/
theorem Filed.owned_of_listed (h : r.Filed) (hListed : r.Listed owner name) :
    (r.owner? owner).isSome = true := by
  cases hListed with
  | host => rw [(h.host rootClass).2 rfl]; rfl
  | provider hOwner => rw [hOwner]; rfl

/-- Every member of the root class is its constructor. -/
theorem Filed.eq_init (h : r.Filed) (hListed : r.Listed rootClass name) : name = .init := by
  cases hListed with
  | host => rfl
  | provider hOwner =>
      rw [(h.host rootClass).2 rfl] at hOwner
      cases hOwner

/-- What a provider declares for a class without owner is not in the table. -/
theorem Filed.not_mem_of_asked (h : r.Filed)
    (hKeeps : ∀ p ∈ r.extensions.declarations, p.KeepsIds) (hOwner : r.owner? id = none)
    {index : Nat} {decl : ClassDecl} {types : TypeTable}
    (hAsked : askClass id r.extensions.declarations 0 r.types = (some (index, decl), types)) :
    decl.id ∉ r.symbols.classes.map ClassDecl.id := by
  rw [id_of_asked hKeeps hAsked, ← SymbolTable.class?_isSome_iff, h.class?_eq_none hOwner]
  exact Bool.false_ne_true

/-- Every group that was there stays one of a listed member. -/
theorem Filed.groups_of_grows (h : r.Filed) (hGrows : Grows r r') :
    ∀ group ∈ r.symbols.groups,
      ∃ owner name, group.id = .member owner name ∧ r'.Listed owner name := by
  intro group hGroup
  obtain ⟨owner, name, hId, hListed⟩ := h.groups group hGroup
  exact ⟨owner, name, hId, hListed.grows hGrows⟩

/-- The members listed for a class are settled with its declaration: later questions list no
more of them. -/
theorem Filed.listed_of_grows (h : r.Filed) (hClass : (r.symbols.class? id).isSome = true)
    (hGrows : Grows r r') (hListed : r'.Listed id name) : r.Listed id name := by
  obtain ⟨decl, hDecl⟩ := Option.isSome_iff_exists.1 hClass
  rw [← h.owned] at hClass
  obtain ⟨source, hSource⟩ := Option.isSome_iff_exists.1 hClass
  cases hListed with
  | host => exact .host
  | provider hOwner hProvider hDecl' hName =>
      cases (hGrows.owner hSource).symm.trans hOwner
      cases (hGrows.classes hDecl).symm.trans hDecl'
      rw [hGrows.extensions] at hProvider
      exact .provider hSource hProvider hDecl hName

end Facts

theorem filed_start (name : String) (extensions : Extensions) :
    (start name extensions).Filed where
  owned := by
    intro id
    by_cases h : id = rootClass
    · subst h; rfl
    · have hBeq : (id == rootClass) = false := by simpa using h
      have hOther : id ≠ rootDecl.id := h
      simp [start, owner?, List.lookup_cons, hBeq, SymbolTable.class?_ofBuiltin, hOther]
  rootGroup := ⟨_, List.mem_singleton.2 rfl⟩
  host := by
    intro id
    by_cases h : id = rootClass
    · subst h; simp [start, owner?]
    · have hBeq : (id == rootClass) = false := by simpa using h
      simp [start, owner?, List.lookup_cons, hBeq, h]
  found := by
    intro id index h
    by_cases hId : id = rootClass
    · subst hId; simp [start, owner?] at h
    · have hBeq : (id == rootClass) = false := by simpa using hId
      simp [start, owner?, List.lookup_cons, hBeq] at h
  overloads := by
    intro group hGroup member hMember
    have hGroup' : group = ⟨.constructorOf rootClass,
        [rootConstructor (TypeTable.initial.internClass rootClass).1]⟩ :=
      List.mem_singleton.1 hGroup
    subst hGroup'
    rw [List.mem_singleton.1 hMember]
    rfl
  groups := by
    intro group hGroup
    refine ⟨rootClass, .init, ?_, .host⟩
    rw [List.mem_singleton.1 hGroup]
    rfl

/-! ## The questions preserve it -/

section Preservation

/-- Asking for a class, answered or not, leaves everything filed. -/
theorem Filed.classStep (hKeeps : ∀ p ∈ r.extensions.declarations, p.KeepsIds) (h : r.Filed)
    {answer : Option ClassDecl} (hStep : ClassStep r id answer r') : r'.Filed := by
  have hGrows := hStep.grows
  cases hStep with
  | known => exact h
  | refused => exact h
  | undeclared =>
      exact ⟨h.owned, h.rootGroup, h.host, h.found, h.overloads, h.groups_of_grows hGrows⟩
  | clash =>
      exact ⟨h.owned, h.rootGroup, h.host, h.found, h.overloads, h.groups_of_grows hGrows⟩
  | @declared types index decl symbols hOwned hNew hAsked hDefined =>
      have hRoot : id ≠ rootClass := h.ne_root hOwned
      have hGroups : symbols.groups = r.symbols.groups :=
        (SymbolTable.defineClass_eq_ok hDefined).2.2
      refine ⟨?_, hGroups ▸ h.rootGroup, ?_, ?_, hGroups ▸ h.overloads,
        hGroups ▸ h.groups_of_grows hGrows⟩
      · intro other
        show _ = (symbols.class? other).isSome
        rw [owner?_cons rfl, SymbolTable.class?_defineClass hDefined, id_of_asked hKeeps hAsked]
        by_cases hOther : other = id
        · simp [hOther]
        · rw [if_neg hOther, if_neg (Ne.symm hOther)]
          exact h.owned other
      · intro other
        rw [owner?_cons rfl]
        by_cases hOther : other = id
        · simp [hOther, hRoot]
        · rw [if_neg hOther]
          exact h.host other
      · intro other position hOther
        rw [owner?_cons rfl] at hOther
        by_cases hEq : other = id
        · rw [if_pos hEq] at hOther
          cases hOther
          obtain ⟨p, _, hFound, _⟩ := provider_of_asked hAsked
          exact ⟨p, hFound⟩
        · rw [if_neg hEq] at hOther
          exact h.found hOther

/-- Asking for members, answered or not, leaves everything filed. -/
theorem Filed.memberStep (hKeeps : ∀ p ∈ r.extensions.declarations, p.KeepsIds) (h : r.Filed)
    {answer : Except CompileError (List CallableDecl)}
    (hStep : MemberStep r owner name answer r') : r'.Filed := by
  have hGrows := hStep.grows
  cases hStep with
  | known => exact h
  | failed => exact h
  | @declared index decl p members types symbols hNew hOwner hClass hProvider hName hAsked
      hDefined =>
      obtain ⟨_, hGroups, _⟩ := SymbolTable.defineCallables_eq_ok hDefined
      refine ⟨?_, ?_, h.host, h.found, ?_, ?_⟩
      · intro id
        rw [SymbolTable.class?_defineCallables hDefined]
        exact h.owned id
      · obtain ⟨type, hRoot⟩ := h.rootGroup
        refine ⟨type, ?_⟩
        rw [hGroups]
        exact List.mem_append_left _ hRoot
      · intro group hGroup member hMember
        rw [hGroups] at hGroup
        rcases List.mem_append.1 hGroup with hOld | hLast
        · exact h.overloads group hOld member hMember
        · rw [List.mem_singleton.1 hLast] at hMember ⊢
          have hGiven : member ∈
              (p.declareMembers (.member owner name) decl r.types).1 := by
            rw [hAsked]
            exact hMember
          exact (hKeeps p (List.mem_of_getElem? hProvider)).member_id hGiven
      · intro group hGroup
        rw [hGroups] at hGroup
        rcases List.mem_append.1 hGroup with hOld | hLast
        · exact h.groups_of_grows hGrows group hOld
        · refine ⟨owner, name, ?_, ?_⟩
          · rw [List.mem_singleton.1 hLast]
          · exact .provider (hGrows.owner hOwner) hProvider (hGrows.classes hClass) hName

/-- Any number of questions leaves everything filed. -/
theorem Filed.steps (hKeeps : ∀ p ∈ r.extensions.declarations, p.KeepsIds) (h : r.Filed)
    (hSteps : Steps r r') : r'.Filed := by
  induction hSteps with
  | refl => exact h
  | @tail middle last hFirst hLast ih =>
      have hHere : ∀ p ∈ middle.extensions.declarations, p.KeepsIds := by
        rw [(Steps.grows hFirst).extensions]
        exact hKeeps
      exact hLast.elim (ih.classStep hHere) (ih.memberStep hHere)

end Preservation

theorem filed_of_reachable {module : String} {extensions : Extensions}
    (hKeeps : ∀ p ∈ extensions.declarations, p.KeepsIds)
    (hReachable : Reachable module extensions r) : r.Filed :=
  (filed_start module extensions).steps hKeeps hReachable.steps

/-! ## What is answered -/

/-- The members that a resolver gives are those that are listed. -/
theorem memberNames_eq_ok (h : r.Filed) {id : ClassId}
    (hClass : (r.symbols.class? id).isSome = true) :
    ∃ names, r.memberNames id = .ok names ∧ ∀ name, name ∈ names ↔ r.Listed id name := by
  obtain ⟨source, hOwner⟩ := h.exists_owner hClass
  cases source with
  | host =>
      obtain rfl := (h.host id).1 hOwner
      refine ⟨_, by rw [memberNames, hOwner], fun name => ?_⟩
      rw [Order.mem_sortDistinct, List.mem_map]
      constructor
      · rintro ⟨c, hc, rfl⟩
        obtain ⟨hAll, hcOwner⟩ := List.mem_filter.1 hc
        obtain ⟨group, hGroup, hMember⟩ := SymbolTable.mem_allCallables.1 hAll
        obtain ⟨owner, name, hId, hListed⟩ := h.groups group hGroup
        rw [h.overloads group hGroup c hMember, hId] at hcOwner ⊢
        have hEq : owner = rootClass := by simpa [CallableId.member] using hcOwner
        exact hEq ▸ hListed
      · intro hListed
        obtain rfl := h.eq_init hListed
        obtain ⟨type, hRoot⟩ := h.rootGroup
        refine ⟨rootConstructor type, List.mem_filter.2 ⟨?_, by simp [rootConstructor,
          CallableId.constructorOf, CallableId.member]⟩, rfl⟩
        exact SymbolTable.mem_allCallables.2 ⟨_, hRoot, List.mem_singleton_self _⟩
  | provider index =>
      obtain ⟨p, hFound⟩ := h.found hOwner
      obtain ⟨decl, hDecl⟩ := Option.isSome_iff_exists.1 hClass
      refine ⟨Order.sortDistinct (p.memberNames decl), ?_, fun name => ?_⟩
      · rw [memberNames, hOwner]
        simp [classOf_eq_ok hDecl, hFound, bind, Except.bind]
      · rw [Order.mem_sortDistinct]
        constructor
        · exact fun hName => .provider hOwner hFound hDecl hName
        · intro hListed
          cases hListed with
          | host => rw [(h.host rootClass).2 rfl] at hOwner; cases hOwner
          | provider hOwner' hProvider' hDecl' hName =>
              cases hOwner.symm.trans hOwner'
              cases hFound.symm.trans hProvider'
              cases hDecl.symm.trans hDecl'
              exact hName

/-- A listed member is never at fault. -/
theorem MemberFault.not_listed (h : r.Filed) {e : CompileError}
    (hFault : MemberFault r owner name e)
    (hNew : r.symbols.hasCallables (.member owner name) = false) : ¬ r.Listed owner name := by
  intro hListed
  cases hListed with
  | host =>
      -- the root class's constructor was there from the start
      obtain ⟨type, hRoot⟩ := h.rootGroup
      have hKnown := SymbolTable.hasCallables_iff.2
        (List.mem_map_of_mem (f := CallableGroup.id) hRoot)
      rw [CallableId.constructorOf, hNew] at hKnown
      cases hKnown
  | provider hOwner hProvider hClass hName =>
      cases hFault with
      | unowned hOwner' => rw [hOwner] at hOwner'; cases hOwner'
      | host hOwner' => rw [hOwner] at hOwner'; cases hOwner'
      | undeclared hOwner' hClass' => rw [hClass] at hClass'; cases hClass'
      | absent hOwner' hClass' hProvider' =>
          cases hOwner.symm.trans hOwner'
          rw [hProvider] at hProvider'
          cases hProvider'
      | unlisted hOwner' hClass' hProvider' hName' =>
          cases hOwner.symm.trans hOwner'
          cases hProvider.symm.trans hProvider'
          cases hClass.symm.trans hClass'
          exact hName' hName

/-- A listed member can be had, and is remembered then. -/
theorem MemberStep.ok_of_listed (h : r.Filed) {answer : Except CompileError (List CallableDecl)}
    (hStep : MemberStep r owner name answer r') (hListed : r.Listed owner name) :
    (∃ members, answer = .ok members) ∧
      r'.symbols.hasCallables (.member owner name) = true := by
  cases hStep with
  | known hKnown => exact ⟨⟨_, rfl⟩, hKnown⟩
  | declared hNew hOwner hClass hProvider hName hAsked hDefined =>
      exact ⟨⟨_, rfl⟩, (SymbolTable.hasCallables_defineCallables hDefined _).2 (.inl rfl)⟩
  | failed hNew hFault => exact absurd hListed (hFault.not_listed h hNew)

end TwoPhase.Resolver
