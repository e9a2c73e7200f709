import TwoPhase.Proofs.Resolver.Filing

/-!
# What a resolver remembers is coherent

A resolver keeps its answers in four places: the owners of classes, the classes that nobody
declares, and the symbol table with its classes and its callables.  Questions come in any order,
may fail, and may be cut off by an error in the middle of resolving everything.  As long as the
providers are faithful, the four places agree all the same.

## Strategy

`Coherent` is the invariant.  It adds to `Filed` where things came from: the declaration of a class
is that of the first provider to declare it, and a class that is noted as unknown is one that no
provider declares.  For this the providers have to be settled on what they declare.  `ClassStep` and
`MemberStep` preserve it, hence every sequence of questions does.

## Main results

* `askClass_eq_none_iff`, `exists_first_of_askClass` — asking all providers finds the first one
  that declares the class.
* `coherent_of_reachable` — every reachable resolver is coherent.
* `agrees_of_reachable` — what the four places then say of each other.
-/

namespace TwoPhase.Resolver

open DeclarationProvider (FirstToDeclare)

/-! ## Asking the providers -/

/-- Asking a faithful provider and those behind it. -/
private theorem askClass_cons {p : DeclarationProvider} (hFaithful : p.Faithful)
    (rest : List DeclarationProvider) (id : ClassId) (index : Nat) (types : TypeTable) :
    (p.Declares id ∧ ∃ decl, (p.declareClass id types).1 = some decl ∧
      (askClass id (p :: rest) index types).1 = some (index, decl)) ∨
    (¬ p.Declares id ∧ ∃ types',
      (askClass id (p :: rest) index types).1 = (askClass id rest (index + 1) types').1) := by
  rw [hFaithful.declares_iff types, askClass]
  by_cases hNamespace : p.hasNamespace id.package = true
  · rw [if_pos hNamespace]
    cases hAnswer : (p.declareClass id types).1 with
    | none =>
        refine .inr ⟨by simp, (p.declareClass id types).2, ?_⟩
        simp [hAnswer]
    | some decl =>
        refine .inl ⟨⟨hNamespace, rfl⟩, decl, rfl, ?_⟩
        simp [hAnswer]
  · rw [if_neg hNamespace]
    exact .inr ⟨fun h => hNamespace h.1, types, rfl⟩

/-- Nobody answers for a class exactly if nobody declares it. -/
theorem askClass_eq_none_iff {id : ClassId} :
    ∀ (providers : List DeclarationProvider) (index : Nat) (types : TypeTable),
      (∀ p ∈ providers, p.Faithful) →
      ((askClass id providers index types).1 = none ↔ ∀ p ∈ providers, ¬ p.Declares id) := by
  intro providers
  induction providers with
  | nil => intro index types _; simp [askClass]
  | cons p rest ih =>
      intro index types hFaithful
      have hRest : ∀ q ∈ rest, q.Faithful := fun q hq => hFaithful q (List.mem_cons_of_mem p hq)
      rw [List.forall_mem_cons]
      rcases askClass_cons (hFaithful p List.mem_cons_self) rest id index types with
        ⟨hDeclares, decl, _, hEq⟩ | ⟨hNot, types', hEq⟩
      · rw [hEq]
        exact ⟨fun h => absurd h (Option.some_ne_none _), fun h => absurd hDeclares h.1⟩
      · rw [hEq, ih (index + 1) types' hRest]
        exact ⟨fun h => ⟨hNot, h⟩, fun h => h.2⟩

/-- The answer for a class comes from the first provider that declares it. -/
theorem exists_first_of_askClass {id : ClassId} {position : Nat} {decl : ClassDecl} :
    ∀ (providers : List DeclarationProvider) (index : Nat) (types : TypeTable),
      (∀ p ∈ providers, p.Faithful) →
      (askClass id providers index types).1 = some (position, decl) →
      ∃ i p types', position = index + i ∧ FirstToDeclare providers id i p ∧
        (p.declareClass id types').1 = some decl := by
  intro providers
  induction providers with
  | nil => intro index types _ h; cases h
  | cons p rest ih =>
      intro index types hFaithful h
      have hRest : ∀ q ∈ rest, q.Faithful := fun q hq => hFaithful q (List.mem_cons_of_mem p hq)
      rcases askClass_cons (hFaithful p List.mem_cons_self) rest id index types with
        ⟨hDeclares, decl', hAnswer, hEq⟩ | ⟨hNot, types', hEq⟩
      · rw [hEq] at h
        cases h
        exact ⟨0, p, types, rfl, .head hDeclares rest, hAnswer⟩
      · rw [hEq] at h
        obtain ⟨i, q, types'', hPosition, hFirst, hAnswer⟩ := ih (index + 1) types' hRest h
        exact ⟨i + 1, q, types'', by omega, hFirst.tail hNot, hAnswer⟩

/-- A class that was answered for comes from the first provider that declares it, under the
identifier that was asked for. -/
theorem exists_first_of_asked {r : Resolver} {id : ClassId} {index : Nat} {decl : ClassDecl}
    {types : TypeTable} (hFaithful : ∀ p ∈ r.extensions.declarations, p.Faithful)
    (hAsked : askClass id r.extensions.declarations 0 r.types = (some (index, decl), types)) :
    decl.id = id ∧ ∃ p types', FirstToDeclare r.extensions.declarations id index p ∧
      (p.declareClass id types').1 = some decl := by
  obtain ⟨i, p, types', hIndex, hFirst, hAnswer⟩ :=
    exists_first_of_askClass _ 0 r.types hFaithful (congrArg Prod.fst hAsked)
  rw [Nat.zero_add] at hIndex
  subst hIndex
  exact ⟨(hFaithful p hFirst.mem).class_id hAnswer, p, types', hFirst, hAnswer⟩

/-! ## The invariant -/

/-- The answers that a resolver remembers fit each other and its providers. -/
structure Coherent (r : Resolver) : Prop where
  /-- The classes with an owner are those in the table. -/
  owned : ∀ id, (r.owner? id).isSome = (r.symbols.class? id).isSome
  root : r.symbols.class? rootClass = some rootDecl
  /-- The constructor of the root class is defined, as it was from the start. -/
  rootGroup : ∃ type, ⟨.constructorOf rootClass, [rootConstructor type]⟩ ∈ r.symbols.groups
  host : ∀ id, r.owner? id = some .host ↔ id = rootClass
  /-- A class belongs to the first provider that declares it, and the table has the declaration
  that this provider gave. -/
  provided : ∀ {id index}, r.owner? id = some (.provider index) →
    ∃ p types decl, FirstToDeclare r.extensions.declarations id index p ∧
      (p.declareClass id types).1 = some decl ∧ r.symbols.class? id = some decl
  unresolved : ∀ id ∈ r.unresolved,
    r.owner? id = none ∧ ∀ p ∈ r.extensions.declarations, ¬ p.Declares id
  overloads : ∀ group ∈ r.symbols.groups, ∀ member ∈ group.overloads, member.id = group.id
  groups : ∀ group ∈ r.symbols.groups,
    ∃ owner name, group.id = .member owner name ∧ r.Listed owner name

section Facts

variable {r : Resolver} {id : ClassId}

/-- What is remembered coherently is filed where it is looked for. -/
theorem Coherent.filed (h : r.Coherent) : r.Filed where
  owned := h.owned
  rootGroup := h.rootGroup
  host := h.host
  found := by
    intro id index hOwner
    obtain ⟨p, _, _, hFirst, _⟩ := h.provided hOwner
    exact ⟨p, hFirst.found⟩
  overloads := h.overloads
  groups := h.groups

/-- Every declaration in the table, the root class's apart, is one that the first provider to
declare the class has given. -/
theorem Coherent.exists_source (h : r.Coherent) {decl : ClassDecl}
    (hClass : r.symbols.class? id = some decl) :
    id = rootClass ∨ ∃ index p types, FirstToDeclare r.extensions.declarations id index p ∧
      (p.declareClass id types).1 = some decl := by
  obtain ⟨source, hSource⟩ := h.filed.exists_owner (by rw [hClass]; rfl)
  cases source with
  | host => exact .inl ((h.host id).1 hSource)
  | provider index =>
      obtain ⟨p, types, decl', hFirst, hAnswer, hClass'⟩ := h.provided hSource
      cases hClass.symm.trans hClass'
      exact .inr ⟨index, p, types, hFirst, hAnswer⟩

end Facts

/-- What is filed is remembered coherently if the classes came from the first to declare them and
the refused ones are declared by nobody. -/
theorem Filed.coherent {r : Resolver} (h : r.Filed)
    (hRoot : r.symbols.class? rootClass = some rootDecl)
    (hProvided : ∀ {id index}, r.owner? id = some (.provider index) →
      ∃ p types decl, FirstToDeclare r.extensions.declarations id index p ∧
        (p.declareClass id types).1 = some decl ∧ r.symbols.class? id = some decl)
    (hUnresolved : ∀ id ∈ r.unresolved,
      r.owner? id = none ∧ ∀ p ∈ r.extensions.declarations, ¬ p.Declares id) : r.Coherent :=
  ⟨h.owned, hRoot, h.rootGroup, h.host, hProvided, hUnresolved, h.overloads, h.groups⟩

theorem coherent_start (name : String) (extensions : Extensions) :
    (start name extensions).Coherent := by
  refine (filed_start name extensions).coherent rfl ?_ ?_
  · intro id index hOwner
    -- the host owns the only class that has an owner
    have hRoot : id = rootClass := by
      have hOwned := (filed_start name extensions).owned id
      rw [hOwner] at hOwned
      exact List.mem_singleton.1 (SymbolTable.class?_isSome_iff.1 hOwned.symm)
    rw [((filed_start name extensions).host id).2 hRoot] at hOwner
    cases hOwner
  · intro id h
    cases h

/-! ## The steps preserve it -/

section Preservation

variable {r r' : Resolver}

/-- Asking for a class, answered or not, leaves a coherent resolver. -/
theorem Coherent.classStep (hFaithful : ∀ p ∈ r.extensions.declarations, p.Faithful)
    (h : r.Coherent) {id : ClassId} {answer : Option ClassDecl}
    (hStep : ClassStep r id answer r') : r'.Coherent := by
  have hKeeps : ∀ p ∈ r.extensions.declarations, p.KeepsIds :=
    fun p hp => (hFaithful p hp).keepsIds
  have hFiled := h.filed.classStep hKeeps hStep
  refine hFiled.coherent (hStep.grows.classes h.root) ?_ ?_
  · intro other position hOther
    cases hStep with
    | @declared types index decl symbols hOwned hNew hAsked hDefined =>
        obtain ⟨hId, p, types', hFirst, hAnswer⟩ := exists_first_of_asked hFaithful hAsked
        show ∃ p types decl, _ ∧ _ ∧ symbols.class? other = some decl
        rw [SymbolTable.class?_defineClass hDefined, hId]
        rw [owner?_cons rfl] at hOther
        by_cases hEq : other = id
        · subst hEq
          rw [if_pos rfl] at hOther
          cases hOther
          exact ⟨p, types', decl, hFirst, hAnswer, if_pos rfl⟩
        · rw [if_neg hEq] at hOther
          rw [if_neg (Ne.symm hEq)]
          exact h.provided hOther
    | _ => exact h.provided hOther
  · intro other hOther
    cases hStep with
    | undeclared hOwned hNew hAsked =>
        rcases List.mem_cons.1 hOther with rfl | hOther
        · exact ⟨hOwned,
            (askClass_eq_none_iff _ 0 r.types hFaithful).1 (congrArg Prod.fst hAsked)⟩
        · exact h.unresolved other hOther
    | declared hOwned hNew hAsked hDefined =>
        obtain ⟨hNone, hNobody⟩ := h.unresolved other hOther
        have hNe : other ≠ id := by
          rintro rfl
          exact hNew hOther
        rw [owner?_cons rfl, if_neg hNe]
        exact ⟨hNone, hNobody⟩
    | _ => exact h.unresolved other hOther

/-- Asking for members, answered or not, leaves a coherent resolver. -/
theorem Coherent.memberStep (hFaithful : ∀ p ∈ r.extensions.declarations, p.Faithful)
    (h : r.Coherent) {owner : ClassId} {name : Name}
    {answer : Except CompileError (List CallableDecl)}
    (hStep : MemberStep r owner name answer r') : r'.Coherent := by
  have hFiled := h.filed.memberStep (fun p hp => (hFaithful p hp).keepsIds) hStep
  have hRoot := hStep.grows.classes h.root
  have hClass := hStep.class?_eq
  cases hStep with
  | known => exact h
  | failed => exact h
  | declared =>
      refine hFiled.coherent hRoot ?_ h.unresolved
      intro id position hId
      rw [hClass]
      exact h.provided hId

end Preservation

/-- Every sequence of questions leaves a coherent resolver. -/
theorem Coherent.steps {r r' : Resolver}
    (hFaithful : ∀ p ∈ r.extensions.declarations, p.Faithful) (h : r.Coherent)
    (hSteps : Steps r r') : r'.Coherent := by
  induction hSteps with
  | refl => exact h
  | @tail middle last hFirst hLast ih =>
      have hFaithful' := (Steps.grows hFirst).faithful hFaithful
      exact hLast.elim (ih.classStep hFaithful') (ih.memberStep hFaithful')

theorem coherent_of_reachable {name : String} {extensions : Extensions} {r : Resolver}
    (hFaithful : ∀ p ∈ extensions.declarations, p.Faithful)
    (h : Reachable name extensions r) : r.Coherent :=
  (coherent_start name extensions).steps hFaithful h.steps

/-! ## What the four places say of each other -/

/-- Every class with an owner is remembered as the latest entry for it. -/
theorem mem_owners_iff {r : Resolver} {id : ClassId} :
    id ∈ r.owners.map Prod.fst ↔ (r.owner? id).isSome = true := by
  rw [owner?]
  induction r.owners with
  | nil => simp
  | cons entry rest ih =>
      rw [List.lookup_cons, List.map_cons, List.mem_cons, ih]
      by_cases h : id = entry.1
      · simp [h]
      · have hBeq : (id == entry.1) = false := by simpa using h
        simp [h, hBeq]

/-- The owners, the refused classes and the two parts of the symbol table agree. -/
structure Agrees (providers : List DeclarationProvider) (r : Resolver) : Prop where
  /-- The classes with an owner, the classes that a lookup finds and the classes listed in the
  order of definition are the same. -/
  owned_iff : ∀ id,
    id ∈ r.owners.map Prod.fst ↔ id ∈ r.symbols.classes.map ClassDecl.id
  found_iff : ∀ id,
    (r.symbols.class? id).isSome = true ↔ id ∈ r.symbols.classes.map ClassDecl.id
  classes_nodup : (r.symbols.classes.map ClassDecl.id).Nodup
  class_id : ∀ {id decl}, r.symbols.class? id = some decl → decl.id = id
  unresolved_disjoint : ∀ id ∈ r.unresolved, id ∉ r.owners.map Prod.fst
  host_iff : ∀ id, r.owner? id = some .host ↔ id = rootClass
  /-- Any other class belongs to the first provider that declares it. -/
  provider_first : ∀ {id index}, r.owner? id = some (.provider index) →
    index < providers.length ∧ ∃ p, FirstToDeclare providers id index p
  groups_nodup : (r.symbols.groups.map CallableGroup.id).Nodup
  callables_iff : ∀ id,
    r.symbols.hasCallables id = true ↔ id ∈ r.symbols.groups.map CallableGroup.id
  callable_id : ∀ {id}, ∀ c ∈ r.symbols.callables id, c.id = id
  /-- Callables are the members of classes with an owner. -/
  callable_owner : ∀ {id}, r.symbols.hasCallables id = true →
    ∃ owner name, id = .member owner name ∧ owner ∈ r.owners.map Prod.fst

/-- A group that a lookup finds holds what the enumeration lists under its identifier. -/
private theorem exists_group_of_mem_callables {t : SymbolTable} {id : CallableId}
    {c : CallableDecl} (h : c ∈ t.callables id) :
    ∃ group ∈ t.groups, group.id = id ∧ c ∈ group.overloads := by
  rw [SymbolTable.callables_eq] at h
  cases hGroup : t.group? id with
  | none => simp [hGroup] at h
  | some group =>
      rw [hGroup] at h
      obtain ⟨hMem, hId⟩ := SymbolTable.group?_eq_some_iff.1 hGroup
      exact ⟨group, hMem, hId, h⟩

/-- **The cache is consistent in every reachable state.**  However the questions for classes
and members and the resolutions of everything are interleaved, and whichever of them failed:
owners and symbol table know the same classes, refused classes have no owner, owners are the
first providers to declare their class, and every callable is filed under its own identifier. -/
theorem agrees_of_reachable {name : String} {extensions : Extensions} {r : Resolver}
    (hFaithful : ∀ p ∈ extensions.declarations, p.Faithful)
    (hReachable : Reachable name extensions r) : Agrees extensions.declarations r := by
  have h : r.Coherent := coherent_of_reachable hFaithful hReachable
  have hExtensions : r.extensions = extensions := hReachable.extensions_eq
  refine
    { owned_iff := ?_
      found_iff := fun id => SymbolTable.class?_isSome_iff
      classes_nodup := r.symbols.classes_nodup
      class_id := SymbolTable.id_of_class?
      unresolved_disjoint := ?_
      host_iff := h.host
      provider_first := ?_
      groups_nodup := r.symbols.groups_nodup
      callables_iff := fun id => SymbolTable.hasCallables_iff
      callable_id := ?_
      callable_owner := ?_ }
  · intro id
    rw [mem_owners_iff, h.owned, SymbolTable.class?_isSome_iff]
  · intro id hId hOwned
    rw [mem_owners_iff, (h.unresolved id hId).1] at hOwned
    cases hOwned
  · intro id index hOwner
    obtain ⟨p, types, decl, hFirst, _, _⟩ := h.provided hOwner
    rw [hExtensions] at hFirst
    exact ⟨(List.getElem?_eq_some_iff.1 hFirst.found).1, p, hFirst⟩
  · intro id c hc
    obtain ⟨group, hGroup, hId, hMem⟩ := exists_group_of_mem_callables hc
    rw [← hId]
    exact h.overloads group hGroup c hMem
  · intro id hId
    rw [SymbolTable.hasCallables_iff, List.mem_map] at hId
    obtain ⟨group, hGroup, rfl⟩ := hId
    obtain ⟨owner, member, hMember, hListed⟩ := h.groups group hGroup
    exact ⟨owner, member, hMember, mem_owners_iff.2 (h.filed.owned_of_listed hListed)⟩

/-- A class is refused, another one declared and a member of it asked for twice. -/
theorem ring_agrees :
    let extensions : Extensions := ⟨[Catalogue.ring.provider], []⟩
    let asked := ((start "main" extensions).resolveClass ⟨⟨[]⟩, ⟨"Nothing"⟩⟩).2
    let declared := (asked.resolveClass Catalogue.Ring.right).2
    let filled := (declared.resolveMember Catalogue.Ring.right .init).2
    Reachable "main" extensions filled ∧ Agrees extensions.declarations filled := by
  intro extensions asked declared filled
  have hReachable : Reachable "main" extensions filled :=
    .tail (.tail (.tail .refl (.resolveClass ⟨⟨[]⟩, ⟨"Nothing"⟩⟩))
      (.resolveClass Catalogue.Ring.right)) (.resolveMember Catalogue.Ring.right .init)
  exact ⟨hReachable, agrees_of_reachable Catalogue.ring_faithful hReachable⟩

end TwoPhase.Resolver
