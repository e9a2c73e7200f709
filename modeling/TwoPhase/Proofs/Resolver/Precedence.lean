import TwoPhase.Proofs.Machine.Control
import TwoPhase.Proofs.Resolver.Filing

/-!
# Those who were installed first have precedence

More providers may be installed behind those that are there.  Two resolvers are asked the same
questions, and only the second one has the additional providers.  What the first one finds the
second one finds as well, and it is the same: a class keeps its declaration, and its members come
from the provider that declared it.  The additional providers only fill gaps.

They may be asked all the same, before the answer of another provider is taken.  So they must leave
no trace in the type table, or else the numbers in later answers would differ.

## Strategy

The two resolvers soon remember different things: the second one may own a class that the first one
has noted as unknown.  `Ahead` says how far they may differ.  They have been asked for the same
classes, and they agree on all classes that the first one owns, with all their members; what the
second one owns beyond that comes from the additional providers.  Every question preserves this.

## Main results

* `askClass_append` — asking two lists of providers, one behind the other.
* `Ahead.resolveClass`, `Ahead.resolveMember` — one question to both resolvers.
* `later_providers_stand_back` — any questions, and the bodies.
-/

namespace TwoPhase

/-- A provider that declares things without numbering a type. -/
structure DeclarationProvider.Typeless (p : DeclarationProvider) : Prop where
  declareClass : ∀ id types, (p.declareClass id types).2 = types
  declareMembers : ∀ id owner types, (p.declareMembers id owner types).2 = types

namespace Resolver

variable {r r' s s' : Resolver} {added : List DeclarationProvider} {id owner : ClassId}
  {name : Name}

/-! ## Two lists of providers -/

/-- The second list is asked with the types that the first one leaves behind, and its answer counts
if the first one has none. -/
theorem askClass_append (id : ClassId) (ps qs : List DeclarationProvider) (index : Nat)
    (types : TypeTable) :
    let first := askClass id ps index types
    let later := askClass id qs (index + ps.length) first.2
    askClass id (ps ++ qs) index types = (first.1.or later.1, later.2) := by
  induction ps generalizing index types with
  | nil => simp [askClass]
  | cons p rest ih =>
      have hLength : index + (p :: rest).length = index + 1 + rest.length := by
        simp only [List.length_cons]
        omega
      rw [List.cons_append, askClass, askClass, hLength]
      by_cases hNamespace : p.hasNamespace id.package = true
      · simp only [if_pos hNamespace, ih]
        cases (p.declareClass id types).1 with
        | none => rfl
        | some decl => rfl
      · simp only [if_neg hNamespace, ih]

theorem types_of_askClass (id : ClassId) (hTypeless : ∀ p ∈ added, p.Typeless) (index : Nat)
    (types : TypeTable) : (askClass id added index types).2 = types := by
  induction added generalizing index with
  | nil => rfl
  | cons p rest ih =>
      obtain ⟨hFirst, hRest⟩ := List.forall_mem_cons.1 hTypeless
      rw [askClass]
      split
      · simp only [hFirst.declareClass, ih hRest]
        split
        · rfl
        · rfl
      · exact ih hRest (index + 1)

/-! ## A class that was not asked for -/

theorem resolveClass_of_asked_before
    (hAsked : (r.owner? id).isSome = true ∨ id ∈ r.unresolved) : (r.resolveClass id).2 = r := by
  have hStep := r.resolveClass_step id
  generalize (r.resolveClass id).1 = answer, (r.resolveClass id).2 = next at hStep
  cases hStep with
  | known => rfl
  | refused => rfl
  | undeclared hOwned hNew => simp [hOwned, hNew] at hAsked
  | clash hOwned hNew => simp [hOwned, hNew] at hAsked
  | declared hOwned hNew => simp [hOwned, hNew] at hAsked

theorem resolveClass_of_undeclared (hOwner : r.owner? id = none) (hNew : id ∉ r.unresolved)
    (hNone : (askClass id r.extensions.declarations 0 r.types).1 = none) :
    r.resolveClass id = (none, { r with
      types := (askClass id r.extensions.declarations 0 r.types).2
      unresolved := id :: r.unresolved }) := by
  unfold resolveClass
  rw [if_neg (by simp [hOwner]), if_neg hNew]
  generalize askClass id r.extensions.declarations 0 r.types = asked at hNone
  obtain ⟨answer, types⟩ := asked
  cases hNone
  rfl

/-- The declaration is filed under the class that was asked for, which is not taken. -/
theorem resolveClass_of_declared (hKeeps : ∀ p ∈ r.extensions.declarations, p.KeepsIds)
    (h : r.Filed) (hOwner : r.owner? id = none) (hNew : id ∉ r.unresolved) {index : Nat}
    {decl : ClassDecl}
    (hSome : (askClass id r.extensions.declarations 0 r.types).1 = some (index, decl)) :
    decl.id = id ∧ ∃ symbols, r.symbols.defineClass decl = (.ok (), symbols) ∧
      r.resolveClass id = (some decl, { r with
        types := (askClass id r.extensions.declarations 0 r.types).2
        symbols
        owners := (id, .provider index) :: r.owners }) := by
  have hAsked : askClass id r.extensions.declarations 0 r.types =
      (some (index, decl), (askClass id r.extensions.declarations 0 r.types).2) :=
    Prod.ext hSome rfl
  have hId := id_of_asked hKeeps hAsked
  have hFree := h.not_mem_of_asked hKeeps hOwner hAsked
  obtain ⟨symbols, hDefined⟩ := SymbolTable.exists_defineClass_eq_ok hFree
  refine ⟨hId, symbols, hDefined, ?_⟩
  unfold resolveClass
  rw [if_neg (by simp [hOwner]), if_neg hNew, hAsked]
  simp only [hDefined]
  rw [SymbolTable.class?_defineClass hDefined, if_pos hId]

/-! ## How far two resolvers may differ -/

/-- The second resolver has more providers, behind those of the first one.  Both were asked for the
same classes.  They agree on the classes of the first one; all other classes of the second one come
from the additional providers. -/
structure Ahead (added : List DeclarationProvider) (r s : Resolver) : Prop where
  providers : s.extensions.declarations = r.extensions.declarations ++ added
  types : s.types = r.types
  asked : ∀ id, (r.owner? id).isSome = true ∨ id ∈ r.unresolved ↔
    (s.owner? id).isSome = true ∨ id ∈ s.unresolved
  owner : ∀ {id}, (r.owner? id).isSome = true → s.owner? id = r.owner? id
  /-- A class that only the second resolver owns is owned by an additional provider. -/
  beyond : ∀ {id source}, r.owner? id = none → s.owner? id = some source →
    ∃ index, source = .provider (r.extensions.declarations.length + index)
  classes : ∀ {id}, (r.owner? id).isSome = true → s.symbols.class? id = r.symbols.class? id
  groups : ∀ {owner}, (r.owner? owner).isSome = true → ∀ name,
    s.symbols.group? (.member owner name) = r.symbols.group? (.member owner name)

theorem ahead_start (module : String) (declarations added : List DeclarationProvider)
    (bodies bodies' : List BodyProvider) :
    Ahead added (start module ⟨declarations, bodies⟩)
      (start module ⟨declarations ++ added, bodies'⟩) where
  providers := rfl
  types := rfl
  asked := fun _ => Iff.rfl
  owner := fun _ => rfl
  beyond := by
    intro id source hNone hSome
    cases hNone.symm.trans hSome
  classes := fun _ => rfl
  groups := fun _ _ => rfl

/-- The types that one question leaves behind are the same. -/
theorem Ahead.askClass_eq (h : Ahead added r s) (hTypeless : ∀ p ∈ added, p.Typeless)
    (id : ClassId) :
    let first := askClass id r.extensions.declarations 0 r.types
    askClass id s.extensions.declarations 0 s.types =
      (first.1.or (askClass id added r.extensions.declarations.length first.2).1, first.2) := by
  rw [h.providers, h.types, askClass_append, types_of_askClass id hTypeless, Nat.zero_add]

/-- A provider of the first resolver is at the same place in the second one. -/
theorem Ahead.provider (h : Ahead added r s) {index : Nat} {p : DeclarationProvider}
    (hFound : r.extensions.declarations[index]? = some p) :
    s.extensions.declarations[index]? = some p := by
  have hLt := (List.getElem?_eq_some_iff.1 hFound).1
  rw [h.providers, List.getElem?_append_left hLt]
  exact hFound

/-! ## Both find the same class -/

section ClassQuestion

variable {types : TypeTable} {decl : ClassDecl}

/-- Neither finds the class. -/
theorem Ahead.refused (h : Ahead added r s) (id : ClassId) (types : TypeTable) :
    Ahead added { r with types, unresolved := id :: r.unresolved }
      { s with types, unresolved := id :: s.unresolved } := by
  refine ⟨h.providers, rfl, ?_, h.owner, h.beyond, h.classes, h.groups⟩
  intro other
  have hAsked := h.asked other
  simp only [owner?, List.mem_cons] at hAsked ⊢
  tauto

/-- Only the second resolver finds the class, with an additional provider. -/
theorem Ahead.filled (h : Ahead added r s) (hOwner : r.owner? id = none)
    (hId : decl.id = id) {symbols : SymbolTable}
    (hDefined : s.symbols.defineClass decl = (.ok (), symbols))
    (index : Nat) (types : TypeTable) :
    Ahead added { r with types, unresolved := id :: r.unresolved }
      { s with types, symbols, owners :=
        (id, .provider (r.extensions.declarations.length + index)) :: s.owners } := by
  have hNow := @owner?_cons s { s with
    types, symbols
    owners := (id, .provider (r.extensions.declarations.length + index)) :: s.owners } id _ rfl
  have hOther : ∀ {other}, (r.owner? other).isSome = true → other ≠ id := by
    rintro other hOwned rfl
    rw [hOwner] at hOwned
    cases hOwned
  refine ⟨h.providers, rfl, ?_, ?_, ?_, ?_, ?_⟩
  · intro other
    have hAsked := h.asked other
    show (r.owner? other).isSome = true ∨ other ∈ id :: r.unresolved ↔ _
    rw [hNow]
    by_cases hEq : other = id
    · simp [hEq]
    · rw [if_neg hEq]
      simpa [hEq] using hAsked
  · intro other hOwned
    rw [hNow, if_neg (hOther hOwned)]
    exact h.owner hOwned
  · intro other source hNone hSome
    rw [hNow] at hSome
    by_cases hEq : other = id
    · rw [if_pos hEq] at hSome
      cases hSome
      exact ⟨index, rfl⟩
    · rw [if_neg hEq] at hSome
      exact h.beyond hNone hSome
  · intro other hOwned
    show symbols.class? other = _
    rw [SymbolTable.class?_defineClass hDefined, hId, if_neg (hOther hOwned).symm]
    exact h.classes hOwned
  · intro other hOwned name
    show symbols.group? _ = _
    rw [SymbolTable.group?_defineClass hDefined]
    exact h.groups hOwned name

/-- Both find the class, with the same provider. -/
theorem Ahead.declared (h : Ahead added r s) (hId : decl.id = id) {symbols symbols' : SymbolTable}
    (hDefined : r.symbols.defineClass decl = (.ok (), symbols))
    (hDefined' : s.symbols.defineClass decl = (.ok (), symbols'))
    (hMembers : ∀ name, s.symbols.group? (.member id name) = r.symbols.group? (.member id name))
    (source : Owner) (types : TypeTable) :
    Ahead added { r with types, symbols, owners := (id, source) :: r.owners }
      { s with types, symbols := symbols', owners := (id, source) :: s.owners } := by
  have hFirst := @owner?_cons r
    { r with types, symbols, owners := (id, source) :: r.owners } id _ rfl
  have hSecond := @owner?_cons s
    { s with types, symbols := symbols', owners := (id, source) :: s.owners } id _ rfl
  refine ⟨h.providers, rfl, ?_, ?_, ?_, ?_, ?_⟩
  · intro other
    have hAsked := h.asked other
    rw [hFirst, hSecond]
    by_cases hEq : other = id
    · simp [hEq]
    · rw [if_neg hEq, if_neg hEq]
      exact hAsked
  · intro other hOwned
    rw [hFirst] at hOwned
    rw [hFirst, hSecond]
    by_cases hEq : other = id
    · rw [if_pos hEq, if_pos hEq]
    · rw [if_neg hEq] at hOwned
      rw [if_neg hEq, if_neg hEq]
      exact h.owner hOwned
  · intro other source' hNone hSome
    rw [hFirst] at hNone
    rw [hSecond] at hSome
    by_cases hEq : other = id
    · rw [if_pos hEq] at hNone
      cases hNone
    · rw [if_neg hEq] at hNone hSome
      exact h.beyond hNone hSome
  · intro other hOwned
    show symbols'.class? other = symbols.class? other
    rw [hFirst] at hOwned
    rw [SymbolTable.class?_defineClass hDefined, SymbolTable.class?_defineClass hDefined', hId]
    by_cases hEq : id = other
    · rw [if_pos hEq, if_pos hEq]
    · rw [if_neg (Ne.symm hEq)] at hOwned
      rw [if_neg hEq, if_neg hEq]
      exact h.classes hOwned
  · intro other hOwned name
    show symbols'.group? _ = symbols.group? _
    rw [hFirst] at hOwned
    rw [SymbolTable.group?_defineClass hDefined, SymbolTable.group?_defineClass hDefined']
    by_cases hEq : other = id
    · rw [hEq]
      exact hMembers name
    · rw [if_neg hEq] at hOwned
      exact h.groups hOwned name

end ClassQuestion

/-- A class without owner has no members in the table. -/
theorem Filed.group?_eq_none (h : r.Filed) (hOwner : r.owner? owner = none) (name : Name) :
    r.symbols.group? (.member owner name) = none := by
  rw [Option.eq_none_iff_forall_ne_some]
  intro group hGroup
  obtain ⟨hMem, hId⟩ := SymbolTable.group?_eq_some_iff.1 hGroup
  obtain ⟨owner', name', hMember, hListed⟩ := h.groups group hMem
  have hOwned := h.owned_of_listed hListed
  rw [hId, CallableId.member_inj] at hMember
  rw [← hMember.1, hOwner] at hOwned
  cases hOwned

section MemberQuestion

/-- The members of the first resolver's classes are listed alike. -/
theorem Ahead.listed_iff (h : Ahead added r s) (hr : r.Filed)
    (hOwned : (r.owner? owner).isSome = true) : s.Listed owner name ↔ r.Listed owner name := by
  have hOwner := h.owner hOwned
  have hClass := h.classes hOwned
  constructor
  · intro hListed
    cases hListed with
    | host => exact .host
    | provider hOwner' hProvider hClass' hName =>
        rw [hOwner] at hOwner'
        rw [hClass] at hClass'
        obtain ⟨p, hFound⟩ := hr.found hOwner'
        cases (h.provider hFound).symm.trans hProvider
        exact .provider hOwner' hFound hClass' hName
  · intro hListed
    cases hListed with
    | host => exact .host
    | provider hOwner' hProvider hClass' hName =>
        rw [← hOwner] at hOwner'
        rw [← hClass] at hClass'
        exact .provider hOwner' (h.provider hProvider) hClass' hName

/-- Only the second resolver finds members, of a class that the first one does not own. -/
theorem Ahead.extended (h : Ahead added r s) (hOwner : r.owner? owner = none)
    {members : List CallableDecl} {symbols : SymbolTable}
    (hDefined : s.symbols.defineCallables (.member owner name) members = (.ok (), symbols)) :
    Ahead added r { s with symbols } := by
  refine ⟨h.providers, h.types, h.asked, h.owner, h.beyond, ?_, ?_⟩
  · intro other hOwned
    show symbols.class? other = _
    rw [SymbolTable.class?_defineCallables hDefined]
    exact h.classes hOwned
  · intro other hOwned name'
    show symbols.group? _ = _
    have hNe : CallableId.member owner name ≠ .member other name' := by
      intro hEq
      rw [← (CallableId.member_inj.1 hEq).1, hOwner] at hOwned
      cases hOwned
    rw [SymbolTable.group?_defineCallables hDefined, if_neg hNe]
    exact h.groups hOwned name'

/-- Both find the same members. -/
theorem Ahead.supplied (h : Ahead added r s) {members : List CallableDecl}
    {symbols symbols' : SymbolTable}
    (hDefined : r.symbols.defineCallables (.member owner name) members = (.ok (), symbols))
    (hDefined' : s.symbols.defineCallables (.member owner name) members = (.ok (), symbols'))
    (types : TypeTable) :
    Ahead added { r with types, symbols } { s with types, symbols := symbols' } := by
  refine ⟨h.providers, rfl, h.asked, h.owner, h.beyond, ?_, ?_⟩
  · intro other hOwned
    show symbols'.class? other = symbols.class? other
    rw [SymbolTable.class?_defineCallables hDefined, SymbolTable.class?_defineCallables hDefined']
    exact h.classes hOwned
  · intro other hOwned name'
    show symbols'.group? _ = symbols.group? _
    rw [SymbolTable.group?_defineCallables hDefined, SymbolTable.group?_defineCallables hDefined',
      h.groups hOwned name']

end MemberQuestion

section Questions

variable (hKeeps : ∀ p ∈ s.extensions.declarations, p.KeepsIds)
  (hTypeless : ∀ p ∈ added, p.Typeless)

include hKeeps hTypeless

/-- **One question for a class** leaves the second resolver ahead of the first one, and what the
first one finds is what the second one finds. -/
theorem Ahead.resolveClass (h : Ahead added r s) (hr : r.Filed) (hs : s.Filed) (id : ClassId) :
    Ahead added (r.resolveClass id).2 (s.resolveClass id).2 ∧
      ∀ decl, (r.resolveClass id).1 = some decl → (s.resolveClass id).1 = some decl := by
  by_cases hAsked : (r.owner? id).isSome = true ∨ id ∈ r.unresolved
  · rw [resolveClass_of_asked_before hAsked, resolveClass_of_asked_before ((h.asked id).1 hAsked)]
    refine ⟨h, fun decl hFound => ?_⟩
    by_cases hOwned : (r.owner? id).isSome = true
    · have hOwned' : (s.owner? id).isSome = true := by
        rw [h.owner hOwned]
        exact hOwned
      rw [Resolver.resolveClass, if_pos hOwned] at hFound
      rw [Resolver.resolveClass, if_pos hOwned', h.classes hOwned]
      exact hFound
    · -- the request was noted as vain
      rw [Resolver.resolveClass, if_neg hOwned, if_pos (hAsked.resolve_left hOwned)] at hFound
      cases hFound
  · have hAsked' := mt (h.asked id).2 hAsked
    simp only [not_or, Bool.not_eq_true, Option.isSome_eq_false_iff, Option.isNone_iff_eq_none]
      at hAsked hAsked'
    obtain ⟨hOwner, hNew⟩ := hAsked
    obtain ⟨hOwner', hNew'⟩ := hAsked'
    have hKeepsFirst : ∀ p ∈ r.extensions.declarations, p.KeepsIds := by
      intro p hp
      apply hKeeps
      rw [h.providers]
      exact List.mem_append_left added hp
    have hBoth := h.askClass_eq hTypeless id
    cases hFirst : (askClass id r.extensions.declarations 0 r.types).1 with
    | some found =>
        obtain ⟨index, decl⟩ := found
        simp only [hFirst, Option.some_or] at hBoth
        obtain ⟨hId, symbols, hDefined, hAnswer⟩ :=
          resolveClass_of_declared hKeepsFirst hr hOwner hNew hFirst
        obtain ⟨_, symbols', hDefined', hAnswer'⟩ :=
          resolveClass_of_declared hKeeps hs hOwner' hNew' (congrArg Prod.fst hBoth)
        rw [hAnswer, hAnswer', hBoth]
        refine ⟨h.declared hId hDefined hDefined' ?_ _ _, fun _ hFound => hFound⟩
        intro name
        rw [hr.group?_eq_none hOwner, hs.group?_eq_none hOwner']
    | none =>
        simp only [hFirst, Option.none_or] at hBoth
        rw [resolveClass_of_undeclared hOwner hNew hFirst]
        refine ⟨?_, fun _ hFound => by cases hFound⟩
        cases hLater : (askClass id added r.extensions.declarations.length
            (askClass id r.extensions.declarations 0 r.types).2).1 with
        | none =>
            rw [hLater] at hBoth
            rw [resolveClass_of_undeclared hOwner' hNew' (congrArg Prod.fst hBoth), hBoth]
            exact h.refused id _
        | some found =>
            obtain ⟨position, decl⟩ := found
            obtain ⟨i, _, _, hPosition, _⟩ := provider_of_askClass added _ _ hLater
            subst hPosition
            rw [hLater] at hBoth
            obtain ⟨hId, symbols, hDefined, hAnswer⟩ :=
              resolveClass_of_declared hKeeps hs hOwner' hNew' (congrArg Prod.fst hBoth)
            rw [hAnswer, hBoth]
            exact h.filled hOwner hId hDefined i _

omit hKeeps in
/-- **One question for members** does so too.  The second resolver never asks an additional provider
about a class of the first one. -/
theorem Ahead.resolveMember (h : Ahead added r s) (hr : r.Filed) (hs : s.Filed) (owner : ClassId)
    (name : Name) :
    Ahead added (r.resolveMember owner name).2 (s.resolveMember owner name).2 ∧
      ∀ members, (r.resolveMember owner name).1 = .ok members →
        (s.resolveMember owner name).1 = .ok members := by
  have hFirst := r.resolveMember_step owner name
  have hSecond := s.resolveMember_step owner name
  generalize (r.resolveMember owner name).1 = answer,
    (r.resolveMember owner name).2 = next at hFirst
  generalize (s.resolveMember owner name).1 = answer',
    (s.resolveMember owner name).2 = next' at hSecond
  cases hOwner : r.owner? owner with
  | none =>
      have hNoGroup := hr.group?_eq_none hOwner name
      cases hFirst with
      | known hKnown =>
          rw [SymbolTable.hasCallables_eq, hNoGroup] at hKnown
          cases hKnown
      | declared _ hOwner' => cases hOwner.symm.trans hOwner'
      | failed =>
          refine ⟨?_, fun _ hOk => by cases hOk⟩
          cases hSecond with
          | known => exact h
          | failed => exact h
          | @declared _ decl p members _ symbols _ hOwner' _ hProvider _ hAsked hDefined =>
              -- the class is one of an additional provider, which numbers no type
              obtain ⟨index, hIndex⟩ := h.beyond hOwner hOwner'
              cases hIndex
              rw [h.providers, List.getElem?_append_right (Nat.le_add_right _ _)] at hProvider
              have hTypes := (hTypeless p (List.mem_of_getElem? hProvider)).declareMembers
                (.member owner name) decl s.types
              rw [hAsked] at hTypes
              cases hTypes
              exact h.extended hOwner hDefined
  | some source =>
      have hOwned : (r.owner? owner).isSome = true := by
        rw [hOwner]
        rfl
      have hHas : s.symbols.hasCallables (.member owner name) =
          r.symbols.hasCallables (.member owner name) := by
        rw [SymbolTable.hasCallables_eq, SymbolTable.hasCallables_eq, h.groups hOwned]
      have hListed : s.Listed owner name ↔ r.Listed owner name := h.listed_iff hr hOwned
      cases hFirst with
      | known hKnown =>
          cases hSecond with
          | known =>
              refine ⟨h, fun members hOk => ?_⟩
              rwa [SymbolTable.callables_eq, h.groups hOwned, ← SymbolTable.callables_eq]
          | failed hNew => rw [hHas, hKnown] at hNew; cases hNew
          | declared hNew => rw [hHas, hKnown] at hNew; cases hNew
      | failed hNew hFault =>
          refine ⟨?_, fun _ hOk => by cases hOk⟩
          cases hSecond with
          | known => exact h
          | failed => exact h
          | declared _ hOwner' hClass' hProvider' hName' =>
              have hHere := hListed.1 (.provider hOwner' hProvider' hClass' hName')
              exact absurd hHere (hFault.not_listed hr hNew)
      | declared hNew hOwner' hClass hProvider hName hAsked hDefined =>
          cases hSecond with
          | known hKnown => rw [hHas, hNew] at hKnown; cases hKnown
          | failed hNew' hFault =>
              have hThere := hListed.2 (.provider hOwner' hProvider hClass hName)
              exact absurd hThere (hFault.not_listed hs hNew')
          | declared _ hOwner'' hClass'' hProvider'' _ hAsked'' hDefined'' =>
              -- class, owner and provider are the same, and so are the types
              rw [h.owner hOwned] at hOwner''
              cases hOwner'.symm.trans hOwner''
              rw [h.classes hOwned] at hClass''
              cases hClass.symm.trans hClass''
              cases (h.provider hProvider).symm.trans hProvider''
              rw [h.types] at hAsked''
              cases hAsked.symm.trans hAsked''
              exact ⟨h.supplied hDefined hDefined'' _, fun _ hOk => hOk⟩

end Questions

/-! ## Any questions -/

/-- A question to a resolver. -/
inductive Question where
  | classLike (id : ClassId)
  | members (owner : ClassId) (name : Name)
deriving DecidableEq, Repr

/-- The resolver that a question leaves behind. -/
def ask (r : Resolver) : Question → Resolver
  | .classLike id => (r.resolveClass id).2
  | .members owner name => (r.resolveMember owner name).2

/-- The resolver that questions leave behind, asked one after the other. -/
def askAll (r : Resolver) (questions : List Question) : Resolver := questions.foldl ask r

theorem step_ask (r : Resolver) (question : Question) : Step r (r.ask question) := by
  cases question with
  | classLike id => exact .resolveClass id
  | members owner name => exact .resolveMember owner name

theorem steps_askAll (questions : List Question) : Steps r (r.askAll questions) := by
  induction questions generalizing r with
  | nil => exact .refl
  | cons question rest ih => exact .head (r.step_ask question) ih

/-- Any questions leave the second resolver ahead of the first one. -/
theorem Ahead.askAll (hKeeps : ∀ p ∈ s.extensions.declarations, p.KeepsIds)
    (hTypeless : ∀ p ∈ added, p.Typeless) (h : Ahead added r s) (hr : r.Filed) (hs : s.Filed)
    (questions : List Question) : Ahead added (r.askAll questions) (s.askAll questions) := by
  induction questions generalizing r s with
  | nil => exact h
  | cons question rest ih =>
      have hKeepsFirst : ∀ p ∈ r.extensions.declarations, p.KeepsIds := by
        intro p hp
        apply hKeeps
        rw [h.providers]
        exact List.mem_append_left added hp
      have hStep := s.step_ask question
      have hKeepsNext : ∀ p ∈ (s.ask question).extensions.declarations, p.KeepsIds := by
        rw [(Steps.grows (.single hStep)).extensions]
        exact hKeeps
      have hNext : Ahead added (r.ask question) (s.ask question) := by
        cases question with
        | classLike id => exact (h.resolveClass hKeeps hTypeless hr hs id).1
        | members owner name => exact (h.resolveMember hTypeless hr hs owner name).1
      exact ih hKeepsNext hNext (hr.steps hKeepsFirst (.single (r.step_ask question)))
        (hs.steps hKeeps (.single hStep))

/-! ## Bodies -/

/-- The resolver with more providers of bodies, behind those that are there. -/
def addBodies (r : Resolver) (more : List BodyProvider) : Resolver :=
  { r with extensions := ⟨r.extensions.declarations, r.extensions.bodies ++ more⟩ }

/-- A callable that is filled is filled in the same way. -/
theorem Filled.append {providers : List BodyProvider} {view : Resolved} {callable : CallableDecl}
    {body : Ir.Body} (h : Filled providers view callable body) (more : List BodyProvider) :
    Filled (providers ++ more) view callable body := by
  obtain ⟨key, p, hKey, ⟨hResponsible, before, after, hProviders, hBefore⟩, hAnswer⟩ := h.supplied
  refine { h with supplied := ⟨key, p, hKey, ⟨hResponsible, before, after ++ more, ?_, hBefore⟩,
    hAnswer⟩ }
  rw [hProviders]
  simp

/-- A lowering that succeeds yields the same program. -/
theorem lower_addBodies {program : Program} (hLower : r.lower = .ok program)
    (more : List BodyProvider) : (r.addBodies more).lower = .ok program := by
  rw [lower_eq_ok_iff] at hLower ⊢
  refine { hLower with bodies := ?_ }
  exact hLower.bodies.imp fun _ _ hFilled => hFilled.append more

/-- **Providers that are installed later stand back.**  All providers answer under the identifiers
that they are asked for, and those that come second number no type.  Two resolvers, one with the
first providers only, are asked the same questions.  At any time what the first one finds, be it a
class or members of a class, the second one finds as well, and it is the same; also the types are
numbered alike.  And if some resolver can be lowered, then it is lowered to the same program with
more providers of bodies. -/
theorem later_providers_stand_back (module : String) {first later : List DeclarationProvider}
    (bodies bodies' : List BodyProvider) (hKeeps : ∀ p ∈ first ++ later, p.KeepsIds)
    (hTypeless : ∀ p ∈ later, p.Typeless) :
    (∀ questions : List Question,
      let r := (start module ⟨first, bodies⟩).askAll questions
      let s := (start module ⟨first ++ later, bodies'⟩).askAll questions
      (∀ id decl, (r.resolveClass id).1 = some decl → (s.resolveClass id).1 = some decl) ∧
      (∀ owner name members, (r.resolveMember owner name).1 = .ok members →
        (s.resolveMember owner name).1 = .ok members) ∧
      s.types = r.types) ∧
    ∀ (r : Resolver) (more : List BodyProvider) (program : Program),
      r.lower = .ok program → (r.addBodies more).lower = .ok program := by
  constructor
  · intro questions r s
    have hKeepsFirst : ∀ p ∈ first, p.KeepsIds :=
      fun p hp => hKeeps p (List.mem_append_left later hp)
    have hr : r.Filed := (filed_start module _).steps hKeepsFirst (steps_askAll questions)
    have hs : s.Filed := (filed_start module _).steps hKeeps (steps_askAll questions)
    have hAhead : Ahead later r s :=
      (ahead_start module first later bodies bodies').askAll hKeeps hTypeless
        (filed_start module _) (filed_start module _) questions
    have hKeepsNow : ∀ p ∈ s.extensions.declarations, p.KeepsIds := by
      rw [(steps_askAll questions).grows.extensions]
      exact hKeeps
    refine ⟨?_, ?_, hAhead.types⟩
    · intro id decl hFound
      exact (hAhead.resolveClass hKeepsNow hTypeless hr hs id).2 decl hFound
    · intro owner name members hFound
      exact (hAhead.resolveMember hTypeless hr hs owner name).2 members hFound
  · intro r more program hLower
    exact lower_addBodies hLower more

/-! ## A sample -/

/-- The key of the sample. -/
def squatterKey : Key := ⟨1, "squatter"⟩

/-- Declares whatever class it is asked for, with a field, and whatever members. -/
def squatter : DeclarationProvider where
  topLevel := []
  hasNamespace _ := true
  declareClass id types :=
    (some ⟨id, none, [⟨⟨"mine"⟩, TypeTable.unknown⟩], .generated squatterKey, .synthetic⟩, types)
  memberNames _ := [.init, ⟨"mine"⟩]
  declareMembers id _ types :=
    ([⟨id, .function, [], TypeTable.unknown, .generated squatterKey, .synthetic⟩], types)

theorem squatter_keepsIds : squatter.KeepsIds where
  class_id := by
    intro id types decl h
    cases h
    rfl
  member_id := by
    intro id owner types member h
    rw [List.mem_singleton.1 h]

theorem squatter_typeless : squatter.Typeless := ⟨fun _ _ => rfl, fun _ _ _ => rfl⟩

/-- Fills every body, in vain. -/
def squatterBodies : BodyProvider where
  responsible _ := true
  functionBody _ _ _ := .error (.unrecognizedCallable "mine")
  constructorBody _ _ _ := .error (.unrecognizedCallable "mine")

/-- A class, its members, a class that only the squatter has and one of the squatter's members. -/
def squatted : List Question :=
  [.classLike Catalogue.Ring.right, .classLike ⟨⟨[]⟩, ⟨"Nothing"⟩⟩,
    .members ⟨⟨[]⟩, ⟨"Nothing"⟩⟩ ⟨"mine"⟩, .members Catalogue.Ring.right .init]

/-- The squatter gets the class that nobody else has, and nothing of the other one, whose
declaration and members are found as they are found without it.  Nor does it get the bodies of a
program that is filled without it. -/
theorem squatter_stands_back :
    let r := (start "main" ⟨[Catalogue.ring.provider], []⟩).askAll squatted
    let s := (start "main" ⟨[Catalogue.ring.provider] ++ [squatter], []⟩).askAll squatted
    (r.resolveClass ⟨⟨[]⟩, ⟨"Nothing"⟩⟩).1 = none ∧
      (s.resolveClass ⟨⟨[]⟩, ⟨"Nothing"⟩⟩).1.isSome = true ∧
      (∃ decl, (r.resolveClass Catalogue.Ring.right).1 = some decl ∧
        (s.resolveClass Catalogue.Ring.right).1 = some decl) ∧
      (∃ members, (r.resolveMember Catalogue.Ring.right .init).1 = .ok members ∧
        (s.resolveMember Catalogue.Ring.right .init).1 = .ok members) ∧
      (Program.ringResolver.addBodies [squatterBodies]).lower = .ok Program.ringProgram := by
  intro r s
  have hKeeps : ∀ p ∈ [Catalogue.ring.provider] ++ [squatter], p.KeepsIds := by
    intro p hp
    rcases List.mem_append.1 hp with hRing | hSquatter
    · exact (Catalogue.ring_faithful p hRing).keepsIds
    · rw [List.mem_singleton.1 hSquatter]
      exact squatter_keepsIds
  have hTypeless : ∀ p ∈ [squatter], p.Typeless := by
    intro p hp
    rw [List.mem_singleton.1 hp]
    exact squatter_typeless
  obtain ⟨hAnswers, hBodies⟩ := later_providers_stand_back "main" [] [] hKeeps hTypeless
  obtain ⟨hClasses, hMembers, _⟩ := hAnswers squatted
  have hClass : ∃ decl, (r.resolveClass Catalogue.Ring.right).1 = some decl := ⟨_, rfl⟩
  have hMember : ∃ members, (r.resolveMember Catalogue.Ring.right .init).1 = .ok members :=
    ⟨_, rfl⟩
  obtain ⟨decl, hClass⟩ := hClass
  obtain ⟨members, hMember⟩ := hMember
  exact ⟨rfl, rfl, ⟨decl, hClass, hClasses _ decl hClass⟩,
    ⟨members, hMember, hMembers _ _ members hMember⟩, hBodies _ _ _ Program.ringResolver_lower⟩

end Resolver
end TwoPhase
