import Mathlib.Data.List.Forall2
import TwoPhase.Proofs.Resolver.Closure

/-!
# Resolving everything is determined

Providers give out sets, of advertised symbols and of member names, and no set says in which order
it is gone through.  The order does not matter.  Neither does it matter how many providers
advertise a class, nor that everything was resolved before.

## Strategy

`SameOffer` relates two lists of providers that differ in nothing but the order and the repetition
of what they list.  A resolver never reads such a list without sorting it or asking whether
something is on it, so each of its functions does the same with either list of providers
(`resolveClass_withProviders` and so on, up to `resolveAll_withProviders`).

For the second half, a successful resolution has visited only classes that are complete at its
end, and a visit of a complete class changes nothing (`resolveWhole_of_complete`).  So a second
resolution goes the way of the first one.

## Main results

* `SameOffer.reorder`, `SameOffer.advertise` — other orders, and one provider more that advertises
  a class, are the same offer.
* `resolveAll_determined` — the same offer gives the same result and the same state, and resolving
  everything again changes nothing.
-/

namespace TwoPhase

open List (Forall₂)

/-! ## Providers that offer the same -/

namespace DeclarationProvider

/-- The two providers answer alike, and list the same member names. -/
structure Alike (p q : DeclarationProvider) : Prop where
  hasNamespace : ∀ path, q.hasNamespace path = p.hasNamespace path
  declareClass : ∀ id types, q.declareClass id types = p.declareClass id types
  memberNames : ∀ decl name, name ∈ q.memberNames decl ↔ name ∈ p.memberNames decl
  declareMembers : ∀ id decl types,
    q.declareMembers id decl types = p.declareMembers id decl types

theorem Alike.refl (p : DeclarationProvider) : p.Alike p :=
  ⟨fun _ => rfl, fun _ _ => rfl, fun _ _ => Iff.rfl, fun _ _ _ => rfl⟩

theorem Alike.trans {p q s : DeclarationProvider} (h : p.Alike q) (h' : q.Alike s) :
    p.Alike s where
  hasNamespace path := (h'.hasNamespace path).trans (h.hasNamespace path)
  declareClass id types := (h'.declareClass id types).trans (h.declareClass id types)
  memberNames decl name := (h'.memberNames decl name).trans (h.memberNames decl name)
  declareMembers id decl types :=
    (h'.declareMembers id decl types).trans (h.declareMembers id decl types)

/-- Some provider advertises the class. -/
def Advertised (providers : List DeclarationProvider) (id : ClassId) : Prop :=
  ∃ p ∈ providers, Descriptor.classLike id ∈ p.topLevel

/-- A class is advertised by one of the providers or by the others. -/
theorem advertised_append_cons {before after : List DeclarationProvider} {p : DeclarationProvider}
    {id : ClassId} : Advertised (before ++ p :: after) id ↔
      .classLike id ∈ p.topLevel ∨ Advertised (before ++ after) id := by
  simp only [Advertised, List.mem_append, List.mem_cons, or_and_right, exists_or, exists_eq_left]
  exact or_left_comm

/-- The providers are alike one by one, and together they advertise the same classes. -/
structure SameOffer (ps qs : List DeclarationProvider) : Prop where
  alike : Forall₂ Alike ps qs
  advertised : ∀ id, Advertised qs id ↔ Advertised ps id

/-- One provider is replaced by one that is alike. -/
theorem SameOffer.replace {p q : DeclarationProvider} (before after : List DeclarationProvider)
    (hAlike : p.Alike q) (hAdvertised : ∀ id,
      Advertised (before ++ q :: after) id ↔ Advertised (before ++ p :: after) id) :
    SameOffer (before ++ p :: after) (before ++ q :: after) where
  alike := List.rel_append (List.forall₂_same.2 fun p _ => .refl p)
    (.cons hAlike (List.forall₂_same.2 fun p _ => .refl p))
  advertised := hAdvertised

/-- The order in which a provider lists advertised symbols and member names does not matter. -/
theorem SameOffer.reorder (before after : List DeclarationProvider) {p : DeclarationProvider}
    {topLevel : List Descriptor} {memberNames : ClassDecl → List Name}
    (hTop : topLevel.Perm p.topLevel)
    (hNames : ∀ decl, (memberNames decl).Perm (p.memberNames decl)) :
    SameOffer (before ++ p :: after) (before ++ { p with topLevel, memberNames } :: after) := by
  refine .replace before after
    ⟨fun _ => rfl, fun _ _ => rfl, fun decl _ => (hNames decl).mem_iff, fun _ _ _ => rfl⟩ ?_
  intro id
  rw [advertised_append_cons, advertised_append_cons, hTop.mem_iff]

/-- Another provider may advertise a class that is advertised. -/
theorem SameOffer.advertise (before after : List DeclarationProvider) {p : DeclarationProvider}
    {id : ClassId} (hKnown : Advertised (before ++ p :: after) id) :
    SameOffer (before ++ p :: after)
      (before ++ { p with topLevel := p.topLevel ++ [.classLike id] } :: after) := by
  refine .replace before after
    ⟨fun _ => rfl, fun _ _ => rfl, fun _ _ => Iff.rfl, fun _ _ _ => rfl⟩ ?_
  intro other
  rw [advertised_append_cons, advertised_append_cons, List.mem_append]
  constructor
  · rintro ((hOld | hNew) | hElsewhere)
    · exact .inl hOld
    · cases List.mem_singleton.1 hNew
      exact advertised_append_cons.1 hKnown
    · exact .inr hElsewhere
  · exact Or.imp_left .inl

private theorem alike_trans {ps qs rs : List DeclarationProvider} (h : Forall₂ Alike ps qs)
    (h' : Forall₂ Alike qs rs) : Forall₂ Alike ps rs := by
  induction h generalizing rs with
  | nil => cases h'; exact .nil
  | cons hFirst _ ih =>
      cases h' with
      | cons hSecond hRest => exact .cons (hFirst.trans hSecond) (ih hRest)

theorem SameOffer.trans {ps qs rs : List DeclarationProvider} (h : SameOffer ps qs)
    (h' : SameOffer qs rs) : SameOffer ps rs where
  alike := alike_trans h.alike h'.alike
  advertised id := (h'.advertised id).trans (h.advertised id)

/-- Where the first list has a provider, the second one has a provider that is alike. -/
theorem exists_alike_getElem? {ps qs : List DeclarationProvider} (h : Forall₂ Alike ps qs)
    {i : Nat} {p : DeclarationProvider} (hp : ps[i]? = some p) :
    ∃ q, qs[i]? = some q ∧ p.Alike q := by
  induction h generalizing i with
  | nil => cases hp
  | @cons _ q _ _ hFirst _ ih =>
      cases i with
      | zero =>
          cases hp
          exact ⟨q, rfl, hFirst⟩
      | succ i => exact ih hp

theorem getElem?_eq_none_of_alike {ps qs : List DeclarationProvider} (h : Forall₂ Alike ps qs)
    {i : Nat} (hp : ps[i]? = none) : qs[i]? = none := by
  rw [List.getElem?_eq_none_iff, ← h.length_eq]
  exact List.getElem?_eq_none_iff.1 hp

end DeclarationProvider

namespace Resolver

open DeclarationProvider (Alike Advertised SameOffer exists_alike_getElem?
  getElem?_eq_none_of_alike)

/-! ## The same questions over the same offer -/

/-- The same state over other providers of declarations. -/
def withProviders (r : Resolver) (declarations : List DeclarationProvider) : Resolver :=
  { r with extensions := ⟨declarations, r.extensions.bodies⟩ }

variable {r r' : Resolver} {declarations : List DeclarationProvider}

theorem owner?_withProviders (id : ClassId) :
    (r.withProviders declarations).owner? id = r.owner? id := rfl

theorem symbols_withProviders : (r.withProviders declarations).symbols = r.symbols := rfl

theorem types_withProviders : (r.withProviders declarations).types = r.types := rfl

theorem mem_advertised {id : ClassId} :
    id ∈ r.advertised ↔ Advertised r.extensions.declarations id := by
  have hClass : ∀ d : Descriptor, d.class? = some id ↔ d = .classLike id := by
    intro d
    cases d <;> simp [Descriptor.class?]
  simp only [advertised, Advertised, List.mem_filterMap, List.mem_flatMap, hClass]
  constructor
  · rintro ⟨_, ⟨p, hp, hMem⟩, rfl⟩
    exact ⟨p, hp, hMem⟩
  · rintro ⟨p, hp, hMem⟩
    exact ⟨_, ⟨p, hp, hMem⟩, rfl⟩

/-- Providers that are alike give one answer for a class, and number the same types. -/
theorem askClass_congr {ps qs : List DeclarationProvider} (h : Forall₂ Alike ps qs)
    (id : ClassId) (index : Nat) (types : TypeTable) :
    askClass id qs index types = askClass id ps index types := by
  induction h generalizing index types with
  | nil => rfl
  | cons hFirst _ ih =>
      rw [askClass, askClass, hFirst.hasNamespace, hFirst.declareClass]
      simp only [ih]

/-- Questions leave the providers alone, so what is alike stays so. -/
theorem Grows.alike (hGrows : Grows r r')
    (h : Forall₂ Alike r.extensions.declarations declarations) :
    Forall₂ Alike r'.extensions.declarations declarations := by
  rw [hGrows.extensions]
  exact h

section Congruence

variable (h : Forall₂ Alike r.extensions.declarations declarations)
include h

theorem resolveClass_withProviders (id : ClassId) :
    (r.withProviders declarations).resolveClass id =
      ((r.resolveClass id).1, (r.resolveClass id).2.withProviders declarations) := by
  have hAsk : askClass id (r.withProviders declarations).extensions.declarations 0 r.types =
      askClass id r.extensions.declarations 0 r.types := askClass_congr h id 0 r.types
  rw [resolveClass, resolveClass, types_withProviders, hAsk]
  by_cases hOwned : (r.owner? id).isSome = true
  · rw [owner?_withProviders, if_pos hOwned, if_pos hOwned]
    rfl
  · rw [owner?_withProviders, if_neg hOwned, if_neg hOwned]
    by_cases hRefused : id ∈ r.unresolved
    · rw [if_pos hRefused,
        if_pos (show id ∈ (r.withProviders declarations).unresolved from hRefused)]
    · rw [if_neg hRefused,
        if_neg (show id ∉ (r.withProviders declarations).unresolved from hRefused)]
      split
      · rfl
      · rw [symbols_withProviders]
        split <;> rfl

theorem memberNames_withProviders (owner : ClassId) :
    (r.withProviders declarations).memberNames owner = r.memberNames owner := by
  have hClassOf : (r.withProviders declarations).classOf owner = r.classOf owner := rfl
  have hDeclarations : (r.withProviders declarations).extensions.declarations = declarations := rfl
  simp only [memberNames, owner?_withProviders, hClassOf, hDeclarations]
  cases r.owner? owner with
  | none => rfl
  | some source =>
      cases source with
      | host => rfl
      | provider index =>
          cases hp : r.extensions.declarations[index]? with
          | none => simp only [hp, getElem?_eq_none_of_alike h hp]
          | some p =>
              obtain ⟨q, hq, hAlike⟩ := exists_alike_getElem? h hp
              have hSorted : ∀ decl, Order.sortDistinct (q.memberNames decl) =
                  Order.sortDistinct (p.memberNames decl) :=
                fun decl => Order.sortDistinct_eq_iff.2 (hAlike.memberNames decl)
              simp only [hp, hq, hSorted]

theorem resolveMember_withProviders (owner : ClassId) (name : Name) :
    (r.withProviders declarations).resolveMember owner name =
      ((r.resolveMember owner name).1,
        (r.resolveMember owner name).2.withProviders declarations) := by
  have hClassOf : (r.withProviders declarations).classOf owner = r.classOf owner := rfl
  have hDeclarations : (r.withProviders declarations).extensions.declarations = declarations := rfl
  have hStep := r.resolveMember_step owner name
  generalize (r.resolveMember owner name).1 = answer, (r.resolveMember owner name).2 = r' at hStep
  cases hStep with
  | known hKnown => simp only [resolveMember, symbols_withProviders, hKnown, if_true]
  | failed hNew hFault =>
      simp only [resolveMember, symbols_withProviders, owner?_withProviders, hClassOf,
        hDeclarations, hNew, Bool.false_eq_true, if_false]
      cases hFault with
      | unowned hOwner => simp only [hOwner]
      | host hOwner => simp only [hOwner]
      | undeclared hOwner hClass => simp only [hOwner, classOf_eq_error hClass]
      | absent hOwner hClass hProvider =>
          simp only [hOwner, classOf_eq_ok hClass, getElem?_eq_none_of_alike h hProvider]
      | @unlisted index decl p hOwner hClass hProvider hName =>
          obtain ⟨q, hq, hAlike⟩ := exists_alike_getElem? h hProvider
          have hName' : name ∉ q.memberNames decl :=
            fun hMem => hName ((hAlike.memberNames decl name).1 hMem)
          simp only [hOwner, classOf_eq_ok hClass, hq, if_neg hName']
  | @declared index decl p members types symbols hNew hOwner hClass hProvider hName hAsked
      hDefined =>
      obtain ⟨q, hq, hAlike⟩ := exists_alike_getElem? h hProvider
      have hName' : name ∈ q.memberNames decl := (hAlike.memberNames decl name).2 hName
      rw [← hAlike.declareMembers] at hAsked
      simp only [resolveMember, symbols_withProviders, owner?_withProviders, types_withProviders,
        hClassOf, hDeclarations, hNew, hOwner, classOf_eq_ok hClass, hq, if_pos hName', hAsked,
        hDefined, SymbolTable.callables_defineCallables hDefined, Bool.false_eq_true, if_false]
      rfl

theorem resolveMembers_withProviders (owner : ClassId) (names : List Name) :
    (r.withProviders declarations).resolveMembers owner names =
      ((r.resolveMembers owner names).1,
        (r.resolveMembers owner names).2.withProviders declarations) := by
  induction names generalizing r with
  | nil => rfl
  | cons name rest ih =>
      have hNext := (r.resolveMember_step owner name).grows.alike h
      rw [resolveMembers, resolveMembers, resolveMember_withProviders h]
      generalize r.resolveMember owner name = out at hNext
      obtain ⟨result, next⟩ := out
      cases result with
      | error e => rfl
      | ok members => exact ih hNext

/-- One class with all its members. -/
theorem resolveWhole_withProviders (id : ClassId) :
    (r.withProviders declarations).resolveWhole id =
      ((r.resolveWhole id).1, (r.resolveWhole id).2.withProviders declarations) := by
  have hNext := (r.resolveClass_step id).grows.alike h
  rw [resolveWhole, resolveWhole, resolveClass_withProviders h]
  generalize r.resolveClass id = out at hNext
  obtain ⟨answer, next⟩ := out
  cases answer with
  | none => rfl
  | some decl =>
      dsimp only
      rw [memberNames_withProviders hNext]
      cases next.memberNames id with
      | error e => rfl
      | ok names =>
          dsimp only
          rw [resolveMembers_withProviders hNext]
          obtain ⟨result, last⟩ := next.resolveMembers id names
          cases result <;> rfl

theorem resolveStack_withProviders (steps : Nat) (stack visited : List ClassId) :
    resolveStack steps (r.withProviders declarations) stack visited =
      (resolveStack steps r stack visited).map
        fun out => (out.1, out.2.withProviders declarations) := by
  induction steps generalizing r stack visited with
  | zero => cases stack <;> rfl
  | succ steps ih =>
      cases stack with
      | nil => rfl
      | cons id rest =>
          rw [resolveStack, resolveStack]
          by_cases hSeen : id ∈ visited
          · rw [if_pos hSeen, if_pos hSeen]
            exact ih h rest visited
          · rw [if_neg hSeen, if_neg hSeen, resolveWhole_withProviders h]
            cases hWhole : r.resolveWhole id with
            | mk result next =>
                cases result with
                | error e => rfl
                | ok supertype => exact ih ((steps_of_resolveWhole hWhole).grows.alike h) _ _

end Congruence

/-- The stack starts with the same classes, in the same order. -/
theorem resolveAll_withProviders (h : SameOffer r.extensions.declarations declarations)
    (steps : Nat) :
    (r.withProviders declarations).resolveAll steps =
      (r.resolveAll steps).map fun out => (out.1, out.2.withProviders declarations) := by
  have hStart : Order.sortDistinct (r.withProviders declarations).advertised =
      Order.sortDistinct r.advertised := by
    rw [Order.sortDistinct_eq_iff]
    intro id
    rw [mem_advertised, mem_advertised]
    exact h.advertised id
  rw [resolveAll, resolveAll, hStart, resolveStack_withProviders h.alike]

/-- A state that is reached over some providers is reached over any others with the same offer. -/
theorem Reachable.withProviders {name : String} {extensions : Extensions}
    (hReachable : Reachable name extensions r)
    (h : SameOffer extensions.declarations declarations) :
    Reachable name ⟨declarations, extensions.bodies⟩ (r.withProviders declarations) := by
  induction hReachable with
  | refl => exact .refl
  | @tail middle last hFirst hLast ih =>
      have hMiddle : SameOffer middle.extensions.declarations declarations := by
        rw [Reachable.extensions_eq hFirst]
        exact h
      refine .tail ih ?_
      cases hLast with
      | resolveClass id =>
          have hCall : Call _ ((middle.withProviders declarations).resolveClass id).2 :=
            .resolveClass id
          rw [resolveClass_withProviders hMiddle.alike] at hCall
          exact hCall
      | resolveMember owner name =>
          have hCall : Call _ ((middle.withProviders declarations).resolveMember owner name).2 :=
            .resolveMember owner name
          rw [resolveMember_withProviders hMiddle.alike] at hCall
          exact hCall
      | @resolveAll steps result _ hRun =>
          have hOther : (middle.withProviders declarations).resolveAll steps =
              some (result, last.withProviders declarations) := by
            rw [resolveAll_withProviders hMiddle, hRun]
            rfl
          exact .resolveAll hOther

/-! ## Once more -/

/-- Members that are defined can be asked for again, and nothing changes. -/
theorem resolveMembers_of_defined {owner : ClassId} {names : List Name}
    (h : ∀ name ∈ names, r.symbols.hasCallables (.member owner name) = true) :
    r.resolveMembers owner names = (.ok (), r) := by
  induction names with
  | nil => rfl
  | cons name rest ih =>
      obtain ⟨hName, hRest⟩ := List.forall_mem_cons.1 h
      have hFirst : r.resolveMember owner name =
          (.ok (r.symbols.callables (.member owner name)), r) := by
        rw [resolveMember, hName]
        rfl
      rw [resolveMembers, hFirst]
      exact ih hRest

/-- A complete class can be resolved again, and nothing changes. -/
theorem resolveWhole_of_complete (h : r.Coherent) {id : ClassId} {decl : ClassDecl}
    (hComplete : r.Complete id) (hClass : r.symbols.class? id = some decl) :
    r.resolveWhole id = (.ok decl.supertype, r) := by
  obtain ⟨names, hNames, hDefined⟩ := hComplete.memberNames h
  have hOwned : (r.owner? id).isSome = true := by
    rw [h.owned, hClass]
    rfl
  have hFirst : r.resolveClass id = (some decl, r) := by
    rw [resolveClass, if_pos hOwned, hClass]
  rw [resolveWhole, hFirst]
  simp only [hNames, resolveMembers_of_defined hDefined]

/-- What the loop has done it does again in its last state without changing it. -/
theorem Loop.again {steps : Nat} {stack visited : List ClassId} (h : Loop r stack visited)
    (hRun : resolveStack steps r stack visited = some (.ok (), r')) :
    resolveStack steps r' stack visited = some (.ok (), r') := by
  induction steps generalizing r stack visited with
  | zero =>
      cases stack with
      | nil => rfl
      | cons id rest => cases hRun
  | succ steps ih =>
      cases stack with
      | nil => rfl
      | cons id rest =>
          rw [resolveStack] at hRun ⊢
          by_cases hSeen : id ∈ visited
          · rw [if_pos hSeen] at hRun ⊢
            exact ih (h.skip hSeen) hRun
          · rw [if_neg hSeen] at hRun ⊢
            split at hRun
            · cases hRun
            · rename_i supertype next hWhole
              obtain ⟨decl, hClass, rfl, hComplete⟩ :=
                resolveWhole_eq_ok h.faithful h.coherent hWhole
              have hNext := h.visit hWhole
              have hSteps := steps_of_resolveStack steps _ _ _ hRun
              -- the class is still complete when the loop ends
              have hCoherent : r'.Coherent := hNext.coherent.steps hNext.faithful hSteps
              have hLater : r'.Complete id := hComplete.grows hNext.coherent hSteps.grows
              rw [resolveWhole_of_complete hCoherent hLater (hSteps.grows.classes hClass)]
              exact ih hNext hRun

/-- A resolution of everything that was successful can be repeated, and nothing changes. -/
theorem resolveAll_again {steps : Nat} (hFaithful : ∀ p ∈ r.extensions.declarations, p.Faithful)
    (h : r.Coherent) (hRun : r.resolveAll steps = some (.ok (), r')) :
    r'.resolveAll steps = some (.ok (), r') := by
  rw [resolveAll, (steps_of_resolveAll hRun).grows.advertised_eq]
  exact (Loop.start hFaithful h).again hRun

/-- **Resolving everything is deterministic and idempotent.**  In every state that can be reached,
other providers with the same offer lead to the same result and to the same state, and that state
could be reached over them as well.  After a success, resolving everything once more succeeds and
leaves the state as it is. -/
theorem resolveAll_determined {name : String} {extensions : Extensions}
    (hFaithful : ∀ p ∈ extensions.declarations, p.Faithful)
    (hReachable : Reachable name extensions r) :
    (∀ declarations, SameOffer extensions.declarations declarations →
      Reachable name ⟨declarations, extensions.bodies⟩ (r.withProviders declarations) ∧
      ∀ steps, (r.withProviders declarations).resolveAll steps =
        (r.resolveAll steps).map fun out => (out.1, out.2.withProviders declarations)) ∧
    ∀ {steps more r'}, r.resolveAll steps = some (.ok (), r') → steps ≤ more →
      r'.resolveAll more = some (.ok (), r') := by
  have hExtensions : r.extensions = extensions := hReachable.extensions_eq
  refine ⟨fun declarations hOffer => ⟨hReachable.withProviders hOffer, fun steps => ?_⟩, ?_⟩
  · rw [← hExtensions] at hOffer
    exact resolveAll_withProviders hOffer steps
  · intro steps more r' hRun hMore
    have hCoherent : r.Coherent := coherent_of_reachable hFaithful hReachable
    rw [← hExtensions] at hFaithful
    exact resolveStack_mono hMore (resolveAll_again hFaithful hCoherent hRun)

/-! ## A sample -/

/-- The two classes that extend each other, both advertised, one of them with a function. -/
def wheel : Catalogue :=
  { Catalogue.ring with
    topLevel := none
    members := Catalogue.ring.members ++
      [⟨Catalogue.Ring.left, ⟨"turn"⟩, none, .function, [], .named (.primitive .void),
        .generated Catalogue.Ring.key, .synthetic⟩] }

/-- The same listed the other way round. -/
def wheelTurned : DeclarationProvider :=
  { wheel.provider with
    topLevel := [.classLike Catalogue.Ring.right, .classLike Catalogue.Ring.left]
    memberNames := fun decl => (wheel.memberNames decl.id).reverse }

/-- A provider that declares nothing, and one that advertises a class all the same. -/
def idle : DeclarationProvider := Catalogue.provider ⟨[], [], none, none, []⟩

def herald : DeclarationProvider :=
  { idle with topLevel := idle.topLevel ++ [.classLike Catalogue.Ring.right] }

theorem wheel_sameOffer : SameOffer [wheel.provider, idle] [wheelTurned, herald] := by
  have hTop : wheelTurned.topLevel.Perm wheel.provider.topLevel :=
    .swap (Descriptor.classLike Catalogue.Ring.left) (.classLike Catalogue.Ring.right) []
  have hTurned : SameOffer [wheel.provider, idle] [wheelTurned, idle] :=
    .reorder [] [idle] hTop fun decl => List.reverse_perm (wheel.memberNames decl.id)
  refine hTurned.trans (.advertise [wheelTurned] [] ⟨wheelTurned, List.mem_cons_self, ?_⟩)
  exact List.mem_cons_self

/-- A resolver that was asked for one of the two classes resolves everything, over either list of
providers and twice. -/
theorem wheel_determined :
    let extensions : Extensions := ⟨[wheel.provider, idle], []⟩
    let r := ((start "main" extensions).resolveClass Catalogue.Ring.left).2
    (∀ p ∈ extensions.declarations, p.Faithful) ∧ Reachable "main" extensions r ∧
      SameOffer extensions.declarations [wheelTurned, herald] ∧
      ∃ r', r.resolveAll 9 = some (.ok (), r') ∧ r'.resolveAll 9 = some (.ok (), r') ∧
        (r.withProviders [wheelTurned, herald]).resolveAll 9 =
          some (.ok (), r'.withProviders [wheelTurned, herald]) := by
  intro extensions r
  have hFaithful : ∀ p ∈ extensions.declarations, p.Faithful := by
    have hWheel : wheel.provider.Faithful := Catalogue.Plain.faithful (by decide)
    have hIdle : idle.Faithful := Catalogue.Plain.faithful (by decide)
    simp [extensions, hWheel, hIdle]
  have hReachable : Reachable "main" extensions r :=
    .single (.resolveClass Catalogue.Ring.left)
  obtain ⟨hSame, hAgain⟩ := resolveAll_determined hFaithful hReachable
  obtain ⟨r', hRun⟩ : ∃ r', r.resolveAll 9 = some (.ok (), r') := ⟨_, rfl⟩
  refine ⟨hFaithful, hReachable, wheel_sameOffer, r', hRun, hAgain hRun (le_refl 9), ?_⟩
  rw [(hSame _ wheel_sameOffer).2, hRun]
  rfl

end Resolver
end TwoPhase
