import TwoPhase.Proofs.Greeter.Declarations
import TwoPhase.Proofs.Provider.Tabular

/-!
# The order of questions does not matter

A resolver asks its providers by need.  Two histories of questions declare the same symbols in
different orders, and give out different numbers for the types that the symbols mention.  Apart from
the numbers the symbols are the same.

## Strategy

What the providers have for a class, and for the callables with one identifier, can be said without
any resolver, as long as the providers are tabular (`ClassMeaning`, `GroupMeaning`).  `Told` is the
invariant of a single history: whatever the resolver has stored denotes, in its own type table, what
the providers have.  Two histories are never compared step by step.  They agree because each of them
tells the one thing that there is to tell.

## Main results

* `told_of_reachable` — every reachable resolver has stored what the providers have.
* `histories_agree` — what two histories have both stored is the same up to the type numbers, and
  which classes are found does not depend on the history.
-/

namespace TwoPhase.Resolver

open List (Forall₂)
open DeclarationProvider (FirstToDeclare)

/-! ## What the providers have -/

/-- The row of the root class. -/
def rootRow : ClassRow := ⟨rootClass, none, [], .source, .synthetic⟩

/-- The row of the root class's constructor. -/
def rootConstructorRow : CallableRow :=
  ⟨.constructorOf rootClass, .constructor, [], .classLike rootClass, .source, .synthetic⟩

/-- What there is to know about a class: it is in the table of the first provider to declare it. -/
inductive ClassMeaning (table : DeclarationProvider → DeclarationTable)
    (providers : List DeclarationProvider) : ClassId → ClassRow → Prop
  | root : ClassMeaning table providers rootClass rootRow
  | provider {id : ClassId} {index : Nat} {p : DeclarationProvider} {row : ClassRow}
      (hRoot : id ≠ rootClass) (hFirst : FirstToDeclare providers id index p)
      (hRow : (table p).classes id = some row) : ClassMeaning table providers id row

/-- What there is to know about the members of a class with one name. -/
inductive GroupMeaning (table : DeclarationProvider → DeclarationTable)
    (providers : List DeclarationProvider) : CallableId → List CallableRow → Prop
  | root : GroupMeaning table providers (.constructorOf rootClass) [rootConstructorRow]
  | provider {owner : ClassId} {name : Name} {index : Nat} {p : DeclarationProvider}
      {row : ClassRow} (hRoot : owner ≠ rootClass) (hFirst : FirstToDeclare providers owner index p)
      (hClass : ClassMeaning table providers owner row) :
      GroupMeaning table providers (.member owner name)
        ((table p).members row (.member owner name))

section Unique

variable {table : DeclarationProvider → DeclarationTable} {providers : List DeclarationProvider}

theorem ClassMeaning.unique {id : ClassId} {row row' : ClassRow}
    (h : ClassMeaning table providers id row) (h' : ClassMeaning table providers id row') :
    row = row' := by
  cases h with
  | root =>
      cases h' with
      | root => rfl
      | provider hRoot => exact absurd rfl hRoot
  | provider hRoot hFirst hRow =>
      cases h' with
      | root => exact absurd rfl hRoot
      | provider _ hFirst' hRow' =>
          obtain ⟨_, rfl⟩ := hFirst.unique hFirst'
          exact Option.some.inj (hRow.symm.trans hRow')

theorem GroupMeaning.unique {id : CallableId} {rows rows' : List CallableRow}
    (h : GroupMeaning table providers id rows) (h' : GroupMeaning table providers id rows') :
    rows = rows' := by
  generalize hId : id = id' at h'
  cases h with
  | root =>
      cases h' with
      | root => rfl
      | provider hRoot => exact absurd (CallableId.member_inj.1 hId).1.symm hRoot
  | provider hRoot hFirst hClass =>
      cases h' with
      | root => exact absurd (CallableId.member_inj.1 hId).1 hRoot
      | provider _ hFirst' hClass' =>
          obtain ⟨rfl, rfl⟩ := CallableId.member_inj.1 hId
          obtain ⟨_, rfl⟩ := hFirst.unique hFirst'
          rw [hClass.unique hClass']

end Unique

/-! ## Asking tabular providers -/

variable {table : DeclarationProvider → DeclarationTable} {r r' : Resolver}

theorem keeps_askClass {id : ClassId} {providers : List DeclarationProvider}
    (hHolds : ∀ p ∈ providers, p.Holds (table p)) (index : Nat) (types : TypeTable) :
    types.Keeps (askClass id providers index types).2 := by
  induction providers generalizing index types with
  | nil => exact .refl types
  | cons p rest ih =>
      obtain ⟨hFirst, hRest⟩ := List.forall_mem_cons.1 hHolds
      rw [askClass]
      split
      · have hLater := (hFirst.keeps_class id types).trans
          (ih hRest (index + 1) (p.declareClass id types).2)
        cases hAnswer : (p.declareClass id types).1 with
        | none => simpa [hAnswer] using hLater
        | some decl => simpa [hAnswer] using hLater
      · exact ih hRest (index + 1) types

/-- The declaration that is answered denotes a row of its provider in the type table that all
providers together leave behind. -/
theorem denotes_of_askClass {id : ClassId} {position : Nat} {decl : ClassDecl}
    {providers : List DeclarationProvider} (hHolds : ∀ p ∈ providers, p.Holds (table p))
    (index : Nat) (types : TypeTable)
    (hAnswer : (askClass id providers index types).1 = some (position, decl)) :
    ∃ i p row, position = index + i ∧ providers[i]? = some p ∧ (table p).classes id = some row ∧
      decl.Denotes (askClass id providers index types).2 row := by
  induction providers generalizing index types with
  | nil => cases hAnswer
  | cons p rest ih =>
      obtain ⟨hFirst, hRest⟩ := List.forall_mem_cons.1 hHolds
      have hLater : ∀ types, (askClass id rest (index + 1) types).1 = some (position, decl) →
          ∃ i q row, position = index + i ∧ (p :: rest)[i]? = some q ∧
            (table q).classes id = some row ∧
            decl.Denotes (askClass id rest (index + 1) types).2 row := by
        intro types hAnswer
        obtain ⟨i, q, row, hPosition, hFound, hRow, hDenotes⟩ := ih hRest (index + 1) types hAnswer
        exact ⟨i + 1, q, row, by omega, hFound, hRow, hDenotes⟩
      rw [askClass] at hAnswer ⊢
      split
      · rename_i hNamespace
        rw [if_pos hNamespace] at hAnswer
        have hRow := hFirst.classes id types
        cases hGiven : (p.declareClass id types).1 with
        | none =>
            simp only [hGiven] at hAnswer ⊢
            exact hLater _ hAnswer
        | some given =>
            simp only [hGiven, Option.some.injEq, Prod.mk.injEq] at hAnswer ⊢
            obtain ⟨rfl, rfl⟩ := hAnswer
            rw [hGiven] at hRow
            generalize hEntry : (table p).classes id = entry at hRow
            cases hRow with
            | some hDenotes =>
                exact ⟨0, p, _, rfl, rfl, hEntry, hDenotes.keeps (keeps_askClass hRest _ _)⟩
      · rename_i hNamespace
        rw [if_neg hNamespace] at hAnswer
        exact hLater types hAnswer

/-! ## The invariant -/

/-- Whatever is stored denotes what the providers have. -/
structure Told (table : DeclarationProvider → DeclarationTable) (r : Resolver) : Prop where
  classes : ∀ {id decl}, r.symbols.class? id = some decl →
    ∃ row, ClassMeaning table r.extensions.declarations id row ∧ decl.Denotes r.types row
  groups : ∀ group ∈ r.symbols.groups,
    ∃ rows, GroupMeaning table r.extensions.declarations group.id rows ∧
      Forall₂ (CallableDecl.Denotes r.types) group.overloads rows

theorem told_start (name : String) (extensions : Extensions) :
    Told table (start name extensions) where
  classes := by
    intro id decl hClass
    obtain ⟨hMem, rfl⟩ := SymbolTable.class?_eq_some_iff.1 hClass
    rw [List.mem_singleton.1 hMem]
    exact ⟨rootRow, .root, rfl, rfl, .nil, rfl, rfl⟩
  groups := by
    intro group hGroup
    rw [List.mem_singleton.1 hGroup]
    exact ⟨[rootConstructorRow], .root, .cons
      ⟨rfl, rfl, .nil, TypeTable.initial.get?_internClass rootClass, rfl, rfl⟩ .nil⟩

section Preservation

/-- A class stays told while types are numbered. -/
theorem Told.class_keeps (h : Told table r) {types : TypeTable} (hKeeps : r.types.Keeps types)
    {id : ClassId} {decl : ClassDecl} (hClass : r.symbols.class? id = some decl) :
    ∃ row, ClassMeaning table r.extensions.declarations id row ∧ decl.Denotes types row := by
  obtain ⟨row, hMeaning, hDenotes⟩ := h.classes hClass
  exact ⟨row, hMeaning, hDenotes.keeps hKeeps⟩

/-- So do callables. -/
theorem Told.group_keeps (h : Told table r) {types : TypeTable} (hKeeps : r.types.Keeps types) :
    ∀ group ∈ r.symbols.groups,
      ∃ rows, GroupMeaning table r.extensions.declarations group.id rows ∧
        Forall₂ (CallableDecl.Denotes types) group.overloads rows := by
  intro group hGroup
  obtain ⟨rows, hMeaning, hDenotes⟩ := h.groups group hGroup
  exact ⟨rows, hMeaning, hDenotes.imp fun _ _ hDecl => hDecl.keeps hKeeps⟩

theorem Told.classStep (hFaithful : ∀ p ∈ r.extensions.declarations, p.Faithful)
    (hHolds : ∀ p ∈ r.extensions.declarations, p.Holds (table p)) (hCoherent : r.Coherent)
    (h : Told table r) {id : ClassId} {answer : Option ClassDecl}
    (hStep : ClassStep r id answer r') : Told table r' := by
  have hKeeps : r.types.Keeps (askClass id r.extensions.declarations 0 r.types).2 :=
    keeps_askClass hHolds 0 r.types
  cases hStep with
  | known => exact h
  | refused => exact h
  | undeclared _ _ hAsked =>
      rw [hAsked] at hKeeps
      exact ⟨h.class_keeps hKeeps, h.group_keeps hKeeps⟩
  | clash hOwned _ hAsked hDefined =>
      exact absurd hDefined (hCoherent.filed.not_mem_of_asked
        (fun p hp => (hFaithful p hp).keepsIds) hOwned hAsked)
  | @declared types index decl symbols hOwned _ hAsked hDefined =>
      obtain ⟨hId, p, _, hFirst, _⟩ := exists_first_of_asked hFaithful hAsked
      have hAnswer := denotes_of_askClass hHolds 0 r.types (congrArg Prod.fst hAsked)
      rw [hAsked] at hKeeps hAnswer
      obtain ⟨i, q, row, hIndex, hFound, hRow, hDenotes⟩ := hAnswer
      rw [Nat.zero_add] at hIndex
      subst hIndex
      obtain rfl : p = q := Option.some.inj (hFirst.found.symm.trans hFound)
      constructor
      · intro other decl' hClass
        rw [SymbolTable.class?_defineClass hDefined, hId] at hClass
        by_cases hOther : id = other
        · rw [if_pos hOther] at hClass
          cases hClass
          subst hOther
          exact ⟨row, .provider (hCoherent.filed.ne_root hOwned) hFirst hRow, hDenotes⟩
        · rw [if_neg hOther] at hClass
          exact h.class_keeps hKeeps hClass
      · rw [(SymbolTable.defineClass_eq_ok hDefined).2.2]
        exact h.group_keeps hKeeps

theorem Told.memberStep (hHolds : ∀ p ∈ r.extensions.declarations, p.Holds (table p))
    (hCoherent : r.Coherent) (h : Told table r) {owner : ClassId} {name : Name}
    {answer : Except CompileError (List CallableDecl)}
    (hStep : MemberStep r owner name answer r') : Told table r' := by
  cases hStep with
  | known => exact h
  | failed => exact h
  | @declared index decl p members types symbols _ hOwner hClass hProvider _ hAsked hDefined =>
      have hHere := hHolds p (List.mem_of_getElem? hProvider)
      have hKeeps := hHere.keeps_members (.member owner name) decl r.types
      obtain ⟨row, hMeaning, hDecl⟩ := h.classes hClass
      have hMembers := hHere.members (.member owner name) hDecl
      rw [hAsked] at hKeeps hMembers
      constructor
      · intro id decl' hId
        rw [SymbolTable.class?_defineCallables hDefined] at hId
        exact h.class_keeps hKeeps hId
      · intro group hGroup
        rw [(SymbolTable.defineCallables_eq_ok hDefined).2.1] at hGroup
        rcases List.mem_append.1 hGroup with hOld | hNew
        · exact h.group_keeps hKeeps group hOld
        · rw [List.mem_singleton.1 hNew]
          have hRoot : owner ≠ rootClass := by
            rintro rfl
            rw [(hCoherent.host rootClass).2 rfl] at hOwner
            cases hOwner
          obtain ⟨q, _, _, hFirst, _, _⟩ := hCoherent.provided hOwner
          obtain rfl : p = q := Option.some.inj (hProvider.symm.trans hFirst.found)
          exact ⟨_, .provider hRoot hFirst hMeaning, hMembers⟩

end Preservation

/-- Any number of questions leaves everything told. -/
theorem Told.steps (hFaithful : ∀ p ∈ r.extensions.declarations, p.Faithful)
    (hHolds : ∀ p ∈ r.extensions.declarations, p.Holds (table p)) (hCoherent : r.Coherent)
    (h : Told table r) (hSteps : Steps r r') : Told table r' := by
  induction hSteps with
  | refl => exact h
  | @tail middle last hFirst hLast ih =>
      have hGrows := Steps.grows hFirst
      have hFaithful' := hGrows.faithful hFaithful
      have hHolds' : ∀ p ∈ middle.extensions.declarations, p.Holds (table p) := by
        rw [hGrows.extensions]
        exact hHolds
      have hMiddle := hCoherent.steps hFaithful hFirst
      exact hLast.elim (ih.classStep hFaithful' hHolds' hMiddle) (ih.memberStep hHolds' hMiddle)

theorem told_of_reachable {name : String} {extensions : Extensions}
    (hFaithful : ∀ p ∈ extensions.declarations, p.Faithful)
    (hHolds : ∀ p ∈ extensions.declarations, p.Holds (table p))
    (hReachable : Reachable name extensions r) : Told table r :=
  (told_start name extensions).steps hFaithful hHolds (coherent_start name extensions)
    hReachable.steps

/-! ## Two histories -/

/-- Callables that are found are those of a group. -/
theorem Told.callables (h : Told table r) {id : CallableId}
    (hKnown : r.symbols.hasCallables id = true) :
    ∃ rows, GroupMeaning table r.extensions.declarations id rows ∧
      Forall₂ (CallableDecl.Denotes r.types) (r.symbols.callables id) rows := by
  obtain ⟨group, hGroup⟩ := SymbolTable.exists_group? hKnown
  obtain ⟨hMem, rfl⟩ := SymbolTable.group?_eq_some_iff.1 hGroup
  rw [SymbolTable.callables_of_group? hGroup]
  exact h.groups group hMem

/-- **Lazy resolution does not depend on the order of questions.**  Take two resolvers with the same
providers, which are faithful and each hold a table, and any two histories of questions to them.
What both have stored for a class denotes one row, in the type table of each; so do the callables
that both have stored under an identifier.  And at any time a class is found exactly if it is the
root class or one that some provider declares. -/
theorem histories_agree {name name' : String} {providers : List DeclarationProvider}
    {bodies bodies' : List BodyProvider} (hFaithful : ∀ p ∈ providers, p.Faithful)
    (hTabular : ∀ p ∈ providers, p.Tabular)
    (hReachable : Reachable name ⟨providers, bodies⟩ r)
    (hReachable' : Reachable name' ⟨providers, bodies'⟩ r') :
    (∀ {id decl decl'}, r.symbols.class? id = some decl → r'.symbols.class? id = some decl' →
      ∃ row, decl.Denotes r.types row ∧ decl'.Denotes r'.types row) ∧
    (∀ owner name, r.symbols.hasCallables (.member owner name) = true →
      r'.symbols.hasCallables (.member owner name) = true →
      ∃ rows, Forall₂ (CallableDecl.Denotes r.types)
          (r.symbols.callables (.member owner name)) rows ∧
        Forall₂ (CallableDecl.Denotes r'.types)
          (r'.symbols.callables (.member owner name)) rows) ∧
    ∀ id, (r.resolveClass id).1.isSome = true ↔
      id = rootClass ∨ ∃ p ∈ providers, p.Declares id := by
  have hTables : ∀ p ∈ providers, ∃ table, p.Holds table := hTabular
  choose! table hHolds using hTables
  have hTold : Told table r := told_of_reachable hFaithful hHolds hReachable
  have hTold' : Told table r' := told_of_reachable hFaithful hHolds hReachable'
  have hProviders : r.extensions.declarations = providers := by rw [hReachable.extensions_eq]
  have hProviders' : r'.extensions.declarations = providers := by rw [hReachable'.extensions_eq]
  refine ⟨?_, ?_, ?_⟩
  · intro id decl decl' hClass hClass'
    obtain ⟨row, hMeaning, hDenotes⟩ := hTold.classes hClass
    obtain ⟨row', hMeaning', hDenotes'⟩ := hTold'.classes hClass'
    rw [hProviders] at hMeaning
    rw [hProviders'] at hMeaning'
    obtain rfl := hMeaning.unique hMeaning'
    exact ⟨row, hDenotes, hDenotes'⟩
  · intro owner name hKnown hKnown'
    obtain ⟨rows, hMeaning, hDenotes⟩ := hTold.callables hKnown
    obtain ⟨rows', hMeaning', hDenotes'⟩ := hTold'.callables hKnown'
    rw [hProviders] at hMeaning
    rw [hProviders'] at hMeaning'
    obtain rfl := hMeaning.unique hMeaning'
    exact ⟨rows, hDenotes, hDenotes'⟩
  · intro id
    have hCoherent : r.Coherent := coherent_of_reachable hFaithful hReachable
    rw [← hProviders] at hFaithful ⊢
    exact resolveClass_isSome_iff hFaithful hCoherent id

/-! ## A sample -/

/-- A greeter and two classes that extend each other. -/
def company : List DeclarationProvider :=
  [Greeter.declarations ⟨1, "greeter"⟩, Catalogue.ring.provider]

/-- The resolver that was asked for a class and its constructor. -/
def askedFor (r : Resolver) (id : ClassId) : Resolver :=
  ((r.resolveClass id).2.resolveMember id .init).2

def ringFirst : Resolver := (start "main" ⟨company, []⟩).askedFor Catalogue.Ring.left

def greeterFirst : Resolver :=
  ((start "main" ⟨company, []⟩).askedFor Greeter.greeterClass).askedFor Catalogue.Ring.left

/-- Whichever class is asked for first has the smaller type number, and its constructor is the same
all the same. -/
theorem company_agrees :
    (∀ p ∈ company, p.Faithful) ∧ (∀ p ∈ company, p.Tabular) ∧
      Reachable "main" ⟨company, []⟩ ringFirst ∧ Reachable "main" ⟨company, []⟩ greeterFirst ∧
      let constructors (r : Resolver) := r.symbols.callables (.constructorOf Catalogue.Ring.left)
      (constructors ringFirst).map CallableDecl.returns = [⟨7⟩] ∧
        (constructors greeterFirst).map CallableDecl.returns = [⟨8⟩] ∧
        ∃ rows, Forall₂ (CallableDecl.Denotes ringFirst.types) (constructors ringFirst) rows ∧
          Forall₂ (CallableDecl.Denotes greeterFirst.types) (constructors greeterFirst) rows := by
  have hFaithful : ∀ p ∈ company, p.Faithful :=
    List.forall_mem_cons.2 ⟨Greeter.declarations_faithful _, Catalogue.ring_faithful⟩
  have hTabular : ∀ p ∈ company, p.Tabular :=
    List.forall_mem_cons.2 ⟨Greeter.declarations_tabular _,
      List.forall_mem_singleton.2 (Catalogue.Plain.tabular (by decide) (by decide))⟩
  have hAsked : ∀ {r : Resolver} (id : ClassId), Reachable "main" ⟨company, []⟩ r →
      Reachable "main" ⟨company, []⟩ (r.askedFor id) :=
    fun id h => .tail (.tail h (.resolveClass id)) (.resolveMember id .init)
  have hFirst : Reachable "main" ⟨company, []⟩ ringFirst := hAsked _ .refl
  have hLast : Reachable "main" ⟨company, []⟩ greeterFirst := hAsked _ (hAsked _ .refl)
  have hAgree := (histories_agree hFaithful hTabular hFirst hLast).2.1 Catalogue.Ring.left .init
  exact ⟨hFaithful, hTabular, hFirst, hLast, by decide +kernel, by decide +kernel,
    hAgree (by decide +kernel) (by decide +kernel)⟩

end TwoPhase.Resolver
