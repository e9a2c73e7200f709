import TwoPhase.Greeter.Registration
import TwoPhase.Proofs.Provider.Tabular
import TwoPhase.Proofs.Resolver.Answer
import TwoPhase.Proofs.Resolver.Trace

/-!
# What greeters declare

Any number of greeters may be installed, whole or in halves.  They all declare the same class, so
the first one that declares has it, and the members of the class come from that one alone.

## Strategy

A greeter is a faithful provider, so what the resolver remembers is coherent.  `Greeted` adds what
is known of the greeter's class and of the callables, in terms of the trace of questions.  It is
preserved by each of the two questions.

## Main results

* `declarations_faithful`, `declarations_tabular` — greeters answer for what they are asked, and
  always mean the same.
* `greeted_of_trace` — the symbols after any questions.
-/

namespace TwoPhase.Greeter

open List (Forall₂)
open DeclarationProvider (FirstToDeclare)

variable {key other : Key} {id : ClassId} {decl : ClassDecl} {name : Name}

/-! ## One greeter -/

theorem ofClass?_isSome_iff : (Entry.ofClass? id).isSome = true ↔ id = greeterClass := by
  unfold Entry.ofClass?
  by_cases h : id = greeterClass
  · simp [h]
  · simp [h]

/-- A greeter declares its class and no other, always in the same way. -/
theorem declareClass_eq (types : TypeTable) : ((declarations key).declareClass id types).1 =
    if id = greeterClass then some (classDecl key) else none := by
  show (if (Entry.ofClass? id).isSome then some (classDecl key) else none) = _
  by_cases h : id = greeterClass
  · rw [if_pos h, if_pos (ofClass?_isSome_iff.2 h)]
  · rw [if_neg h, if_neg (mt ofClass?_isSome_iff.1 h)]

/-- A greeter answers for what it is asked. -/
theorem declarations_faithful (key : Key) : (declarations key).Faithful where
  class_id := by
    intro id types decl h
    rw [declareClass_eq] at h
    by_cases hClass : id = greeterClass
    · rw [if_pos hClass] at h
      cases h
      exact hClass.symm
    · rw [if_neg hClass] at h
      cases h
  member_id := by
    intro id owner types member h
    change member ∈ (declareMembers key id owner types).1 at h
    unfold declareMembers at h
    split at h
    · split at h
      · rw [List.mem_singleton.1 h]
        rfl
      · rw [List.mem_singleton.1 h]
        rfl
      · cases h
      · cases h
    · cases h
  settled := fun _ _ _ => rfl

theorem declares_iff : (declarations key).Declares id ↔ id = greeterClass := by
  rw [(declarations_faithful key).declares_iff TypeTable.initial, declareClass_eq]
  constructor
  · rintro ⟨_, hAnswer⟩
    by_cases h : id = greeterClass
    · exact h
    · rw [if_neg h] at hAnswer
      cases hAnswer
  · rintro rfl
    exact ⟨rfl, rfl⟩

/-- The rows of a greeter. -/
def table (key : Key) : DeclarationTable where
  classes id :=
    if id = greeterClass then some ⟨greeterClass, none, [], .generated key, .synthetic⟩ else none
  members owner id :=
    if (owner.origin.key? == some key && (Entry.ofClass? owner.id).isSome) &&
        id.owner == some owner.id then
      match Entry.ofCallable? id with
      | some .constructor =>
          [⟨id, .constructor, [], .classLike owner.id, .generated key, .synthetic⟩]
      | some .function => [⟨id, .function, [], .primitive .string, .generated key, .synthetic⟩]
      | some .greeterClass | none => []
    else []

/-- A greeter declares the same at any time, up to the number of its class's type. -/
theorem declarations_tabular (key : Key) : (declarations key).Tabular := by
  refine ⟨table key, fun _ types => .refl types, ?_, ?_, ?_⟩
  · intro id owner types
    show types.Keeps (declareMembers key id owner types).2
    unfold declareMembers
    split
    · split
      · exact types.keeps_internClass owner.id
      · exact .refl types
      · exact .refl types
      · exact .refl types
    · exact .refl types
  · intro id types
    rw [declareClass_eq]
    show Option.Rel _ _ (if id = greeterClass then _ else none)
    by_cases h : id = greeterClass
    · rw [if_pos h, if_pos h]
      exact .some ⟨rfl, rfl, .nil, rfl, rfl⟩
    · rw [if_neg h, if_neg h]
      exact .none
  · intro id owner row types hOwner
    show Forall₂ (CallableDecl.Denotes (declareMembers key id owner types).2)
      (declareMembers key id owner types).1 ((table key).members row id)
    simp only [declareMembers, owns, table, hOwner.id, hOwner.origin]
    split
    · cases Entry.ofCallable? id with
      | none => exact .nil
      | some entry =>
          cases entry with
          | greeterClass => exact .nil
          | constructor =>
              exact .cons ⟨rfl, rfl, .nil, types.get?_internClass row.id, rfl, rfl⟩ .nil
          | function => exact .cons ⟨rfl, rfl, .nil, types.get?_typeId .string, rfl, rfl⟩ .nil
    · exact .nil

/-- A member of the greeter's class, as it is declared with a key. -/
inductive Member (key : Key) : CallableDecl → Prop
  | constructor (returns : TypeId) :
      Member key (memberDecl key (.constructorOf greeterClass) .constructor returns)
  | function :
      Member key
        (memberDecl key (.member greeterClass functionName) .function Primitive.string.typeId)

theorem owns_classDecl (key : Key) : owns key (classDecl key) = true := by
  simp [owns, classDecl, Origin.key?]
  rfl

/-- The names of the members on the class that carries the key. -/
theorem mem_memberNames_iff :
    name ∈ (declarations key).memberNames (classDecl key) ↔ name = .init ∨ name = functionName := by
  show name ∈ (if owns key (classDecl key) then Entry.memberNames else []) ↔ _
  rw [if_pos (owns_classDecl key)]
  simp [Entry.memberNames, Entry.all, Entry.memberName?, eq_comm]

/-- On the class that carries its key, a greeter declares one member under each of its names. -/
theorem exists_member (types : TypeTable)
    (hName : name ∈ (declarations key).memberNames (classDecl key)) :
    ∃ member types', Member key member ∧ member.id = .member greeterClass name ∧
      (declarations key).declareMembers (.member greeterClass name) (classDecl key) types =
        ([member], types') := by
  have hHere : (owns key (classDecl key) &&
      (CallableId.member greeterClass name).owner == some (classDecl key).id) = true := by
    rw [owns_classDecl]
    rfl
  change ∃ member types', _ ∧ _ ∧
    declareMembers key (.member greeterClass name) (classDecl key) types = ([member], types')
  unfold declareMembers
  rw [if_pos hHere]
  rcases mem_memberNames_iff.1 hName with rfl | rfl
  · exact ⟨_, _, .constructor _, rfl, rfl⟩
  · exact ⟨_, _, .function, rfl, rfl⟩

/-! ## Many greeters -/

/-- The members of the greeter's class that a trace shows, in the order in which they were first
found. -/
def resolvedMembers (log : List Descriptor) : List CallableId :=
  Order.distinct (log.filterMap fun
    | .callable id => if id.owner = some greeterClass then some id else none
    | .classLike _ => none)

theorem resolvedMembers_classLike (log : List Descriptor) (id : ClassId) :
    resolvedMembers (log ++ [.classLike id]) = resolvedMembers log := by
  simp [resolvedMembers]

theorem resolvedMembers_own (log : List Descriptor) (name : Name) :
    resolvedMembers (log ++ [.callable (.member greeterClass name)]) =
      Order.addNew (resolvedMembers log) (.member greeterClass name) := by
  rw [resolvedMembers, List.filterMap_append, resolvedMembers, ← Order.distinct_concat]
  rfl

theorem resolvedMembers_foreign (log : List Descriptor) {owner : ClassId} (name : Name)
    (hOwner : owner ≠ greeterClass) :
    resolvedMembers (log ++ [.callable (.member owner name)]) = resolvedMembers log := by
  simp [resolvedMembers, CallableId.member, hOwner]

theorem mem_resolvedMembers {log : List Descriptor} {name : Name} :
    .member greeterClass name ∈ resolvedMembers log ↔
      .callable (.member greeterClass name) ∈ log := by
  rw [resolvedMembers, Order.mem_distinct, List.mem_filterMap]
  constructor
  · rintro ⟨question, hQuestion, hId⟩
    cases question with
    | classLike id => cases hId
    | callable id =>
        dsimp only at hId
        split at hId
        · cases hId
          exact hQuestion
        · cases hId
  · intro hQuestion
    exact ⟨_, hQuestion, rfl⟩

/-- A group of one callable. -/
def single (member : CallableDecl) : CallableGroup := ⟨member.id, [member]⟩

/-- What is known of the symbols of a resolver with greeters, after the questions of a trace.  The
first greeter's key is `key`. -/
structure Greeted (key : Key) (log : List Descriptor) (r : Resolver) : Prop where
  providers : ∃ others, r.extensions.declarations = (key :: others).map declarations
  coherent : r.Coherent
  known : (r.symbols.class? greeterClass).isSome = true ↔ .classLike greeterClass ∈ log
  /-- Behind the root class's constructor come the members that were found, one in each group. -/
  groups : ∃ (returns : TypeId) (members : List CallableDecl),
    r.symbols.groups = (rootConstructor returns :: members).map single ∧
    (∀ member ∈ members, Member key member) ∧
    members.map CallableDecl.id = resolvedMembers log

section Questions

variable {r r' : Resolver} {log : List Descriptor}

theorem Greeted.faithful (h : Greeted key log r) :
    ∀ p ∈ r.extensions.declarations, p.Faithful := by
  obtain ⟨others, hProviders⟩ := h.providers
  intro p hp
  rw [hProviders] at hp
  obtain ⟨other, _, rfl⟩ := List.mem_map.1 hp
  exact declarations_faithful other

/-- The first greeter is the first provider that declares anything, and that is its class. -/
theorem Greeted.first (h : Greeted key log r) {index : Nat} {p : DeclarationProvider}
    (hFirst : FirstToDeclare r.extensions.declarations id index p) :
    id = greeterClass ∧ index = 0 ∧ p = declarations key := by
  obtain ⟨others, hProviders⟩ := h.providers
  have hMem := hFirst.mem
  rw [hProviders] at hFirst hMem
  obtain ⟨other, _, rfl⟩ := List.mem_map.1 hMem
  have hId : id = greeterClass := declares_iff.1 hFirst.declares
  have hHead : FirstToDeclare ((key :: others).map declarations) id 0 (declarations key) :=
    .head (declares_iff.2 hId) _
  obtain ⟨hIndex, hSame⟩ := hFirst.unique hHead
  exact ⟨hId, hIndex, hSame⟩

/-- So the table has the class as the first greeter declares it. -/
theorem Greeted.class_eq (h : Greeted key log r)
    (hClass : r.symbols.class? greeterClass = some decl) : decl = classDecl key := by
  rcases h.coherent.exists_source hClass with hRoot | ⟨index, p, types, hFirst, hAnswer⟩
  · exact absurd hRoot (by decide)
  · obtain ⟨_, _, rfl⟩ := h.first hFirst
    rw [declareClass_eq, if_pos rfl] at hAnswer
    exact (Option.some.inj hAnswer).symm

theorem Greeted.class?_eq (h : Greeted key log r)
    (hFound : (r.symbols.class? greeterClass).isSome = true) :
    r.symbols.class? greeterClass = some (classDecl key) := by
  obtain ⟨decl, hDecl⟩ := Option.isSome_iff_exists.1 hFound
  rw [hDecl, h.class_eq hDecl]

/-- The greeter's class can be had at any time. -/
theorem Greeted.knows (h : Greeted key log r) :
    Resolver.Known r.extensions.declarations greeterClass := by
  obtain ⟨others, hProviders⟩ := h.providers
  refine .inr ⟨declarations key, ?_, declares_iff.2 rfl⟩
  rw [hProviders]
  exact List.mem_cons_self

/-- A question for a class, answered or not. -/
theorem Greeted.classStep (h : Greeted key log r) {answer : Option ClassDecl}
    (hStep : Resolver.ClassStep r id answer r') :
    Greeted key (log ++ answer.toList.map fun _ => .classLike id) r' := by
  have hGrows := hStep.grows
  obtain ⟨hAnswer, hFound⟩ := hStep.answer_eq h.faithful h.coherent
  have hMembers : resolvedMembers (log ++ answer.toList.map fun _ => .classLike id) =
      resolvedMembers log := by
    cases answer with
    | none => rw [Option.toList_none, List.map_nil, List.append_nil]
    | some decl => exact resolvedMembers_classLike log id
  refine ⟨?_, h.coherent.classStep h.faithful hStep, ?_, ?_⟩
  · rw [hGrows.extensions]
    exact h.providers
  · by_cases hId : id = greeterClass
    · subst hId
      obtain ⟨decl, rfl⟩ := Option.isSome_iff_exists.1 (hFound.2 h.knows)
      rw [← hAnswer]
      simp
    · have hSame : (r'.symbols.class? greeterClass).isSome = true ↔
          (r.symbols.class? greeterClass).isSome = true := by
        constructor
        · intro hNow
          rcases hStep.new_class h.faithful hNow with hBefore | hEq
          · exact hBefore
          · exact absurd hEq.symm hId
        · intro hBefore
          obtain ⟨decl, hDecl⟩ := Option.isSome_iff_exists.1 hBefore
          rw [hGrows.classes hDecl]
          rfl
      rw [hSame, h.known]
      cases answer with
      | none => simp
      | some decl => simp [Ne.symm hId]
  · rw [hStep.groups_eq, hMembers]
    exact h.groups

/-- Members were found before exactly if their identifier is in the trace. -/
theorem Greeted.hasCallables_iff (h : Greeted key log r) :
    r.symbols.hasCallables (.member greeterClass name) = true ↔
      .member greeterClass name ∈ resolvedMembers log := by
  obtain ⟨returns, members, hGroups, _, hIds⟩ := h.groups
  have hOther : some greeterClass ≠ some rootClass := by decide
  have hRoot : CallableId.member greeterClass name ≠ .constructorOf rootClass :=
    fun hEq => hOther (congrArg CallableId.owner hEq)
  have hKeys : r.symbols.groups.map CallableGroup.id =
      .constructorOf rootClass :: members.map CallableDecl.id := by
    rw [hGroups, List.map_map]
    rfl
  rw [SymbolTable.hasCallables_iff, hKeys, List.mem_cons, hIds]
  exact ⟨fun hMem => hMem.resolve_left hRoot, .inr⟩

/-- A question for members, answered or not. -/
theorem Greeted.memberStep (h : Greeted key log r) {owner : ClassId}
    {answer : Except CompileError (List CallableDecl)}
    (hStep : Resolver.MemberStep r owner name answer r') :
    Greeted key (log ++ answer.toOption.toList.map fun _ => .callable (.member owner name)) r' := by
  have hKnown : (r'.symbols.class? greeterClass).isSome = true ↔ .classLike greeterClass ∈
      log ++ answer.toOption.toList.map fun _ => .callable (.member owner name) := by
    rw [hStep.class?_eq, h.known]
    simp
  have hProviders : ∃ others, r'.extensions.declarations = (key :: others).map declarations := by
    rw [hStep.grows.extensions]
    exact h.providers
  refine ⟨hProviders, h.coherent.memberStep h.faithful hStep, hKnown, ?_⟩
  cases hStep with
  | known hBefore =>
      show ∃ returns members, _ ∧ _ ∧ _ = resolvedMembers (log ++ [.callable (.member owner name)])
      by_cases hOwner : owner = greeterClass
      · subst hOwner
        rw [resolvedMembers_own, Order.addNew_of_mem (h.hasCallables_iff.1 hBefore)]
        exact h.groups
      · rw [resolvedMembers_foreign log name hOwner]
        exact h.groups
  | failed =>
      show ∃ returns members, _ ∧ _ ∧ _ = resolvedMembers (log ++ [])
      rw [List.append_nil]
      exact h.groups
  | @declared index decl p found types symbols hNew hOwner hClass hProvider hName hAsked hDefined =>
      -- the class is the greeter's, and its members come from the greeter that declared it
      obtain ⟨q, _, _, hFirst, _, _⟩ := h.coherent.provided hOwner
      obtain ⟨rfl, rfl, rfl⟩ := h.first hFirst
      cases hFirst.found.symm.trans hProvider
      obtain rfl := h.class_eq hClass
      obtain ⟨member, types', hMember, hId, hDeclared⟩ := exists_member r.types hName
      cases hDeclared.symm.trans hAsked
      obtain ⟨returns, members, hGroups, hAll, hIds⟩ := h.groups
      refine ⟨returns, members ++ [member], ?_, ?_, ?_⟩
      · rw [(SymbolTable.defineCallables_eq_ok hDefined).2.1, hGroups, ← hId]
        simp [single]
      · intro other hOther
        rcases List.mem_append.1 hOther with hOld | hLast
        · exact hAll other hOld
        · rw [List.mem_singleton.1 hLast]
          exact hMember
      · have hFresh : CallableId.member greeterClass name ∉ resolvedMembers log := by
          rw [← h.hasCallables_iff, hNew]
          exact Bool.false_ne_true
        show _ = resolvedMembers (log ++ [.callable (.member greeterClass name)])
        rw [resolvedMembers_own, Order.addNew_of_not_mem hFresh, List.map_append, hIds, ← hId]
        rfl

end Questions

/-- **The symbols after any questions**: the greeter's class if it was found, and the members that
were found, as the first greeter declares them. -/
theorem greeted_of_trace {module : String} {extensions : Extensions} {others : List Key}
    (hProviders : extensions.declarations = (key :: others).map declarations)
    {log : List Descriptor} {r : Resolver}
    (hTrace : Resolver.Trace (.start module extensions) log r) : Greeted key log r := by
  induction hTrace with
  | nil =>
      have hNone : (Resolver.start module extensions).symbols.class? greeterClass = none := rfl
      refine ⟨⟨others, hProviders⟩, Resolver.coherent_start module extensions, ?_, _, [], rfl,
        nofun, rfl⟩
      rw [hNone]
      exact ⟨nofun, nofun⟩
  | @foundClass log r r' id decl _ hAnswer ih =>
      have hStep := r.resolveClass_step id
      rw [hAnswer] at hStep
      exact ih.classStep hStep
  | @noClass log r r' id _ hAnswer ih =>
      have hStep := r.resolveClass_step id
      rw [hAnswer] at hStep
      simpa using ih.classStep hStep
  | @foundMember log r r' owner name members _ hAnswer ih =>
      have hStep := r.resolveMember_step owner name
      rw [hAnswer] at hStep
      exact ih.memberStep hStep
  | @noMember log r r' owner name e _ hAnswer ih =>
      have hStep := r.resolveMember_step owner name
      rw [hAnswer] at hStep
      simpa [Except.toOption] using ih.memberStep hStep

end TwoPhase.Greeter
