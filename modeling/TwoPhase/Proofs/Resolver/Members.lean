import TwoPhase.Proofs.Resolver.Filing
import TwoPhase.Proofs.Resolver.Trace

/-!
# The names of members and the members themselves

Two questions are about the members of a class: which names there are, and what one name stands
for.  They are answered from different sources.  The names come from the provider of the class,
or, for the host's class, from the symbol table; what a name stands for comes from the symbol
table first, and from the provider only if the table has nothing.  Still the two agree, for every
class, at every time, whatever was asked in between.

## Strategy

Both questions are measured against one relation, `Listed`, which does not mention the cache.  As
the symbols are filed where the resolver looks for them (`Filed`), it gives the names that are
listed, and finds a member exactly if its name is listed.  Questions for members change neither the
owners nor the classes, so they leave `Listed` as it is.

## Main results

* `Filed.resolveMember_ok_iff`, `Filed.memberNames_contains_iff` — both answers in terms of
  the names that are listed.
* `resolveMember_of_repeated` — a member that was found once is found again, at any later time, and
  finding it again changes nothing.
* `members_answer_as_named` — how the two questions agree.
-/

namespace TwoPhase.Resolver

open Relation (ReflTransGen)

variable {r r' later : Resolver} {owner id : ClassId} {name : Name}

/-! ## The two answers -/

/-- A member is found exactly if it is listed. -/
theorem Filed.resolveMember_ok_iff (h : r.Filed) :
    (∃ members, (r.resolveMember owner name).1 = .ok members) ↔ r.Listed owner name := by
  have hStep := r.resolveMember_step owner name
  constructor
  · intro hOk
    generalize (r.resolveMember owner name).1 = answer,
      (r.resolveMember owner name).2 = next at hStep hOk
    cases hStep with
    | known hKnown =>
        -- whatever is in the table was listed when it got there
        obtain ⟨group, hGroup, hId⟩ := List.mem_map.1 (SymbolTable.hasCallables_iff.1 hKnown)
        obtain ⟨owner', name', hMember, hListed⟩ := h.groups group hGroup
        rw [hId, CallableId.member_inj] at hMember
        rw [hMember.1, hMember.2]
        exact hListed
    | failed =>
        obtain ⟨members, hMembers⟩ := hOk
        cases hMembers
    | declared _ hOwner hClass hProvider hName => exact .provider hOwner hProvider hClass hName
  · intro hListed
    exact (hStep.ok_of_listed h hListed).1

theorem memberNames_of_unowned (hOwner : r.owner? owner = none) :
    r.memberNames owner = .error (.unresolvedClass owner) := by
  rw [memberNames, hOwner]

/-- The names that are given are those that are listed. -/
theorem Filed.memberNames_contains_iff (h : r.Filed) :
    (∃ names, r.memberNames owner = .ok names ∧ name ∈ names) ↔ r.Listed owner name := by
  cases hOwner : r.owner? owner with
  | none =>
      constructor
      · rintro ⟨names, hNames, _⟩
        rw [memberNames_of_unowned hOwner] at hNames
        cases hNames
      · intro hListed
        have hOwned := h.owned_of_listed hListed
        rw [hOwner] at hOwned
        cases hOwned
  | some source =>
      have hClass : (r.symbols.class? owner).isSome = true := by
        rw [← h.owned, hOwner]
        rfl
      obtain ⟨names, hNames, hMem⟩ := memberNames_eq_ok h hClass
      simp [hNames, hMem]

/-! ## Failures -/

/-- A question for members that fails is due to a fault, and leaves no mark. -/
theorem resolveMember_of_error {e : CompileError}
    (hError : (r.resolveMember owner name).1 = .error e) :
    MemberFault r owner name e ∧ (r.resolveMember owner name).2 = r := by
  have hStep := r.resolveMember_step owner name
  generalize (r.resolveMember owner name).1 = answer,
    (r.resolveMember owner name).2 = next at hStep hError
  cases hStep with
  | known => cases hError
  | failed _ hFault =>
      cases hError
      exact ⟨hFault, rfl⟩
  | declared => cases hError

/-- A resolver fails to find a member in two ways: the class was never answered for, or
the name is not one of its members. -/
theorem Filed.fault_eq (h : r.Filed) {e : CompileError}
    (hFault : MemberFault r owner name e) :
    e = if (r.owner? owner).isSome then .unresolvedMember owner name
      else .unresolvedClass owner := by
  cases hFault with
  | unowned hOwner => simp [hOwner]
  | host hOwner => simp [hOwner]
  | undeclared hOwner hClass =>
      -- a class with an owner is in the table
      have hOwned := h.owned owner
      simp [hOwner, hClass] at hOwned
  | absent hOwner hClass hProvider =>
      -- and its owner is one of the providers
      obtain ⟨p, hFound⟩ := h.found hOwner
      rw [hFound] at hProvider
      cases hProvider
  | unlisted hOwner => simp [hOwner]

/-! ## Repetitions -/

/-- What the table has is answered, and nothing changes. -/
theorem resolveMember_of_group {group : CallableGroup}
    (hGroup : r.symbols.group? (.member owner name) = some group) :
    r.resolveMember owner name = (.ok group.overloads, r) := by
  have hKnown : r.symbols.hasCallables (.member owner name) = true := by
    rw [SymbolTable.hasCallables_eq, hGroup]
    rfl
  simp only [resolveMember, hKnown, if_true, SymbolTable.callables_of_group? hGroup]

/-- Members that were found are in the table. -/
theorem group?_of_resolveMember {members : List CallableDecl}
    (hOk : (r.resolveMember owner name).1 = .ok members) :
    ∃ group, (r.resolveMember owner name).2.symbols.group? (.member owner name) = some group ∧
      group.overloads = members := by
  have hStep := r.resolveMember_step owner name
  generalize (r.resolveMember owner name).1 = answer,
    (r.resolveMember owner name).2 = next at hStep hOk
  cases hStep with
  | known hKnown =>
      cases hOk
      obtain ⟨group, hGroup⟩ := SymbolTable.exists_group? hKnown
      exact ⟨group, hGroup, (SymbolTable.callables_of_group? hGroup).symm⟩
  | failed => cases hOk
  | declared _ _ _ _ _ _ hDefined =>
      cases hOk
      refine ⟨⟨.member owner name, members⟩, ?_, rfl⟩
      rw [SymbolTable.group?_defineCallables hDefined, if_pos rfl]

/-- A group of callables stays as it is. -/
theorem Step.group? {group : CallableGroup} {callable : CallableId} (hStep : Step r r')
    (hGroup : r.symbols.group? callable = some group) :
    r'.symbols.group? callable = some group := by
  refine hStep.elim (P := fun r' => r'.symbols.group? callable = some group) ?_ ?_
  · intro id answer next hClass
    rwa [SymbolTable.group?_eq_find?, hClass.groups_eq, ← SymbolTable.group?_eq_find?]
  · intro owner name answer next hMember
    cases hMember with
    | known => exact hGroup
    | failed => exact hGroup
    | declared hNew _ _ _ _ _ hDefined =>
        have hNe : CallableId.member owner name ≠ callable := by
          rintro rfl
          rw [SymbolTable.hasCallables_eq, hGroup] at hNew
          cases hNew
        rw [SymbolTable.group?_defineCallables hDefined, if_neg hNe]
        exact hGroup

/-- **A member that was found is found again**, at any later time, and then nothing changes. -/
theorem resolveMember_of_repeated {members : List CallableDecl}
    (hOk : (r.resolveMember owner name).1 = .ok members)
    (hLater : Steps (r.resolveMember owner name).2 later) :
    later.resolveMember owner name = (.ok members, later) := by
  obtain ⟨group, hGroup, rfl⟩ := group?_of_resolveMember hOk
  exact resolveMember_of_group
    (hLater.invariant (P := fun r => r.symbols.group? (.member owner name) = some group)
      (fun hStep => hStep.group?) hGroup)

/-! ## Questions for members only -/

/-- A question for members, of any class and whatever the answer. -/
inductive AsksMember (r : Resolver) : Resolver → Prop
  | ask (owner : ClassId) (name : Name) : AsksMember r (r.resolveMember owner name).2

/-- Any number of questions for members. -/
def AsksMembers : Resolver → Resolver → Prop := ReflTransGen AsksMember

theorem AsksMembers.steps (h : AsksMembers r later) : Steps r later := by
  induction h with
  | refl => exact .refl
  | tail _ hLast ih =>
      cases hLast with
      | ask owner name => exact .tail ih (.resolveMember owner name)

/-- The question for members leaves the owners alone. -/
theorem MemberStep.owner?_eq {answer : Except CompileError (List CallableDecl)}
    (h : MemberStep r owner name answer r') (id : ClassId) : r'.owner? id = r.owner? id := by
  cases h <;> rfl

theorem AsksMembers.owner?_eq (h : AsksMembers r later) (id : ClassId) :
    later.owner? id = r.owner? id := by
  induction h with
  | refl => rfl
  | @tail middle last _ hLast ih =>
      cases hLast with
      | ask owner name => rw [(middle.resolveMember_step owner name).owner?_eq id, ih]

/-- Questions for members list no member and forget none. -/
theorem Filed.listed_iff_of_asksMembers (h : r.Filed) (hLater : later.Filed)
    (hAsks : AsksMembers r later) : later.Listed owner name ↔ r.Listed owner name := by
  constructor
  · intro hListed
    refine h.listed_of_grows ?_ hAsks.steps.grows hListed
    rw [← h.owned, ← hAsks.owner?_eq]
    exact hLater.owned_of_listed hListed
  · intro hListed
    exact hListed.grows hAsks.steps.grows

/-! ## Which classes were answered for -/

/-- After a question for a class, those classes have an owner that had one before, and the class
asked for if it was found. -/
theorem ClassStep.owned_iff (hKeeps : ∀ p ∈ r.extensions.declarations, p.KeepsIds) (h : r.Filed)
    {answer : Option ClassDecl} (hStep : ClassStep r id answer r') (other : ClassId) :
    (r'.owner? other).isSome = true ↔
      (r.owner? other).isSome = true ∨ other = id ∧ answer.isSome = true := by
  cases hStep with
  | known hOwned =>
      rw [← h.owned]
      constructor
      · exact .inl
      · rintro (hOther | ⟨rfl, hOther⟩)
        · exact hOther
        · exact hOther
  | declared hOwned hNew hAsked hDefined =>
      rw [owner?_cons rfl, SymbolTable.class?_defineClass hDefined, id_of_asked hKeeps hAsked]
      by_cases hOther : other = id
      · simp [hOther]
      · simp [hOther]
  | _ => simp [owner?]

theorem owner?_start_isSome_iff (module : String) (extensions : Extensions) :
    ((start module extensions).owner? id).isSome = true ↔ id = rootClass := by
  rw [(filed_start module extensions).owned, SymbolTable.class?_isSome_iff]
  exact List.mem_singleton

/-- A class has an owner exactly if it is the root class or was found by some question. -/
theorem owned_iff_of_trace {module : String} {extensions : Extensions} {log : List Descriptor}
    (hKeeps : ∀ p ∈ extensions.declarations, p.KeepsIds)
    (hTrace : Trace (start module extensions) log r) (id : ClassId) :
    (r.owner? id).isSome = true ↔ id = rootClass ∨ .classLike id ∈ log := by
  have hOne : ∀ {log r} {asked : ClassId} {answer : Option ClassDecl} {r' : Resolver},
      Trace (start module extensions) log r → r.resolveClass asked = (answer, r') →
      ((r'.owner? id).isSome = true ↔
        (r.owner? id).isSome = true ∨ id = asked ∧ answer.isSome = true) := by
    intro log r asked answer r' hTrace hAnswer
    have hHere : ∀ p ∈ r.extensions.declarations, p.KeepsIds := by
      rw [hTrace.steps.grows.extensions]
      exact hKeeps
    have hFiled := (filed_start module extensions).steps hKeeps hTrace.steps
    have hStep := r.resolveClass_step asked
    rw [hAnswer] at hStep
    exact hStep.owned_iff hHere hFiled id
  have hSame : ∀ {r : Resolver} {owner : ClassId} {name : Name}
      {answer : Except CompileError (List CallableDecl)} {r' : Resolver},
      r.resolveMember owner name = (answer, r') → r'.owner? id = r.owner? id := by
    intro r owner name answer r' hAnswer
    have hStep := r.resolveMember_step owner name
    rw [hAnswer] at hStep
    exact hStep.owner?_eq id
  induction hTrace with
  | nil => simp [owner?_start_isSome_iff]
  | foundClass hTrace hAnswer ih => simp [hOne hTrace hAnswer, ih, or_assoc]
  | noClass hTrace hAnswer ih => simp [hOne hTrace hAnswer, ih]
  | foundMember _ hAnswer ih => simp [hSame hAnswer, ih]
  | noMember _ hAnswer ih => simp [hSame hAnswer, ih]

/-! ## The agreement -/

/-- **The names of members and the members agree, and failures change nothing.**  The providers
answer under the identifiers that they are asked for, and the resolver may have any history.

A member is found exactly if the names are given and contain its own, and it does not matter which
members were asked for before either question, nor how often.  For a class that was never answered
for both questions fail with the class.  For any other class the names are given, and a member that
is not found is reported as such.  The classes that were answered for are the root class and those
that the history has found.

A question for a member that fails leaves the resolver as it was.  One that succeeds will be
answered in the same way after any further calls, and then changes nothing.  No symbol is ever
reported to be there twice. -/
theorem members_answer_as_named {module : String} {extensions : Extensions}
    (hKeeps : ∀ p ∈ extensions.declarations, p.KeepsIds)
    (hReachable : Reachable module extensions r) (owner : ClassId) (name : Name) :
    (∀ {s t}, AsksMembers r s → AsksMembers r t →
      ((∃ members, (s.resolveMember owner name).1 = .ok members) ↔
        ∃ names, t.memberNames owner = .ok names ∧ name ∈ names)) ∧
    (r.owner? owner = none → r.memberNames owner = .error (.unresolvedClass owner) ∧
      (r.resolveMember owner name).1 = .error (.unresolvedClass owner)) ∧
    ((r.owner? owner).isSome = true → (∃ names, r.memberNames owner = .ok names) ∧
      ∀ e, (r.resolveMember owner name).1 = .error e → e = .unresolvedMember owner name) ∧
    (∀ log, Trace (start module extensions) log r →
      ((r.owner? owner).isSome = true ↔ owner = rootClass ∨ .classLike owner ∈ log)) ∧
    (∀ e, (r.resolveMember owner name).1 = .error e → (r.resolveMember owner name).2 = r) ∧
    (∀ {members later}, (r.resolveMember owner name).1 = .ok members →
      ReflTransGen Call (r.resolveMember owner name).2 later →
      later.resolveMember owner name = (.ok members, later)) ∧
    ∀ symbol, (r.resolveMember owner name).1 ≠ .error (.duplicateSymbol symbol) := by
  have h : r.Filed := filed_of_reachable hKeeps hReachable
  have hError : ∀ e, (r.resolveMember owner name).1 = .error e →
      e = if (r.owner? owner).isSome then .unresolvedMember owner name
        else .unresolvedClass owner :=
    fun e hError => h.fault_eq (resolveMember_of_error hError).1
  refine ⟨?_, ?_, ?_, ?_, ?_, ?_, ?_⟩
  · intro s t hs ht
    have hHere : ∀ {later}, AsksMembers r later → later.Filed := by
      intro later hAsks
      refine h.steps ?_ hAsks.steps
      rw [hReachable.extensions_eq]
      exact hKeeps
    rw [(hHere hs).resolveMember_ok_iff, (hHere ht).memberNames_contains_iff,
      h.listed_iff_of_asksMembers (hHere hs) hs, h.listed_iff_of_asksMembers (hHere ht) ht]
  · intro hOwner
    refine ⟨memberNames_of_unowned hOwner, ?_⟩
    cases hAnswer : (r.resolveMember owner name).1 with
    | error e =>
        rw [hError e hAnswer, hOwner]
        rfl
    | ok members =>
        have hOwned := h.owned_of_listed (h.resolveMember_ok_iff.1 ⟨members, hAnswer⟩)
        rw [hOwner] at hOwned
        cases hOwned
  · intro hOwned
    constructor
    · obtain ⟨names, hNames, _⟩ := memberNames_eq_ok h (h.owned owner ▸ hOwned)
      exact ⟨names, hNames⟩
    · intro e hAnswer
      rw [hError e hAnswer, if_pos hOwned]
  · intro log hTrace
    exact owned_iff_of_trace hKeeps hTrace owner
  · intro e hAnswer
    exact (resolveMember_of_error hAnswer).2
  · intro members later hOk hLater
    exact resolveMember_of_repeated hOk (steps_of_calls hLater)
  · intro symbol hAnswer
    have hSymbol := hError _ hAnswer
    split at hSymbol
    · cases hSymbol
    · cases hSymbol

/-! ## A sample -/

/-- The sample after one of its two classes was asked for. -/
def ringRight : Resolver :=
  ((start "main" ⟨[Catalogue.ring.provider], []⟩).resolveClass Catalogue.Ring.right).2

/-- The class that was asked for has a constructor and nothing that is named like its field.  The
other class is not there yet. -/
theorem ring_members :
    Reachable "main" ⟨[Catalogue.ring.provider], []⟩ ringRight ∧
      (∃ names, ringRight.memberNames Catalogue.Ring.right = .ok names ∧ .init ∈ names) ∧
      (ringRight.resolveMember Catalogue.Ring.right ⟨"x"⟩).1 =
        .error (.unresolvedMember Catalogue.Ring.right ⟨"x"⟩) ∧
      (ringRight.resolveMember Catalogue.Ring.right ⟨"x"⟩).2 = ringRight ∧
      (ringRight.resolveMember Catalogue.Ring.left .init).1 =
        .error (.unresolvedClass Catalogue.Ring.left) := by
  have hReachable : Reachable "main" ⟨[Catalogue.ring.provider], []⟩ ringRight :=
    .single (.resolveClass Catalogue.Ring.right)
  have hAgree := members_answer_as_named
    (fun p hp => (Catalogue.ring_faithful p hp).keepsIds) hReachable
  have hMember : ∃ members,
      (ringRight.resolveMember Catalogue.Ring.right .init).1 = .ok members := ⟨_, rfl⟩
  have hNone : (ringRight.resolveMember Catalogue.Ring.right ⟨"x"⟩).1 =
      .error (.unresolvedMember Catalogue.Ring.right ⟨"x"⟩) := rfl
  obtain ⟨hNames, _⟩ := hAgree Catalogue.Ring.right .init
  obtain ⟨_, _, _, _, hUnchanged, _⟩ := hAgree Catalogue.Ring.right ⟨"x"⟩
  obtain ⟨_, hUnknown, _⟩ := hAgree Catalogue.Ring.left .init
  exact ⟨hReachable, (hNames .refl .refl).1 hMember, hNone, hUnchanged _ hNone, (hUnknown rfl).2⟩

end TwoPhase.Resolver
