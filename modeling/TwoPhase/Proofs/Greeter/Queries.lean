import TwoPhase.Proofs.Greeter.Declarations
import TwoPhase.Proofs.Types.Numbering

/-!
# How a greeter's answers fit together

A greeter is asked five questions, and to each of them it looks at its catalogue in another way: for
the advertised symbols and the packages not at all, for a class by its identifier, for the member
names by the class that was declared, for the members by that class, the owner and the name.  The
answers agree all the same, on every class that may be put before it and every callable, be its
package that of the owner or not, and they stay the same as types are numbered.

## Strategy

`Concordant` says what it is for the answers of any provider to agree.  For a greeter all of it
follows from three equivalences: which classes are its own (`owns_iff`), which names they have
(`mem_memberNames`), and which callables it declares under them (`declareMembers_eq`).  Asked again,
it finds the type of its class numbered.

## Main results

* `declareMembers_eq` — the members that a greeter declares, in terms of the names.
* `declarations_concordant` — the answers of every greeter agree.
-/

namespace TwoPhase

theorem Origin.key?_eq_some_iff {origin : Origin} {key : Key} :
    origin.key? = some key ↔ origin = .generated key := by
  cases origin with
  | source => simp [Origin.key?]
  | generated other => simp [Origin.key?]

/-- The answers of a provider agree, and they carry this key. -/
structure DeclarationProvider.Concordant (p : DeclarationProvider) (key : Key) : Prop where
  /-- The classes that it declares are those that it advertises. -/
  classes : ∀ id types, (p.declareClass id types).1.isSome = true ↔ .classLike id ∈ p.topLevel
  /-- It may have the packages around these classes, and no others. -/
  namespaces : ∀ path, p.hasNamespace path = true ↔
    ∃ id, .classLike id ∈ p.topLevel ∧ path.segments <+: id.package.segments
  /-- It knows no names on a class that it does not advertise or that is not from itself. -/
  names : ∀ owner, p.memberNames owner = [] ↔
    owner.origin ≠ .generated key ∨ .classLike owner.id ∉ p.topLevel
  /-- It declares members under the names that it knows. -/
  members : ∀ id owner types, (p.declareMembers id owner types).1 ≠ [] ↔
    id.owner = some owner.id ∧ id.name ∈ p.memberNames owner
  /-- If it declares any, it is this one. -/
  member : ∀ id owner types, (p.declareMembers id owner types).1 ≠ [] → ∃ member,
    (p.declareMembers id owner types).1 = [member] ∧ member.id = id ∧
      member.origin = .generated key ∧ member.params = [] ∧
      (member.kind = .constructor ↔ id.name = .init) ∧
      (id.name = .init →
        (p.declareMembers id owner types).2.lookupClass? owner.id = some member.returns) ∧
      (id.name ≠ .init → member.returns = Primitive.string.typeId)
  /-- A class is declared in the same way at any later time. -/
  classAgain : ∀ id types calls,
    (p.declareClass id ((p.declareClass id types).2.after calls)).1 = (p.declareClass id types).1
  /-- So are members, and no further type is numbered. -/
  membersAgain : ∀ id owner types calls,
    p.declareMembers id owner ((p.declareMembers id owner types).2.after calls) =
      ((p.declareMembers id owner types).1, (p.declareMembers id owner types).2.after calls)

namespace Greeter

variable {key : Key} {owner : ClassDecl} {id : CallableId} {name : Name} {types : TypeTable}

/-! ## Classes and names -/

theorem classLike_mem_topLevel {id : ClassId} :
    .classLike id ∈ (declarations key).topLevel ↔ id = greeterClass := by
  show Descriptor.classLike id ∈ [Descriptor.classLike greeterClass] ↔ _
  rw [List.mem_singleton, Descriptor.classLike.injEq]

/-- A greeter owns the class of the catalogue if the class carries its key. -/
theorem owns_iff : owns key owner = true ↔
    owner.origin = .generated key ∧ owner.id = greeterClass := by
  rw [owns, Bool.and_eq_true, ofClass?_isSome_iff, beq_iff_eq]
  exact and_congr_left fun _ => Origin.key?_eq_some_iff

theorem memberNames_eq : (declarations key).memberNames owner =
    if owns key owner then [.init, functionName] else [] :=
  rfl

theorem mem_memberNames : name ∈ (declarations key).memberNames owner ↔
    owns key owner = true ∧ (name = .init ∨ name = functionName) := by
  rw [memberNames_eq]
  by_cases hOwns : owns key owner = true
  · simp [hOwns]
  · simp [hOwns]

/-! ## Members -/

theorem ofCallable?_eq (hOwner : id.owner = some greeterClass) : Entry.ofCallable? id =
    if id.name = .init then some .constructor
    else if id.name = functionName then some .function else none := by
  rw [Entry.ofCallable?, if_pos hOwner]
  by_cases hInit : id.name = .init
  · rw [if_pos hInit, hInit]
    rfl
  · rw [if_neg hInit]
    by_cases hFunction : id.name = functionName
    · rw [if_pos hFunction, hFunction]
      rfl
    · rw [if_neg hFunction]
      simp [Entry.all, Entry.memberName?, Ne.symm hInit, Ne.symm hFunction]

/-- **A greeter declares one member under each of its names**, and nothing else. -/
theorem declareMembers_eq : (declarations key).declareMembers id owner types =
    if id.owner = some owner.id ∧ id.name ∈ (declarations key).memberNames owner then
      if id.name = .init then
        ([memberDecl key id .constructor (types.internClass owner.id).1],
          (types.internClass owner.id).2)
      else ([memberDecl key id .function Primitive.string.typeId], types)
    else ([], types) := by
  show declareMembers key id owner types = _
  rw [declareMembers]
  by_cases hHere : (owns key owner && id.owner == some owner.id) = true
  · rw [if_pos hHere]
    rw [Bool.and_eq_true, beq_iff_eq] at hHere
    obtain ⟨hOwns, hOwner⟩ := hHere
    rw [ofCallable?_eq (hOwner.trans (congrArg some (owns_iff.1 hOwns).2))]
    by_cases hInit : id.name = .init
    · rw [if_pos hInit, if_pos hInit, if_pos ⟨hOwner, mem_memberNames.2 ⟨hOwns, .inl hInit⟩⟩]
    · rw [if_neg hInit, if_neg hInit]
      by_cases hFunction : id.name = functionName
      · rw [if_pos hFunction, if_pos ⟨hOwner, mem_memberNames.2 ⟨hOwns, .inr hFunction⟩⟩]
      · rw [if_neg hFunction, if_neg]
        exact fun hListed => (mem_memberNames.1 hListed.2).2.elim hInit hFunction
  · rw [if_neg hHere, if_neg]
    rintro ⟨hOwner, hName⟩
    rw [(mem_memberNames.1 hName).1, hOwner, beq_self_eq_true] at hHere
    exact hHere rfl

theorem declareMembers_ne_nil_iff : ((declarations key).declareMembers id owner types).1 ≠ [] ↔
    id.owner = some owner.id ∧ id.name ∈ (declarations key).memberNames owner := by
  rw [declareMembers_eq]
  by_cases hListed : id.owner = some owner.id ∧ id.name ∈ (declarations key).memberNames owner
  · rw [if_pos hListed]
    refine ⟨fun _ => hListed, fun _ => ?_⟩
    split
    · exact List.cons_ne_nil _ _
    · exact List.cons_ne_nil _ _
  · rw [if_neg hListed]
    exact ⟨fun h => absurd rfl h, fun h => absurd h hListed⟩

/-- Asked again, a greeter declares the same members and numbers no further type. -/
theorem declareMembers_again (calls : List TypeTable.Call) :
    (declarations key).declareMembers id owner
        (((declarations key).declareMembers id owner types).2.after calls) =
      (((declarations key).declareMembers id owner types).1,
        ((declarations key).declareMembers id owner types).2.after calls) := by
  rw [declareMembers_eq, declareMembers_eq]
  split
  · split
    · -- the number that was given out is still there
      have hKept : ((types.internClass owner.id).2.after calls).lookup? (.classLike owner.id) =
          some (types.internClass owner.id).1 :=
        TypeTable.lookup?_eq_some_iff.2
          (TypeTable.keeps_after _ calls (types.get?_internClass owner.id))
      have hAgain : ((types.internClass owner.id).2.after calls).internClass owner.id =
          ((types.internClass owner.id).1, (types.internClass owner.id).2.after calls) :=
        TypeTable.intern_of_lookup? hKept
      dsimp only
      rw [hAgain]
    · rfl
  · rfl

/-! ## All answers -/

/-- **The answers of every greeter agree.** -/
theorem declarations_concordant (key : Key) : (declarations key).Concordant key where
  classes id types := by
    rw [declareClass_eq, classLike_mem_topLevel]
    by_cases h : id = greeterClass
    · simp [h]
    · simp [h]
  namespaces path := by
    show path.encloses package = true ↔ _
    rw [Path.encloses_iff]
    constructor
    · intro hPrefix
      exact ⟨greeterClass, classLike_mem_topLevel.2 rfl, hPrefix⟩
    · rintro ⟨id, hId, hPrefix⟩
      rwa [classLike_mem_topLevel.1 hId] at hPrefix
  names owner := by
    rw [memberNames_eq, classLike_mem_topLevel, ← not_and_or, ← owns_iff]
    by_cases hOwns : owns key owner = true
    · simp [hOwns]
    · simp [hOwns]
  members id owner types := declareMembers_ne_nil_iff
  member id owner types hSome := by
    have hListed := declareMembers_ne_nil_iff.1 hSome
    rw [declareMembers_eq, if_pos hListed]
    by_cases hInit : id.name = .init
    · rw [if_pos hInit]
      have hNumber := TypeTable.lookup?_eq_some_iff.2 (types.get?_internClass owner.id)
      exact ⟨_, rfl, rfl, rfl, rfl, ⟨fun _ => hInit, fun _ => rfl⟩, fun _ => hNumber,
        fun h => absurd hInit h⟩
    · rw [if_neg hInit]
      have hKind : CallableKind.function ≠ .constructor := by decide
      exact ⟨_, rfl, rfl, rfl, rfl, ⟨fun h => absurd h hKind, fun h => absurd h hInit⟩,
        fun h => absurd h hInit, fun _ => rfl⟩
  classAgain id types calls := by rw [declareClass_eq, declareClass_eq]
  membersAgain id owner types calls := declareMembers_again calls

end Greeter
end TwoPhase
