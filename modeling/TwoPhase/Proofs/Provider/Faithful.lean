import TwoPhase.Provider.Catalogue

/-!
# Faithful providers

A provider of declarations may answer anything.  What the resolver remembers makes sense only if
a provider answers for what it was asked: a class with the requested identifier, members with
the requested identifier, and for a given class always a declaration or never one, whatever
types happen to be numbered already.  Such a provider is *faithful*.

## Main results

* `DeclarationProvider.Faithful.declares_iff` — a single question decides whether a faithful
  provider declares a class.
* `Catalogue.Plain.faithful` — a catalogue without conditions and without foreign identifiers
  is a faithful provider, which makes faithfulness decidable for catalogues.
-/

namespace TwoPhase

namespace DeclarationProvider

/-- A provider that answers for what it is asked. -/
structure Faithful (p : DeclarationProvider) : Prop where
  /-- A class is declared under the identifier that was asked for. -/
  class_id : ∀ {id types decl}, (p.declareClass id types).1 = some decl → decl.id = id
  /-- So are the members of a class. -/
  member_id : ∀ {id owner types member},
    member ∈ (p.declareMembers id owner types).1 → member.id = id
  /-- Whether a class is declared does not depend on the types numbered so far. -/
  settled : ∀ id types types',
    (p.declareClass id types).1.isSome = (p.declareClass id types').1.isSome

/-- A provider that answers under the identifiers it is asked for, whatever else its answers depend
on. -/
structure KeepsIds (p : DeclarationProvider) : Prop where
  class_id : ∀ {id types decl}, (p.declareClass id types).1 = some decl → decl.id = id
  member_id : ∀ {id owner types member},
    member ∈ (p.declareMembers id owner types).1 → member.id = id

theorem Faithful.keepsIds {p : DeclarationProvider} (h : p.Faithful) : p.KeepsIds :=
  ⟨h.class_id, h.member_id⟩

/-- The provider may have the package of a class, and declares the class. -/
def Declares (p : DeclarationProvider) (id : ClassId) : Prop :=
  p.hasNamespace id.package = true ∧ ∀ types, (p.declareClass id types).1.isSome = true

/-- One answer of a faithful provider stands for all of them. -/
theorem Faithful.declares_iff {p : DeclarationProvider} (hFaithful : p.Faithful) {id : ClassId}
    (types : TypeTable) :
    p.Declares id ↔
      p.hasNamespace id.package = true ∧ (p.declareClass id types).1.isSome = true := by
  constructor
  · rintro ⟨hNamespace, hAll⟩
    exact ⟨hNamespace, hAll types⟩
  · rintro ⟨hNamespace, hOne⟩
    refine ⟨hNamespace, fun types' => ?_⟩
    rw [hFaithful.settled id types' types]
    exact hOne

/-- The first provider of a list that declares a class: no provider at a smaller position
does. -/
structure FirstToDeclare (providers : List DeclarationProvider) (id : ClassId) (index : Nat)
    (p : DeclarationProvider) : Prop where
  found : providers[index]? = some p
  declares : p.Declares id
  least : ∀ j < index, ∀ q, providers[j]? = some q → ¬ q.Declares id

/-- The first provider is one of the providers. -/
theorem FirstToDeclare.mem {providers : List DeclarationProvider} {id : ClassId} {index : Nat}
    {p : DeclarationProvider} (h : FirstToDeclare providers id index p) : p ∈ providers :=
  List.mem_of_getElem? h.found

/-- There is only one first provider. -/
theorem FirstToDeclare.unique {providers : List DeclarationProvider} {id : ClassId}
    {i j : Nat} {p q : DeclarationProvider} (hp : FirstToDeclare providers id i p)
    (hq : FirstToDeclare providers id j q) : i = j ∧ p = q := by
  have hIndex : i = j := by
    rcases Nat.lt_trichotomy i j with hLt | hEq | hGt
    · exact absurd hp.declares (hq.least i hLt p hp.found)
    · exact hEq
    · exact absurd hq.declares (hp.least j hGt q hq.found)
  subst hIndex
  exact ⟨rfl, Option.some.inj (hp.found.symm.trans hq.found)⟩

theorem FirstToDeclare.head {p : DeclarationProvider} {id : ClassId} (h : p.Declares id)
    (rest : List DeclarationProvider) : FirstToDeclare (p :: rest) id 0 p where
  found := rfl
  declares := h
  least := fun j hj => absurd hj (Nat.not_lt_zero j)

theorem FirstToDeclare.tail {p q : DeclarationProvider} {rest : List DeclarationProvider}
    {id : ClassId} {index : Nat} (hHead : ¬ p.Declares id)
    (hTail : FirstToDeclare rest id index q) : FirstToDeclare (p :: rest) id (index + 1) q where
  found := by rw [List.getElem?_cons_succ]; exact hTail.found
  declares := hTail.declares
  least := by
    intro j hj other hOther
    cases j with
    | zero =>
        have hEq : p = other := by simpa using hOther
        exact hEq ▸ hHead
    | succ j =>
        rw [List.getElem?_cons_succ] at hOther
        exact hTail.least j (by omega) other hOther

end DeclarationProvider

/-! ## Catalogues -/

namespace Catalogue

/-- A catalogue whose answers carry the identifiers under which they are listed, and whose
entries are not passed over for a type. -/
structure Plain (c : Catalogue) : Prop where
  classes : ∀ entry ∈ c.classes, entry.unlessType = none ∧
    ∀ spec ∈ entry.answer, spec.id = entry.id
  members : ∀ entry ∈ c.members, entry.spec.id = none

instance (c : Catalogue) : Decidable c.Plain :=
  decidable_of_iff
    ((∀ entry ∈ c.classes, entry.unlessType = none ∧
        ∀ spec ∈ entry.answer, spec.id = entry.id) ∧
      ∀ entry ∈ c.members, entry.spec.id = none)
    ⟨fun h => ⟨h.1, h.2⟩, fun h => ⟨h.classes, h.members⟩⟩

/-- In a plain catalogue the entry for a class is found by its identifier alone. -/
private theorem Plain.answersFor_eq {c : Catalogue} (hPlain : c.Plain) {entry : ClassEntry}
    (hEntry : entry ∈ c.classes) (id : ClassId) (types : TypeTable) :
    entry.answersFor id types = (entry.id == id) := by
  rw [ClassEntry.answersFor, (hPlain.classes entry hEntry).1]
  simp

/-- What a plain catalogue declares, the types apart. -/
theorem Plain.find?_eq {c : Catalogue} (hPlain : c.Plain) (id : ClassId)
    (types : TypeTable) :
    c.classes.find? (·.answersFor id types) = c.classes.find? (·.id == id) := by
  have hAgree : ∀ entries : List ClassEntry, (∀ entry ∈ entries, entry ∈ c.classes) →
      entries.find? (·.answersFor id types) = entries.find? (·.id == id) := by
    intro entries
    induction entries with
    | nil => intro _; rfl
    | cons entry rest ih =>
        intro hMem
        rw [List.find?_cons, List.find?_cons,
          hPlain.answersFor_eq (hMem entry List.mem_cons_self),
          ih fun other hOther => hMem other (List.mem_cons_of_mem entry hOther)]
  exact hAgree c.classes fun _ h => h

private theorem mem_declareAll_id {id : CallableId} {member : CallableDecl} :
    ∀ (specs : List CallableSpec) (types : TypeTable), (∀ spec ∈ specs, spec.id = none) →
      member ∈ (CallableSpec.declareAll id specs types).1 → member.id = id := by
  intro specs
  induction specs with
  | nil => intro types _ h; cases h
  | cons spec rest ih =>
      intro types hNone h
      rw [CallableSpec.declareAll] at h
      rcases List.mem_cons.1 h with rfl | h
      · rw [CallableSpec.declare, hNone spec List.mem_cons_self]
        rfl
      · exact ih _ (fun other hOther => hNone other (List.mem_cons_of_mem spec hOther)) h

/-- A plain catalogue is a faithful provider. -/
theorem Plain.faithful {c : Catalogue} (hPlain : c.Plain) : c.provider.Faithful where
  class_id := by
    intro id types decl h
    change (c.declareClass id types).1 = some decl at h
    rw [declareClass, hPlain.find?_eq] at h
    cases hFind : c.classes.find? (·.id == id) with
    | none => simp [hFind] at h
    | some entry =>
        have hId : entry.id = id := by simpa using List.find?_some hFind
        cases hAnswer : entry.answer with
        | none => simp [hFind, hAnswer] at h
        | some spec =>
            have hSpec := (hPlain.classes entry (List.mem_of_find?_eq_some hFind)).2 spec hAnswer
            simp only [hFind, hAnswer, Option.some.injEq] at h
            rw [← h, ← hId, ← hSpec]
            rfl
  member_id := by
    intro id owner types member h
    refine mem_declareAll_id _ types ?_ h
    intro spec hSpec
    obtain ⟨entry, hEntry, rfl⟩ := List.mem_map.1 hSpec
    exact hPlain.members entry (List.mem_filter.1 hEntry).1
  settled := by
    intro id types types'
    change (c.declareClass id types).1.isSome = (c.declareClass id types').1.isSome
    rw [declareClass, declareClass, hPlain.find?_eq, hPlain.find?_eq]
    cases c.classes.find? (·.id == id) with
    | none => rfl
    | some entry =>
        cases hAnswer : entry.answer with
        | none => simp [hAnswer]
        | some spec => simp [hAnswer]

/-! ## A sample -/

namespace Ring

/-- The key of the sample. -/
def key : Key := ⟨0, "ring"⟩

def left : ClassId := ⟨⟨[⟨"ring"⟩]⟩, ⟨"Left"⟩⟩

def right : ClassId := ⟨⟨[⟨"ring"⟩]⟩, ⟨"Right"⟩⟩

/-- A constructor without parameters. -/
def constructor (id : ClassId) : MemberEntry :=
  ⟨id, .init, none, .constructor, [], .named (.classLike id), .generated key, .synthetic⟩

end Ring

/-- Two classes that extend each other.  Only the first one is advertised, only the second one
has a field. -/
def ring : Catalogue where
  classes :=
    [⟨Ring.left, none, [],
        some ⟨Ring.left, some Ring.right, [], .generated Ring.key, .synthetic⟩⟩,
      ⟨Ring.right, none, [],
        some ⟨Ring.right, some Ring.left, [⟨[⟨"x"⟩], .named (.primitive .number)⟩],
          .generated Ring.key, .synthetic⟩⟩]
  members := [Ring.constructor Ring.left, Ring.constructor Ring.right]
  namespaces := none
  topLevel := some [.classLike Ring.left]
  names := []

theorem ring_faithful : ∀ p ∈ [ring.provider], p.Faithful := by
  intro p hp
  rw [List.mem_singleton.1 hp]
  exact Plain.faithful (by decide)

end Catalogue
end TwoPhase
