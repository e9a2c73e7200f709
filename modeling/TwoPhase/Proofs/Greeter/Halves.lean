import TwoPhase.Proofs.Greeter.Declarations
import TwoPhase.Proofs.Machine.Lookup

/-!
# The two halves of a greeter

A pair of halves is made around one key, and halves of many pairs may be installed in any order.
Whatever is asked of the resolver, the members of the greeter's class carry the key of the first
half that declares, so it takes the partner of that half to fill them.

## Strategy

`Greeted` says which symbols there are.  From them follow the members to fill, their bodies
(`filled_member`) and the layout of the class.  A construction is one along a hierarchy of a single
class, or there is no constructor.  A call finds the body of the function in the class itself or
nowhere.

## Main results

* `lower_of_greeted` — lowering succeeds, with a body for each member that was found.
* `halves_meet` — the program does what the plugin promises.
-/

namespace TwoPhase.Greeter

open BodyProvider (FirstResponsible)

/-! ## Installing halves -/

/-- One half of a pair of greeters, with the key of the pair. -/
inductive Half where
  | declaring (key : Key)
  | filling (key : Key)
deriving DecidableEq, Repr

namespace Half

/-- The key of a half that declares. -/
def declaringKey? : Half → Option Key
  | declaring key => some key
  | filling _ => none

/-- The key of a half that fills bodies. -/
def fillingKey? : Half → Option Key
  | declaring _ => none
  | filling key => some key

/-- What is installed with a half: its side of the pair. -/
def extensions : Half → Extensions
  | declaring key => { pair key with bodies := [] }
  | filling key => { pair key with declarations := [] }

end Half

/-- Halves installed one after the other. -/
def install (halves : List Half) : Extensions :=
  halves.foldl (fun installed half => installed ++ half.extensions) .none

private theorem foldl_extensions :
    ∀ (halves : List Half) (installed : Extensions),
      halves.foldl (fun installed half => installed ++ half.extensions) installed =
        ⟨installed.declarations ++ (halves.filterMap Half.declaringKey?).map declarations,
          installed.bodies ++ (halves.filterMap Half.fillingKey?).map bodies⟩ := by
  intro halves
  induction halves with
  | nil =>
      intro installed
      simp
  | cons half rest ih =>
      intro installed
      rw [List.foldl_cons, ih]
      show Extensions.mk ((installed.declarations ++ half.extensions.declarations) ++ _)
        ((installed.bodies ++ half.extensions.bodies) ++ _) = _
      cases half with
      | declaring key =>
          simp [List.filterMap_cons, Half.extensions, Half.declaringKey?, Half.fillingKey?, pair]
      | filling key =>
          simp [List.filterMap_cons, Half.extensions, Half.declaringKey?, Half.fillingKey?, pair]

/-- What is installed in the end, on each side in the order of the halves. -/
theorem install_eq (halves : List Half) : install halves =
    ⟨(halves.filterMap Half.declaringKey?).map declarations,
      (halves.filterMap Half.fillingKey?).map bodies⟩ := by
  rw [install, foldl_extensions]
  rfl

/-- Of the halves that fill bodies, exactly the partner is responsible for a key. -/
theorem firstResponsible_bodies {keys : List Key} {key : Key} (hKey : key ∈ keys) :
    FirstResponsible (keys.map bodies) key (bodies key) := by
  have hFound : ((keys.map bodies).find? (·.responsible (some key))).isSome = true := by
    rw [List.find?_isSome]
    exact ⟨bodies key, List.mem_map_of_mem hKey, by simp [bodies]⟩
  obtain ⟨p, hp⟩ := Option.isSome_iff_exists.1 hFound
  obtain ⟨other, _, rfl⟩ := List.mem_map.1 (List.mem_of_find?_eq_some hp)
  have hSame : key = other := by simpa [bodies] using List.find?_some hp
  subst hSame
  exact BodyProvider.find?_responsible_iff.1 hp

/-! ## Bodies -/

/-- The body with which a member is filled. -/
def memberBody (view : Resolved) (member : CallableDecl) : Ir.Body :=
  if member.isConstructor then delegatingBody member (.constructorOf rootClass)
  else greetingBody member view

section Lowering

variable {key : Key} {log : List Descriptor} {r : Resolver} {returns : TypeId}
  {members : List CallableDecl} {member : CallableDecl}

theorem entryOf_eq {entry : Entry} (hOrigin : member.origin = .generated key)
    (hEntry : Entry.ofCallable? member.id = some entry) :
    entryOf key member key = .ok entry := by
  rw [entryOf, if_pos ⟨rfl, by rw [hOrigin]; rfl⟩, hEntry]

/-- The partner fills every member, given that the class and the root class's constructor are
there. -/
theorem filled_member {providers : List BodyProvider} {view : Resolved}
    (hFirst : FirstResponsible providers key (bodies key))
    (hClass : view.symbols.class? greeterClass = some (classDecl key))
    (hSuper : view.symbols.noArgConstructor? rootClass = some (rootConstructor returns))
    (hMember : Member key member) :
    Resolver.Filled providers view member (memberBody view member) := by
  cases hMember with
  | constructor type =>
      refine ⟨⟨key, bodies key, rfl, hFirst, BodyProvider.answers_iff.2 ?_⟩, rfl, rfl⟩
      have hSuperclass : (classDecl key).superclass = rootClass := rfl
      show constructorBody key _ key view = _
      unfold constructorBody
      rw [entryOf_eq rfl rfl]
      simp only [bind, Except.bind, hClass, hSuperclass, hSuper]
      rfl
  | function =>
      refine ⟨⟨key, bodies key, rfl, hFirst, BodyProvider.answers_iff.2 ?_⟩, rfl, rfl⟩
      show functionBody key _ key view = _
      unfold functionBody
      rw [entryOf_eq rfl rfl]
      rfl

end Lowering

/-! ## The symbols -/

section Symbols

variable {key : Key} {returns : TypeId} {members : List CallableDecl} {member : CallableDecl}
  {t : SymbolTable}

theorem Member.owner_eq (h : Member key member) : member.id.owner = some greeterClass := by
  cases h <;> rfl

theorem Member.owner_ne_root (h : Member key member) : member.id.owner ≠ some rootClass := by
  rw [h.owner_eq]
  decide

theorem Member.origin_eq (h : Member key member) : member.origin = .generated key := by
  cases h <;> rfl

theorem Member.isConstructor_iff (h : Member key member) :
    member.isConstructor = true ↔ member.id = .constructorOf greeterClass := by
  cases h with
  | constructor type => exact ⟨fun _ => rfl, fun _ => rfl⟩
  | function =>
      have hName : functionName ≠ .init := by decide
      refine ⟨nofun, fun hId => ?_⟩
      exact absurd (congrArg CallableId.name hId) hName

variable (hGroups : t.groups = (rootConstructor returns :: members).map single)

include hGroups

theorem allCallables_eq : t.allCallables = rootConstructor returns :: members := by
  rw [SymbolTable.allCallables_eq_flatMap, hGroups, List.flatMap_map]
  simp [single]

theorem noArgConstructor?_eq : t.noArgConstructor? rootClass = some (rootConstructor returns) := by
  rw [SymbolTable.noArgConstructor?, SymbolTable.callables_eq, SymbolTable.group?_eq_find?,
    hGroups]
  rfl

/-- No two members have one identifier. -/
theorem members_nodup : (members.map CallableDecl.id).Nodup := by
  have hKeys := t.groups_nodup
  rw [hGroups, List.map_map] at hKeys
  exact (List.nodup_cons.1 hKeys).2

variable (hMembers : ∀ member ∈ members, Member key member)

include hMembers

/-- The members are what is to be filled. -/
theorem generated_eq : t.generated = members := by
  rw [SymbolTable.generated, allCallables_eq hGroups,
    List.filter_cons_of_neg (by simp [rootConstructor]), List.filter_eq_self]
  intro member hMember
  simp [(hMembers member hMember).origin_eq]

theorem membersOf_eq : t.membersOf greeterClass = members := by
  have hOther : ((some rootClass : Option ClassId) == some greeterClass) = false := by decide
  rw [SymbolTable.membersOf, allCallables_eq hGroups,
    List.filter_cons_of_neg (Bool.not_eq_true _ ▸ hOther), List.filter_eq_self]
  intro member hMember
  simp [(hMembers member hMember).owner_eq]

/-- The root class has its constructor and no other member. -/
theorem membersOf_root : t.membersOf rootClass = [rootConstructor returns] := by
  rw [SymbolTable.membersOf, allCallables_eq hGroups, List.filter_cons_of_pos (by rfl),
    List.filter_eq_nil_iff.2]
  intro member hMember hOwner
  exact (hMembers member hMember).owner_ne_root (beq_iff_eq.1 hOwner)

/-- The class has at most one constructor. -/
theorem constructors_eq (hMember : member ∈ members)
    (hId : member.id = .constructorOf greeterClass) :
    (t.membersOf greeterClass).filter CallableDecl.isConstructor = [member] := by
  have hNodup := members_nodup hGroups
  rw [membersOf_eq hGroups hMembers, ← List.perm_singleton,
    List.perm_ext_iff_of_nodup (hNodup.of_map.filter _) (List.nodup_singleton _)]
  intro other
  rw [List.mem_filter, List.mem_singleton]
  constructor
  · rintro ⟨hOther, hKind⟩
    have hSame := (hMembers other hOther).isConstructor_iff.1 hKind
    exact List.inj_on_of_nodup_map hNodup hOther hMember (hSame.trans hId.symm)
  · rintro rfl
    exact ⟨hMember, (hMembers other hMember).isConstructor_iff.2 hId⟩

end Symbols

/-! ## The program -/

/-- A program whose generated callables are members of the greeter's class, each with its body. -/
structure Serves (p : Program) (key : Key) (members : List CallableDecl) : Prop where
  groups : ∃ returns, p.symbols.groups = (rootConstructor returns :: members).map single
  genuine : ∀ member ∈ members, Member key member
  bodies : p.module.bodies = members.map (memberBody ⟨p.types, p.symbols⟩)
  classes : ∀ id, p.module.class? id = (p.symbols.class? id).map p.symbols.layoutOf
  root : p.symbols.class? rootClass = some rootDecl

section Program

variable {p : Program} {key : Key} {members : List CallableDecl} {member : CallableDecl}
  {log : List Descriptor} {r : Resolver}

theorem memberBody_callable (view : Resolved) (member : CallableDecl) :
    (memberBody view member).callable = member.id := by
  unfold memberBody
  split <;> rfl

/-- The class is there as soon as one of its members is. -/
theorem Greeted.class_of_member (h : Greeted key log r) (hMember : Member key member)
    (hGroup : single member ∈ r.symbols.groups) :
    r.symbols.class? greeterClass = some (classDecl key) := by
  obtain ⟨owner, name, hId, hListed⟩ := h.coherent.groups _ hGroup
  have hOwner : owner = greeterClass := by
    have hSame := (congrArg CallableId.owner hId).symm.trans hMember.owner_eq
    exact Option.some.inj hSame
  have hOwned := h.coherent.filed.owned_of_listed hListed
  rw [h.coherent.owned, hOwner] at hOwned
  exact h.class?_eq hOwned

/-- **Lowering succeeds**, with a body for each member that was found. -/
theorem lower_of_greeted (h : Greeted key log r)
    (hPartner : FirstResponsible r.extensions.bodies key (bodies key)) :
    ∃ p members, r.lower = .ok p ∧ Serves p key members ∧
      members.map CallableDecl.id = resolvedMembers log := by
  obtain ⟨returns, members, hGroups, hMembers, hIds⟩ := h.groups
  let view : Resolved := ⟨r.types, r.symbols⟩
  let p : Program :=
    { types := r.types
      symbols := r.symbols
      module :=
        { name := r.name
          bodies := members.map (memberBody view)
          classes := r.symbols.classes.map r.symbols.layoutOf } }
  have hFilled : List.Forall₂ (Resolver.Filled r.extensions.bodies view) members
      (members.map (memberBody view)) := by
    rw [List.forall₂_map_right_iff, List.forall₂_same]
    intro member hMember
    have hGroup : single member ∈ r.symbols.groups := by
      rw [hGroups]
      exact List.mem_map_of_mem (List.mem_cons_of_mem _ hMember)
    exact filled_member hPartner (h.class_of_member (hMembers member hMember) hGroup)
      (noArgConstructor?_eq hGroups) (hMembers member hMember)
  have hLowering : r.IsLowering p := {
    types := rfl
    symbols := rfl
    name := rfl
    bodies := by
      rw [generated_eq hGroups hMembers]
      exact hFilled
    layouts := rfl
    layout_ids := r.symbols.map_layoutOf_id
    layouts_nodup := r.symbols.map_layoutOf_id ▸ r.symbols.classes_nodup }
  exact ⟨p, members, Resolver.lower_eq_ok_iff.2 hLowering,
    ⟨⟨returns, hGroups⟩, hMembers, rfl, hLowering.class?_eq, h.coherent.root⟩, hIds⟩

/-- The body of a member is the one it was filled with, and there are no others. -/
theorem Serves.body?_eq_some_iff (h : Serves p key members) {id : CallableId} {b : Ir.Body} :
    p.module.body? id = some b ↔
      ∃ member ∈ members, member.id = id ∧ memberBody ⟨p.types, p.symbols⟩ member = b := by
  obtain ⟨returns, hGroups⟩ := h.groups
  have hNodup : (p.module.bodies.map Ir.Body.callable).Nodup := by
    rw [h.bodies, List.map_map]
    exact (List.map_congr_left fun member _ => memberBody_callable _ member).symm ▸
      members_nodup hGroups
  rw [Ir.Module.body?_eq_some_iff hNodup, h.bodies, List.mem_map]
  constructor
  · rintro ⟨⟨member, hMember, rfl⟩, hId⟩
    exact ⟨member, hMember, (memberBody_callable _ member).symm.trans hId, rfl⟩
  · rintro ⟨member, hMember, rfl, rfl⟩
    exact ⟨⟨member, hMember, rfl⟩, memberBody_callable _ member⟩

/-! ## Construction -/

variable {fuel : Nat} {m : Machine}

/-- The class declares no fields and inherits none. -/
theorem slots_eq {t : SymbolTable} (hClass : t.class? greeterClass = some (classDecl key)) :
    (t.layoutOf (classDecl key)).slots = #[] := by
  have hAlone : t.Above (classDecl key) [] := .top fun _ ⟨_, hSuper, _⟩ => nomatch hSuper
  have hMem := (SymbolTable.class?_eq_some_iff.1 hClass).1
  apply Array.toList_inj.1
  rw [SymbolTable.layoutOf_slots, SymbolTable.heldFields, SymbolTable.lineage_of_above hMem hAlone]
  rfl

theorem Serves.class?_eq (h : Serves p key members)
    (hClass : p.symbols.class? greeterClass = some (classDecl key)) :
    p.module.class? greeterClass = some (p.symbols.layoutOf (classDecl key)) := by
  rw [h.classes, hClass]
  rfl

/-- With its constructor, the class is constructed along a hierarchy of its own. -/
theorem Serves.hierarchy (h : Serves p key members)
    (hClass : p.symbols.class? greeterClass = some (classDecl key))
    (hFound : .constructorOf greeterClass ∈ members.map CallableDecl.id) :
    p.Hierarchy [classDecl key] := by
  obtain ⟨returns, hGroups⟩ := h.groups
  obtain ⟨member, hMember, hId⟩ := List.mem_map.1 hFound
  have hKind := (h.genuine member hMember).isConstructor_iff.2 hId
  have hBody : p.module.body? (.constructorOf greeterClass) =
      some (delegatingBody member (.constructorOf rootClass)) := by
    refine h.body?_eq_some_iff.2 ⟨member, hMember, hId, ?_⟩
    rw [memberBody, if_pos hKind]
  have hCode : (delegatingBody member (.constructorOf rootClass)).Delegates
      (.constructorOf rootClass) greeterClass := ⟨_, _, rfl, rfl, rfl, rfl⟩
  exact .extend ⟨hClass, (by decide : greeterClass ≠ rootClass),
    ⟨member, constructors_eq hGroups h.genuine hMember hId, hId⟩, _, hBody, hCode⟩ rfl .root

/-- Without it, the object is made and nothing runs. -/
theorem Serves.constructor_eq_none (h : Serves p key members)
    (hAbsent : .constructorOf greeterClass ∉ members.map CallableDecl.id) :
    (p.symbols.layoutOf (classDecl key)).constructor = none := by
  obtain ⟨returns, hGroups⟩ := h.groups
  have hNone : (p.symbols.membersOf greeterClass).filter CallableDecl.isConstructor = [] := by
    rw [membersOf_eq hGroups h.genuine, List.filter_eq_nil_iff]
    intro member hMember hKind
    have hId := (h.genuine member hMember).isConstructor_iff.1 hKind
    exact hAbsent (List.mem_map.2 ⟨member, hMember, hId⟩)
  rw [SymbolTable.layoutOf_constructor]
  show List.foldl _ none ((p.symbols.membersOf greeterClass).filter _) = none
  rw [hNone]
  rfl

/-- **The class can be constructed.**  Its constructor and that of the root class are entered if
the constructor was found. -/
theorem Serves.construct (h : Serves p key members)
    (hClass : p.symbols.class? greeterClass = some (classDecl key))
    (hDepth : m.depth + 1 < Machine.maxDepth) (hFuel : 1 < fuel) :
    ∃ m', p.construct fuel greeterClass m = some (.ok ⟨m.heap.size⟩, m') ∧
      m'.heap = m.heap.push ⟨greeterClass, #[]⟩ ∧ m'.depth = m.depth ∧
      m'.events.toList = m.events.toList ++
        if .constructorOf greeterClass ∈ members.map CallableDecl.id then
          [.constructorEntered (.constructorOf greeterClass),
            .constructorEntered (.constructorOf rootClass)]
        else [] := by
  have hSlots := slots_eq hClass
  by_cases hFound : .constructorOf greeterClass ∈ members.map CallableDecl.id
  · have hChain := h.hierarchy hClass hFound
    obtain ⟨m', values, hConstruct, hHeap, hBack, hEvents, hSize, _⟩ :=
      Program.construct_of_hierarchy h.classes h.root hChain hFuel hDepth
    have hValues : values = #[] := by
      rw [hSlots] at hSize
      exact Array.eq_empty_of_size_eq_zero hSize
    rw [hValues] at hHeap
    refine ⟨m', hConstruct, hHeap, hBack, ?_⟩
    rw [if_pos hFound, hEvents]
    simp [Program.entered, classDecl]
  · have hConstruct := Program.construct_eq fuel m (h.class?_eq hClass)
    rw [h.constructor_eq_none hFound] at hConstruct
    refine ⟨_, hConstruct, ?_, rfl, ?_⟩
    · rw [Program.withFresh, hSlots]
      rfl
    · rw [if_neg hFound, List.append_nil]
      rfl

/-! ## Calls -/

variable {ref : ObjectRef} {slots : Array Value} {id : ClassId} {name : Name}

/-- The methods with a body are the members. -/
theorem Serves.answers_iff (h : Serves p key members) :
    p.Answers name id ↔ .member id name ∈ members.map CallableDecl.id := by
  rw [Program.Answers, Option.isSome_iff_exists, List.mem_map]
  constructor
  · rintro ⟨b, hBody⟩
    obtain ⟨member, hMember, hId, _⟩ := h.body?_eq_some_iff.1 hBody
    exact ⟨member, hMember, hId⟩
  · rintro ⟨member, hMember, hId⟩
    exact ⟨_, h.body?_eq_some_iff.2 ⟨member, hMember, hId, rfl⟩⟩

/-- Each of them is found in its own class. -/
theorem Serves.findMethod_found (h : Serves p key members)
    (hFound : .member id name ∈ members.map CallableDecl.id) :
    p.findMethod id name = some (some (.member id name)) := by
  have hAnswers : p.Answers name id := h.answers_iff.2 hFound
  exact Program.findMethod_eq_some_iff.2 ⟨[], id, .here (.inl hAnswers), (if_pos hAnswers).symm⟩

/-- The root class has no methods. -/
theorem Serves.not_answers_root (h : Serves p key members) : ¬ p.Answers name rootClass := by
  intro hAnswers
  obtain ⟨member, hMember, hId⟩ := List.mem_map.1 (h.answers_iff.1 hAnswers)
  exact (h.genuine member hMember).owner_ne_root (congrArg CallableId.owner hId)

/-- The search for a method ends at the root class. -/
theorem Serves.climb_root (h : Serves p key members) :
    p.Climb (p.Settles name) rootClass [] rootClass := by
  refine .here (.inr ?_)
  rw [Program.Top, Program.parent?, h.classes, h.root]
  exact SymbolTable.layoutOf_parent _ rootDecl

theorem Serves.findMethod_root (h : Serves p key members) :
    p.findMethod rootClass name = some none :=
  Program.findMethod_eq_some_iff.2
    ⟨[], rootClass, h.climb_root, (if_neg h.not_answers_root).symm⟩

/-- A method without a body is found neither in the greeter's class nor above it. -/
theorem Serves.findMethod_absent (h : Serves p key members)
    (hClass : p.symbols.class? greeterClass = some (classDecl key))
    (hAbsent : .member greeterClass name ∉ members.map CallableDecl.id) :
    p.findMethod greeterClass name = some none := by
  have hUnder : p.Under greeterClass rootClass := by
    rw [Program.Under, Program.parent?, h.class?_eq hClass]
    exact SymbolTable.layoutOf_parent _ (classDecl key)
  have hGoesOn : ¬ p.Settles name greeterClass := by
    rintro (hAnswers | hTop)
    · exact hAbsent (h.answers_iff.1 hAnswers)
    · exact hUnder.not_top hTop
  exact Program.findMethod_eq_some_iff.2 ⟨[greeterClass], rootClass,
    .up hGoesOn hUnder h.climb_root, (if_neg h.not_answers_root).symm⟩

/-- The function answers the greeting. -/
theorem Serves.call_found (h : Serves p key members)
    (hFound : .member greeterClass functionName ∈ members.map CallableDecl.id)
    (hObject : m.heap[ref.index]? = some ⟨greeterClass, slots⟩)
    (hDepth : m.depth < Machine.maxDepth) (hFuel : 1 < fuel) :
    p.call fuel ref functionName [] m = some (.ok (.string greeting), m) := by
  obtain ⟨member, hMember, hId⟩ := List.mem_map.1 hFound
  have hKind : ¬ member.isConstructor = true := by
    rw [(h.genuine member hMember).isConstructor_iff, hId]
    intro hEq
    exact absurd (congrArg CallableId.name hEq) (by decide)
  have hBody : p.module.body? (.member greeterClass functionName) =
      some (greetingBody member ⟨p.types, p.symbols⟩) := by
    refine h.body?_eq_some_iff.2 ⟨member, hMember, hId, ?_⟩
    rw [memberBody, if_neg hKind]
  obtain ⟨fuel, rfl⟩ : ∃ less, fuel = less + 2 := ⟨fuel - 2, by omega⟩
  rw [Program.call_eq _ hObject, h.findMethod_found hFound]
  show p.invoke (fuel + 2) (.member greeterClass functionName) [.object ref] m = _
  rw [Program.invoke_eq_nested hDepth rfl rfl hBody rfl]
  exact Eval.nested_eq_some_iff.2 ⟨{ m with depth := m.depth + 1 }, rfl, rfl⟩

/-- A method that is no member has no body to be found, in the class or above it. -/
theorem Serves.call_absent (h : Serves p key members)
    (hClass : p.symbols.class? greeterClass = some (classDecl key))
    (hAbsent : .member greeterClass name ∉ members.map CallableDecl.id)
    (hObject : m.heap[ref.index]? = some ⟨greeterClass, slots⟩) :
    p.call fuel ref name [] m = some (.error (.noBody (.member greeterClass name)), m) := by
  rw [Program.call_eq _ hObject, h.findMethod_absent hClass hAbsent]

end Program

/-! ## The halves meet -/

/-- **The halves meet.**  Install halves of any pairs in any order, so that the first half that
declares has its partner among them.  Then lowering succeeds after any calls to the resolver, and
whatever questions have led there, there is one body for each member of the greeter's class that
was found, in the order in which they were first found, and these members carry the key of the
first half that declares.  Once the class was found, it can be constructed, which enters its
constructor and that of the root class if the constructor was found; and the function answers
`Hello world` if it was found, and has no body otherwise. -/
theorem halves_meet {module : String} {halves : List Half} {key : Key}
    (hFirst : (halves.filterMap Half.declaringKey?).head? = some key)
    (hPartner : Half.filling key ∈ halves) {r : Resolver}
    (hReachable : Resolver.Reachable module (install halves) r) :
    ∃ p, r.lower = .ok p ∧ (∃ log, Resolver.Trace (.start module (install halves)) log r) ∧
      ∀ log, Resolver.Trace (.start module (install halves)) log r →
        p.module.bodies.map Ir.Body.callable = resolvedMembers log ∧
        r.symbols.generated.map CallableDecl.id = resolvedMembers log ∧
        (∀ member ∈ r.symbols.generated, member.origin = .generated key) ∧
        (.classLike greeterClass ∈ log → ∀ (m : Machine) (fuel : Nat), m.depth = 0 →
          Machine.maxDepth < fuel →
          ∃ m', p.construct fuel greeterClass m = some (.ok ⟨m.heap.size⟩, m') ∧
            m'.events.toList = m.events.toList ++
              (if .callable (.constructorOf greeterClass) ∈ log then
                [.constructorEntered (.constructorOf greeterClass),
                  .constructorEntered (.constructorOf rootClass)]
              else []) ∧
            p.call fuel ⟨m.heap.size⟩ functionName [] m' =
              some (if .callable (.member greeterClass functionName) ∈ log then
                .ok (.string "Hello world")
              else .error (.noBody (.member greeterClass functionName)), m')) := by
  have hExtensions : r.extensions = install halves := hReachable.extensions_eq
  obtain ⟨others, hKeys⟩ := List.head?_eq_some_iff.1 hFirst
  have hProviders : (install halves).declarations = (key :: others).map declarations := by
    rw [install_eq, hKeys]
  have hKey : key ∈ halves.filterMap Half.fillingKey? :=
    List.mem_filterMap.2 ⟨.filling key, hPartner, rfl⟩
  have hResponsible : FirstResponsible r.extensions.bodies key (bodies key) := by
    rw [hExtensions, install_eq]
    exact firstResponsible_bodies hKey
  obtain ⟨first, hTraced⟩ := Resolver.exists_trace_of_reachable hReachable
  obtain ⟨p, _, hLower, _⟩ := lower_of_greeted (greeted_of_trace hProviders hTraced) hResponsible
  refine ⟨p, hLower, ⟨first, hTraced⟩, fun log hTrace => ?_⟩
  have h : Greeted key log r := greeted_of_trace hProviders hTrace
  obtain ⟨_, members, hLower', hServes, hIds⟩ := lower_of_greeted h hResponsible
  cases hLower.symm.trans hLower'
  have hSymbols : p.symbols = r.symbols := (Resolver.lower_eq_ok_iff.1 hLower).symbols
  obtain ⟨returns, hGroups⟩ := hServes.groups
  have hGenerated : r.symbols.generated = members := by
    rw [← hSymbols]
    exact generated_eq hGroups hServes.genuine
  rw [hGenerated, ← hIds]
  refine ⟨?_, rfl, fun member hMember => (hServes.genuine member hMember).origin_eq, ?_⟩
  · rw [hServes.bodies, List.map_map]
    exact List.map_congr_left fun member _ => memberBody_callable _ member
  · intro hResolved m fuel hBetween hFuel
    have hClass : p.symbols.class? greeterClass = some (classDecl key) := by
      rw [hSymbols]
      exact h.class?_eq (h.known.2 hResolved)
    have hMax : Machine.maxDepth = 256 := rfl
    obtain ⟨m', hConstruct, hHeap, hBack, hEvents⟩ :=
      hServes.construct (m := m) hClass (by omega) (show 1 < fuel by omega)
    have hInit : .constructorOf greeterClass ∈ members.map CallableDecl.id ↔
        .callable (.constructorOf greeterClass) ∈ log := by
      rw [hIds]
      exact mem_resolvedMembers
    simp only [hInit] at hEvents
    refine ⟨m', hConstruct, hEvents, ?_⟩
    have hObject : m'.heap[(⟨m.heap.size⟩ : ObjectRef).index]? = some ⟨greeterClass, #[]⟩ := by
      rw [hHeap]
      exact Array.getElem?_push_size
    by_cases hFound : .callable (.member greeterClass functionName) ∈ log
    · rw [if_pos hFound]
      refine hServes.call_found ?_ hObject (by omega) (by omega)
      rw [hIds]
      exact mem_resolvedMembers.2 hFound
    · rw [if_neg hFound]
      refine hServes.call_absent hClass ?_ hObject
      rw [hIds]
      exact mt mem_resolvedMembers.1 hFound

/-- Halves of two pairs, the first to declare being the last to fill.  The class is found and its
constructor; as long as the function is not asked for, it has no body, and once it is found, it
answers. -/
theorem crossed_halves :
    let first : Key := ⟨0, keyLabel⟩
    let second : Key := ⟨1, keyLabel⟩
    let halves : List Half := [.filling second, .declaring first, .declaring second, .filling first]
    let asked := ((Resolver.start "main" (install halves)).resolveClass greeterClass).2
    let made := (asked.resolveMember greeterClass .init).2
    let whole := (made.resolveMember greeterClass ⟨"foo"⟩).2
    greeterClass.text = "foo.bar.MyClass" ∧
      (halves.filterMap Half.declaringKey?).head? = some first ∧ Half.filling first ∈ halves ∧
      Resolver.Reachable "main" (install halves) made ∧
      Resolver.Reachable "main" (install halves) whole ∧
      (∃ p, made.lower = .ok p ∧
        p.module.bodies.map Ir.Body.callable = [.constructorOf greeterClass] ∧
        (∀ member ∈ made.symbols.generated, member.origin = .generated first) ∧
        ∃ m', p.construct 1000 greeterClass Machine.start = some (.ok ⟨0⟩, m') ∧
          m'.events.toList = [.constructorEntered (.constructorOf greeterClass),
            .constructorEntered (.constructorOf rootClass)] ∧
          p.call 1000 ⟨0⟩ ⟨"foo"⟩ [] m' =
            some (.error (.noBody (.member greeterClass ⟨"foo"⟩)), m')) ∧
      ∃ p, whole.lower = .ok p ∧
        p.module.bodies.map Ir.Body.callable =
          [.constructorOf greeterClass, .member greeterClass ⟨"foo"⟩] ∧
        (∀ member ∈ whole.symbols.generated, member.origin = .generated first) ∧
        ∃ m', p.construct 1000 greeterClass Machine.start = some (.ok ⟨0⟩, m') ∧
          p.call 1000 ⟨0⟩ ⟨"foo"⟩ [] m' = some (.ok (.string "Hello world"), m') := by
  intro first second halves asked made whole
  have hFirst : (halves.filterMap Half.declaringKey?).head? = some first := rfl
  have hPartner : Half.filling first ∈ halves := by decide
  have hMade : Resolver.Reachable "main" (install halves) made :=
    .tail (.single (.resolveClass greeterClass)) (.resolveMember greeterClass .init)
  have hWhole : Resolver.Reachable "main" (install halves) whole :=
    .tail hMade (.resolveMember greeterClass functionName)
  have hMadeTrace : Resolver.Trace (.start "main" (install halves))
      [.classLike greeterClass, .callable (.constructorOf greeterClass)] made :=
    .foundMember (.foundClass .nil (Prod.ext rfl rfl)) (Prod.ext rfl rfl)
  have hWholeTrace : Resolver.Trace (.start "main" (install halves))
      [.classLike greeterClass, .callable (.constructorOf greeterClass),
        .callable (.member greeterClass functionName)] whole :=
    .foundMember hMadeTrace (Prod.ext rfl rfl)
  refine ⟨by decide, hFirst, hPartner, hMade, hWhole, ?made, ?whole⟩
  case made =>
    obtain ⟨p, hLower, _, hProgram⟩ := halves_meet hFirst hPartner hMade
    obtain ⟨hBodies, _, hOrigins, hRuns⟩ := hProgram _ hMadeTrace
    obtain ⟨m', hConstruct, hEvents, hCall⟩ :=
      hRuns (by decide) Machine.start 1000 rfl (by decide)
    exact ⟨p, hLower, hBodies, hOrigins, m', hConstruct, hEvents, hCall⟩
  case whole =>
    obtain ⟨p, hLower, _, hProgram⟩ := halves_meet hFirst hPartner hWhole
    obtain ⟨hBodies, _, hOrigins, hRuns⟩ := hProgram _ hWholeTrace
    obtain ⟨m', hConstruct, _, hCall⟩ :=
      hRuns (by decide) Machine.start 1000 rfl (by decide)
    exact ⟨p, hLower, hBodies, hOrigins, m', hConstruct, hCall⟩

end TwoPhase.Greeter
