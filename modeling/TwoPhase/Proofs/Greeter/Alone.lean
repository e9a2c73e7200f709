import TwoPhase.Proofs.Greeter.Halves

/-!
# The greeter alone

A compilation in which one pair of halves is installed and nothing else.  Resolving everything needs
one step, since the pair advertises one class and that class names no superclass.  Afterwards there
are two classes, the root class and the greeter's, and the latter has both its members.

## Strategy

`Alone` adds to `Serves` that nothing is missing and that there is nothing else.  It follows from
what is known of the questions inside a resolution of everything: the class is complete, so its
members were found, and no provider declares another class.  Then every construction and every call
of a method without arguments has its outcome read off the members.

## Main results

* `exists_alone` — resolving and lowering succeed.
* `Alone.construct_unknown`, `Serves.construct_root` — constructions of other classes.
* `Alone.call_constructor`, `Alone.call_other`, `Serves.call_root` — calls of other methods.
-/

namespace TwoPhase.Greeter

variable {key : Key} {id : ClassId} {name : Name}

/-- The program of one greeter: the root class, the greeter's class with both its members, and
nothing else. -/
structure Alone (p : Program) (key : Key) (members : List CallableDecl) : Prop
    extends Serves p key members where
  found : ∀ name, .member greeterClass name ∈ members.map CallableDecl.id ↔
    name = .init ∨ name = functionName
  declared : p.symbols.class? greeterClass = some (classDecl key)
  others : ∀ id, id ≠ rootClass → id ≠ greeterClass → p.symbols.class? id = none

/-! ## Resolving and lowering -/

section Resolving

variable {log : List Descriptor} {r : Resolver}

/-- A class in the table is one of the two. -/
theorem Greeted.class_cases (h : Greeted key log r) {decl : ClassDecl}
    (hClass : r.symbols.class? id = some decl) : id = rootClass ∨ id = greeterClass := by
  rcases h.coherent.exists_source hClass with hRoot | ⟨index, p, types, hFirst, _⟩
  · exact .inl hRoot
  · exact .inr (h.first hFirst).1

/-- The first greeter owns the class. -/
theorem Greeted.owner?_eq (h : Greeted key log r)
    (hClass : r.symbols.class? greeterClass = some (classDecl key)) :
    r.owner? greeterClass = some (.provider 0) := by
  obtain ⟨source, hSource⟩ := h.coherent.filed.exists_owner (by rw [hClass]; rfl)
  cases source with
  | host =>
      have hRoot : greeterClass = rootClass := (h.coherent.host greeterClass).1 hSource
      exact absurd hRoot (by decide)
  | provider index =>
      obtain ⟨p, types, decl, hFirst, _⟩ := h.coherent.provided hSource
      rw [hSource, (h.first hFirst).2.1]

/-- So it lists both members. -/
theorem Greeted.listed (h : Greeted key log r)
    (hClass : r.symbols.class? greeterClass = some (classDecl key))
    (hName : name = .init ∨ name = functionName) : r.Listed greeterClass name := by
  obtain ⟨others, hProviders⟩ := h.providers
  have hFirst : r.extensions.declarations[0]? = some (declarations key) := by
    rw [hProviders]
    rfl
  exact .provider (h.owner?_eq hClass) hFirst hClass (mem_memberNames_iff.2 hName)

theorem Member.name_cases {member : CallableDecl} (h : Member key member)
    (hId : member.id = .member greeterClass name) : name = .init ∨ name = functionName := by
  cases h with
  | constructor => exact .inl (CallableId.member_inj.1 hId).2.symm
  | function => exact .inr (CallableId.member_inj.1 hId).2.symm

end Resolving

/-- Resolving everything comes to an end after one class. -/
theorem resolveAll_pair (module : String) (key : Key) {steps : Nat} (hSteps : 0 < steps) :
    ∃ r log, (Resolver.start module (pair key)).resolveAll steps = some (.ok (), r) ∧
      Greeted key log r ∧ r.Complete greeterClass := by
  let first := Resolver.start module (pair key)
  have hProviders : (pair key).declarations = (key :: []).map declarations := rfl
  have hFirst : Greeted key [] first := greeted_of_trace hProviders .nil
  obtain ⟨decl, r, hWhole, hClass, hComplete⟩ :=
    Resolver.resolveWhole_of_known hFirst.faithful hFirst.coherent hFirst.knows
  obtain ⟨log, hTrace⟩ := Resolver.exists_trace (Resolver.steps_of_resolveWhole hWhole)
  have hLast : Greeted key log r := greeted_of_trace hProviders hTrace
  have hStack : (Order.sortDistinct first.advertised).reverse = [greeterClass] := rfl
  refine ⟨r, log, ?_, hLast, hComplete⟩
  obtain ⟨steps, rfl⟩ : ∃ less, steps = less + 1 := ⟨steps - 1, by omega⟩
  rw [Resolver.resolveAll, hStack, Resolver.resolveStack, if_neg List.not_mem_nil, hWhole,
    hLast.class_eq hClass]
  -- the class names no superclass, so nothing is left on the stack
  show Resolver.resolveStack steps r [] [greeterClass] = some (.ok (), r)
  rw [Resolver.resolveStack]

/-- **Resolving and lowering succeed** where a greeter is alone. -/
theorem exists_alone (module : String) (key : Key) {steps : Nat} (hSteps : 0 < steps) :
    ∃ r p members, (Resolver.start module (pair key)).resolveAll steps = some (.ok (), r) ∧
      r.lower = .ok p ∧ Alone p key members := by
  obtain ⟨r, log, hRun, h, hComplete⟩ := resolveAll_pair module key hSteps
  have hExtensions : r.extensions = pair key := (Resolver.steps_of_resolveAll hRun).grows.extensions
  have hPartner : BodyProvider.FirstResponsible r.extensions.bodies key (bodies key) := by
    rw [hExtensions]
    exact firstResponsible_bodies (List.mem_singleton_self key)
  obtain ⟨p, members, hLower, hServes, hIds⟩ := lower_of_greeted h hPartner
  have hSymbols : p.symbols = r.symbols := (Resolver.lower_eq_ok_iff.1 hLower).symbols
  have hClass := h.class?_eq hComplete.1
  refine ⟨r, p, members, hRun, hLower, { hServes with found := ?_, declared := ?_, others := ?_ }⟩
  · intro name
    constructor
    · intro hMem
      obtain ⟨member, hMember, hId⟩ := List.mem_map.1 hMem
      exact (hServes.genuine member hMember).name_cases hId
    · intro hName
      rw [hIds, ← h.hasCallables_iff]
      exact hComplete.2 name (h.listed hClass hName)
  · rw [hSymbols]
    exact hClass
  · intro id hRoot hGreeter
    rw [hSymbols]
    refine Option.eq_none_iff_forall_ne_some.2 fun decl hDecl => ?_
    rcases h.class_cases hDecl with hEq | hEq
    · exact hRoot hEq
    · exact hGreeter hEq

/-! ## Running the program -/

section Running

variable {p : Program} {members : List CallableDecl} {fuel : Nat} {m : Machine} {ref : ObjectRef}
  {slots : Array Value}

/-- There is no class but the two. -/
theorem Alone.construct_unknown (h : Alone p key members) (hRoot : id ≠ rootClass)
    (hGreeter : id ≠ greeterClass) :
    p.construct fuel id m = some (.error (.unknownClass id), m) := by
  have hLayout : p.layout id m = some (.error (.unknownClass id), m) := by
    rw [Program.layout, h.classes, h.others id hRoot hGreeter]
    rfl
  exact Eval.bind_of_error hLayout

/-- The root class can be constructed like any other. -/
theorem Serves.construct_root (h : Serves p key members) (hDepth : m.depth < Machine.maxDepth)
    (hFuel : 0 < fuel) :
    ∃ m' slots, p.construct fuel rootClass m = some (.ok ⟨m.heap.size⟩, m') ∧
      m'.heap = m.heap.push ⟨rootClass, slots⟩ := by
  obtain ⟨returns, hGroups⟩ := h.groups
  have hLayout : p.module.class? rootClass = some (p.symbols.layoutOf rootDecl) := by
    rw [h.classes, h.root]
    rfl
  have hConstructor : (p.symbols.layoutOf rootDecl).constructor =
      some (.constructorOf rootClass) := by
    rw [SymbolTable.layoutOf_constructor]
    show List.foldl _ none ((p.symbols.membersOf rootClass).filter _) = _
    rw [membersOf_root hGroups h.genuine]
    rfl
  obtain ⟨fuel, rfl⟩ : ∃ less, fuel = less + 1 := ⟨fuel - 1, by omega⟩
  let fresh : Machine := Program.withFresh m (p.symbols.layoutOf rootDecl) rootClass
  have hDepth' : fresh.depth < Machine.maxDepth := hDepth
  have hRun : p.construct (fuel + 1) rootClass m = some (.ok ⟨m.heap.size⟩,
      { fresh with
        events := fresh.events.push (.constructorEntered (.constructorOf rootClass)) }) := by
    rw [Program.construct_eq_invoke hLayout hConstructor,
      Eval.bind_of_ok (Program.invoke_root _ hDepth')]
    rfl
  exact ⟨_, _, hRun, rfl⟩

/-- But its objects have no methods. -/
theorem Serves.call_root (h : Serves p key members)
    (hObject : m.heap[ref.index]? = some ⟨rootClass, slots⟩) :
    p.call fuel ref name [] m = some (.error (.noBody (.member rootClass name)), m) := by
  rw [Program.call_eq _ hObject, h.findMethod_root]

/-- A constructor can be called like a method.  It answers nothing. -/
theorem Alone.call_constructor (h : Alone p key members)
    (hObject : m.heap[ref.index]? = some ⟨greeterClass, #[]⟩)
    (hDepth : m.depth + 1 < Machine.maxDepth) (hFuel : 1 < fuel) :
    ∃ m', p.call fuel ref .init [] m = some (.ok .null, m') := by
  have hFound : .constructorOf greeterClass ∈ members.map CallableDecl.id :=
    (h.found .init).2 (.inl rfl)
  have hKnown : ∀ decl ∈ [classDecl key], (p.module.class? decl.id).isSome = true := by
    intro decl hDecl
    rw [List.mem_singleton.1 hDecl]
    show (p.module.class? greeterClass).isSome = true
    rw [h.class?_eq h.declared]
    rfl
  have hSize : (#[] : Array Value).size = (p.symbols.layoutOf (classDecl key)).slots.size := by
    rw [slots_eq h.declared]
    rfl
  obtain ⟨m', hRun, _⟩ := Program.invoke_of_hierarchy (h.hierarchy h.declared hFound) hKnown
    (h.class?_eq h.declared) (SymbolTable.numbered_layoutOf p.symbols (classDecl key)) hSize
    hFuel hDepth hObject
  refine ⟨m', ?_⟩
  rw [Program.call_eq _ hObject, h.findMethod_found hFound]
  exact hRun

/-- There is no method but the two. -/
theorem Alone.call_other (h : Alone p key members) (hInit : name ≠ .init)
    (hFunction : name ≠ functionName)
    (hObject : m.heap[ref.index]? = some ⟨greeterClass, slots⟩) :
    p.call fuel ref name [] m = some (.error (.noBody (.member greeterClass name)), m) := by
  refine h.call_absent h.declared ?_ hObject
  rw [h.found]
  exact not_or_intro hInit hFunction

end Running

end TwoPhase.Greeter
