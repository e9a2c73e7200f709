import TwoPhase.Proofs.Machine.Construction
import TwoPhase.Proofs.Machine.Moment

/-!
# Constructors with overloads

The overloads of a constructor share one identifier, and it is all that a layout and a call know of
them.  A program holds a body for every overload; which of them is run is decided by a lookup that
is not told how many arguments there are.

## Strategy

Bodies stand in the order of the callables that they were made for, and the last one with an
identifier is the one that is found (`exists_body_of_last`).  The layout of a class names the
identifier that its constructors share (`layoutOf_constructor_eq`).  Together they say what a call
without arguments comes to (`invoke_eq_bareCall`): it runs the body of the last overload if that
one takes no arguments, and fails for their number otherwise.

## Main results

* `construct_runs_last_overload` — constructions and delegations run the last overload.
-/

namespace TwoPhase

open Ir (Body Register)

/-- The last generated callable with an identifier. -/
structure SymbolTable.LastOverload (t : SymbolTable) (id : CallableId) (last : CallableDecl) :
    Prop where
  id_eq : last.id = id
  split : ∃ before after, t.generated = before ++ last :: after ∧ ∀ other ∈ after, other.id ≠ id

namespace Resolver

/-- Of bodies that were made for a list of callables, the one is found that belongs to the last
callable with the identifier. -/
theorem exists_find?_of_last {providers : List BodyProvider} {view : Resolved} {id : CallableId}
    {last : CallableDecl} {after : List CallableDecl} (hId : last.id = id)
    (hAfter : ∀ other ∈ after, other.id ≠ id) :
    ∀ (before : List CallableDecl) {bodies : List Body},
      List.Forall₂ (Filled providers view) (before ++ last :: after) bodies →
      ∃ body, Filled providers view last body ∧
        bodies.reverse.find? (·.callable == id) = some body := by
  intro before
  induction before with
  | nil =>
      intro bodies hBodies
      obtain ⟨body, rest, hBody, hRest, rfl⟩ := List.forall₂_cons_left_iff.1 hBodies
      refine ⟨body, hBody, ?_⟩
      have hNone : rest.reverse.find? (·.callable == id) = none := by
        rw [List.find?_eq_none]
        intro other hOther
        have hBoth := (List.forall₂_and_left _ _).2 ⟨hAfter, hRest⟩
        obtain ⟨callable, hNe, hFilled⟩ :=
          exists_forall₂_iff.1 ⟨_, hBoth.flip⟩ other (List.mem_reverse.1 hOther)
        rw [← hFilled.meant] at hNe
        simpa using hNe
      rw [List.reverse_cons, List.find?_append, hNone]
      simp [hBody.meant, hId]
  | cons first before ih =>
      intro bodies hBodies
      obtain ⟨other, rest, _, hRest, rfl⟩ := List.forall₂_cons_left_iff.1 hBodies
      obtain ⟨body, hBody, hFound⟩ := ih hRest
      refine ⟨body, hBody, ?_⟩
      rw [List.reverse_cons, List.find?_append, hFound]
      rfl

/-- The body that is found is the one that was made for the last overload. -/
theorem exists_body_of_last {r : Resolver} {p : Program} {id : CallableId} {last : CallableDecl}
    (h : r.IsLowering p) (hLast : r.symbols.LastOverload id last) :
    ∃ body, Filled r.extensions.bodies ⟨r.types, r.symbols⟩ last body ∧
      p.module.body? id = some body := by
  obtain ⟨hId, before, after, hSplit, hAfter⟩ := hLast
  have hBodies := h.bodies
  rw [hSplit] at hBodies
  simp only [Ir.Module.body?_eq_find?]
  exact exists_find?_of_last hId hAfter before hBodies

end Resolver

namespace SymbolTable

variable {t : SymbolTable} {id : ClassId} {last : CallableDecl}

/-- The constructors of a class are its members with the reserved name. -/
def NamesConstructors (t : SymbolTable) (id : ClassId) : Prop :=
  ∀ member ∈ t.membersOf id, member.isConstructor = true ↔ member.id = .constructorOf id

theorem LastOverload.mem_generated {callable : CallableId} (h : t.LastOverload callable last) :
    last ∈ t.generated := by
  obtain ⟨_, before, after, hSplit, _⟩ := h
  simp [hSplit]

theorem LastOverload.mem_membersOf (h : t.LastOverload (.constructorOf id) last) :
    last ∈ t.membersOf id := by
  have hAll : last ∈ t.allCallables := (List.mem_filter.1 h.mem_generated).1
  refine List.mem_filter.2 ⟨hAll, ?_⟩
  simp [h.id_eq, CallableId.constructorOf, CallableId.member]

/-- Members that share their identifier leave this identifier behind. -/
theorem foldl_some_id {callable : CallableId} :
    ∀ (members : List CallableDecl), (∀ member ∈ members, member.id = callable) →
      members ≠ [] → ∀ before : Option CallableId,
      members.foldl (fun _ member => some member.id) before = some callable := by
  intro members
  induction members with
  | nil => exact fun _ hNonempty => absurd rfl hNonempty
  | cons member rest ih =>
      intro hAll _ before
      obtain ⟨hFirst, hRest⟩ := List.forall_mem_cons.1 hAll
      rw [List.foldl_cons, hFirst]
      by_cases hEnd : rest = []
      · rw [hEnd]
        rfl
      · exact ih hRest hEnd _

/-- The layout of a class names the identifier that its constructors share. -/
theorem layoutOf_constructor_eq (h : t.LastOverload (.constructorOf id) last)
    (hNames : t.NamesConstructors id) {decl : ClassDecl} (hDecl : decl.id = id) :
    (t.layoutOf decl).constructor = some (.constructorOf id) := by
  rw [layoutOf_constructor, hDecl]
  refine foldl_some_id _ ?_ ?_ none
  · intro member hMember
    obtain ⟨hMember, hKind⟩ := List.mem_filter.1 hMember
    exact (hNames member hMember).1 hKind
  · have hMember := h.mem_membersOf
    exact List.ne_nil_of_mem
      (List.mem_filter.2 ⟨hMember, (hNames last hMember).2 h.id_eq⟩)

end SymbolTable

namespace Program

variable {p : Program} {r : Resolver} {id : ClassId} {last : CallableDecl} {fuel : Nat}
  {m : Machine}

/-- What a call of a constructor without arguments comes to, if the last overload is this one and
has this body. -/
def bareCall (p : Program) (fuel : Nat) (last : CallableDecl) (body : Body) (ref : ObjectRef) :
    Eval Value := do
  Eval.record (.constructorEntered last.id)
  if last.params.isEmpty then
    Eval.nested (p.runFrom (p.invoke fuel) body fuel body.entry (.enter body [.object ref]))
  else Eval.fail (.typeError (.argumentCount last.id (last.params.length + 1) 1))

/-- It fails if the last overload takes arguments, after it was seen to be entered. -/
theorem bareCall_eq_error (p : Program) (fuel : Nat) (body : Body) (ref : ObjectRef) (m : Machine)
    (h : last.params ≠ []) :
    p.bareCall fuel last body ref m =
      some (.error (.typeError (.argumentCount last.id (last.params.length + 1) 1)),
        { m with events := m.events.push (.constructorEntered last.id) }) := by
  have hRecord : Eval.record (.constructorEntered last.id) m = some (.ok (),
      { m with events := m.events.push (.constructorEntered last.id) }) := rfl
  rw [bareCall, Eval.bind_of_ok hRecord, if_neg (by simpa using h)]
  rfl

/-- A call without arguments, made with the receiver alone. -/
theorem invoke_eq_bareCall {body : Body} {ref : ObjectRef} (hRoot : id ≠ rootClass)
    (hId : last.id = .constructorOf id) (hCallable : body.callable = last.id)
    (hBody : p.module.body? (.constructorOf id) = some body)
    (hParams : body.params.length = last.params.length + 1) (hDepth : m.depth < Machine.maxDepth) :
    p.invoke (fuel + 1) (.constructorOf id) [.object ref] m = p.bareCall fuel last body ref m := by
  have hOwn : isRootConstructor (.constructorOf id) = false := by
    simp [isRootConstructor, CallableId.constructorOf, CallableId.member, hRoot]
  have hAnnounce : announce (.constructorOf id) m = some (.ok (),
      { m with events := m.events.push (.constructorEntered (.constructorOf id)) }) := rfl
  have hRecord : Eval.record (.constructorEntered last.id) m = some (.ok (),
      { m with events := m.events.push (.constructorEntered (.constructorOf id)) }) := by
    rw [hId]
    rfl
  rw [bareCall, Eval.bind_of_ok hRecord]
  cases hEmpty : last.params.isEmpty with
  | true =>
      have hCount : [Value.object ref].length = body.params.length := by
        rw [hParams, List.isEmpty_iff.1 hEmpty]
        rfl
      rw [invoke_eq_nested hDepth hAnnounce hOwn hBody hCount]
      rfl
  | false =>
      have hCount : [Value.object ref].length ≠ body.params.length := by
        have hSome := List.length_pos_iff.2 (List.isEmpty_eq_false_iff.1 hEmpty)
        rw [hParams, List.length_singleton]
        omega
      rw [invoke_eq_runBody hDepth hAnnounce hOwn hBody, runBody, if_pos hCount, hCallable, hParams]
      rfl

/-- **Constructions run the last overload.**  In a lowered program whose constructors take the
receiver and the parameters of their declarations, a class other than the root class is constructed
by the last of its generated constructors, whichever of them takes no arguments.  If the last one
takes none, its body is run; if it takes some, the construction fails for the number of arguments.
The same goes for delegations without arguments. -/
theorem construct_runs_last_overload (hLower : r.lower = .ok p) (hRoot : id ≠ rootClass)
    (hClass : (r.symbols.class? id).isSome = true) (hNames : r.symbols.NamesConstructors id)
    (hParams : ∀ callable ∈ r.symbols.generated, callable.isConstructor = true →
      ∀ body, Resolver.Filled r.extensions.bodies ⟨r.types, r.symbols⟩ callable body →
        body.params.length = callable.params.length + 1)
    (hLast : r.symbols.LastOverload (.constructorOf id) last) :
    ∃ body layout, Resolver.Filled r.extensions.bodies ⟨r.types, r.symbols⟩ last body ∧
      p.module.class? id = some layout ∧
      (∀ fuel m, m.depth < Machine.maxDepth → p.construct (fuel + 1) id m =
        (p.bareCall fuel last body ⟨m.heap.size⟩ >>= fun _ => (pure ⟨m.heap.size⟩ : Eval ObjectRef))
          (withFresh m layout id)) ∧
      (last.params ≠ [] → ∀ fuel m, m.depth < Machine.maxDepth →
        ∃ m', p.construct (fuel + 1) id m = some (.error (.typeError
          (.argumentCount (.constructorOf id) (last.params.length + 1) 1)), m')) ∧
      ∀ fuel m frame this ref, m.depth < Machine.maxDepth → frame.readObject this = .ok ref →
        p.step (p.invoke (fuel + 1)) frame (.delegate this (.constructorOf id) []) m =
          (p.bareCall fuel last body ref >>= fun _ => (pure frame : Eval Frame)) m := by
  have hLowering := Resolver.lower_eq_ok_iff.1 hLower
  obtain ⟨decl, hDecl⟩ := Option.isSome_iff_exists.1 hClass
  obtain ⟨body, hFilled, hBody⟩ := Resolver.exists_body_of_last hLowering hLast
  have hKind : last.isConstructor = true := (hNames last hLast.mem_membersOf).2 hLast.id_eq
  have hCount := hParams last hLast.mem_generated hKind body hFilled
  have hLayout : p.module.class? id = some (r.symbols.layoutOf decl) := by
    rw [hLowering.class?_eq, hDecl]
    rfl
  have hConstructor :=
    SymbolTable.layoutOf_constructor_eq hLast hNames (SymbolTable.id_of_class? hDecl)
  have hCall : ∀ {fuel ref m}, m.depth < Machine.maxDepth →
      p.invoke (fuel + 1) (.constructorOf id) [.object ref] m = p.bareCall fuel last body ref m :=
    invoke_eq_bareCall hRoot hLast.id_eq hFilled.meant hBody hCount
  have hConstruct : ∀ fuel m, m.depth < Machine.maxDepth → p.construct (fuel + 1) id m =
      (p.bareCall fuel last body ⟨m.heap.size⟩ >>= fun _ => (pure ⟨m.heap.size⟩ : Eval ObjectRef))
        (withFresh m (r.symbols.layoutOf decl) id) := by
    intro fuel m hDepth
    rw [construct_eq_invoke hLayout hConstructor]
    exact Eval.bind_eq_bind (hCall hDepth)
  refine ⟨body, r.symbols.layoutOf decl, hFilled, hLayout, hConstruct, ?_, ?_⟩
  · intro hSome fuel m hDepth
    have hFails := p.bareCall_eq_error fuel body ⟨m.heap.size⟩
      (withFresh m (r.symbols.layoutOf decl) id) hSome
    rw [hLast.id_eq] at hFails
    exact ⟨_, (hConstruct fuel m hDepth).trans (Eval.bind_of_error hFails)⟩
  · intro fuel m frame this ref hDepth hThis
    rw [step_delegate _ hThis rfl]
    exact Eval.bind_eq_bind (hCall hDepth)

end Program

/-! ## A sample -/

namespace Catalogue

namespace Boxes

/-- The key of the sample. -/
def key : Key := ⟨0, "boxes"⟩

/-- The class of the sample. -/
def box : ClassId := ⟨⟨[⟨"boxes"⟩]⟩, ⟨"Box"⟩⟩

/-- A single parameter. -/
def unary : List Typed := [⟨[⟨"content"⟩], .named (.primitive .number)⟩]

/-- A constructor with the given parameters. -/
def constructor (params : List Typed) : MemberEntry :=
  ⟨box, .init, none, .constructor, params, .named (.classLike box), .generated key, .synthetic⟩

/-- A register of the sample. -/
def register (n : Nat) : Register := ⟨n, TypeTable.unknown⟩

/-- The body of a constructor with so many parameters, which leaves its mark in the field. -/
def body (arity : Nat) (mark : String) : Body where
  callable := .constructorOf box
  params := (List.range (arity + 1)).map register
  returns := TypeTable.unknown
  blocks :=
    [⟨⟨0⟩, none,
      [.delegate (register 0) (.constructorOf rootClass) [], .initFields (register 0) box,
        .assign (register 9) (.literal (.string mark)), .store (register 0) 0 (register 9)],
      .ret none⟩]
  entry := ⟨0⟩
  span := .synthetic

/-- Bodies for the two constructors. -/
def library : BodyLibrary where
  keys := [key]
  functions := []
  constructors :=
    [⟨.constructorOf box, some 0, fun _ _ => .ok (body 0 "none")⟩,
      ⟨.constructorOf box, some 1, fun _ _ => .ok (body 1 "one")⟩]

end Boxes

/-- A class with a field and with constructors that are declared in the given order. -/
def boxes (order : List (List Typed)) : Catalogue where
  classes :=
    [⟨Boxes.box, none, [],
      some ⟨Boxes.box, none, [⟨[⟨"mark"⟩], .named (.primitive .string)⟩], .generated Boxes.key,
        .synthetic⟩⟩]
  members := order.map Boxes.constructor
  namespaces := none
  topLevel := none
  names := []

end Catalogue

/-- The sample with its constructors declared in the given order. -/
def Resolver.boxes (order : List (List Typed)) : Resolver :=
  (((start "main" ⟨[(Catalogue.boxes order).provider],
    [Catalogue.Boxes.library.provider]⟩).resolveClass Catalogue.Boxes.box).2.resolveMember
      Catalogue.Boxes.box .init).2

/-- What the sample is lowered to, with the given bodies. -/
def Program.boxes (order : List (List Typed)) (bodies : List Body) : Program where
  types := (Resolver.boxes order).types
  symbols := (Resolver.boxes order).symbols
  module :=
    { name := "main"
      bodies := bodies
      classes := (Resolver.boxes order).symbols.classes.map
        (Resolver.boxes order).symbols.layoutOf }

namespace Catalogue.Boxes

/-- A constructor as it is declared. -/
def declared (params : List ParamDecl) : CallableDecl :=
  ⟨.constructorOf box, .constructor, params, ⟨7⟩, .generated key, .synthetic⟩

/-- The parameter of the second constructor. -/
def content : ParamDecl := ⟨⟨"content"⟩, Primitive.number.typeId⟩

/-- The bodies take the receiver and the parameters. -/
theorem length_params {view : Resolved} {callable : CallableDecl} {b : Body}
    (hCallable : callable = declared [] ∨ callable = declared [content])
    (h : Resolver.Filled [library.provider] view callable b) :
    b.params.length = callable.params.length + 1 := by
  rcases hCallable with rfl | rfl
  · have hFill := (Resolver.fillBody_eq_ok_iff rfl).2 h
    have hBody : Resolver.fillBody [library.provider] view (declared []) key =
        .ok (body 0 "none") := rfl
    cases hBody.symm.trans hFill
    rfl
  · have hFill := (Resolver.fillBody_eq_ok_iff rfl).2 h
    have hBody : Resolver.fillBody [library.provider] view (declared [content]) key =
        .ok (body 1 "one") := rfl
    cases hBody.symm.trans hFill
    rfl

theorem mem_generated {order : List (List Typed)}
    (hOrder : order = [[], unary] ∨ order = [unary, []])
    {callable : CallableDecl} (h : callable ∈ (Resolver.boxes order).symbols.generated) :
    callable = declared [] ∨ callable = declared [content] := by
  rcases hOrder with rfl | rfl
  · have hBoth : callable ∈ [declared [], declared [content]] := h
    simpa using hBoth
  · have hBoth : callable ∈ [declared [content], declared []] := h
    simpa [or_comm] using hBoth

/-- The class has a constructor without parameters, and every constructor has a body that fits.
But another one is declared behind it, and so the class cannot be constructed. -/
theorem overloaded_construction_fails :
    let r := Resolver.boxes [[], unary]
    let p := Program.boxes [[], unary] [body 0 "none", body 1 "one"]
    r.lower = .ok p ∧ box ≠ rootClass ∧ r.symbols.noArgConstructor? box = some (declared []) ∧
      (declared []).isConstructor = true ∧ (declared []).origin = .generated key ∧
      (∀ callable ∈ r.symbols.generated, callable.isConstructor = true →
        ∀ body, Resolver.Filled r.extensions.bodies ⟨r.types, r.symbols⟩ callable body →
          body.params.length = callable.params.length + 1) ∧
      ∃ m, p.construct 1000 box .start =
        some (.error (.typeError (.argumentCount (.constructorOf box) 2 1)), m) := by
  refine ⟨rfl, by decide, rfl, rfl, rfl, ?_, _, rfl⟩
  intro callable hCallable _ body hFilled
  exact length_params (mem_generated (.inl rfl) hCallable) hFilled

/-- With the two constructors the other way round, the one without parameters is run. -/
theorem overloaded_construction :
    let r := Resolver.boxes [unary, []]
    let p := Program.boxes [unary, []] [body 1 "one", body 0 "none"]
    r.lower = .ok p ∧ box ≠ rootClass ∧ (r.symbols.class? box).isSome = true ∧
      r.symbols.NamesConstructors box ∧
      (∀ callable ∈ r.symbols.generated, callable.isConstructor = true →
        ∀ body, Resolver.Filled r.extensions.bodies ⟨r.types, r.symbols⟩ callable body →
          body.params.length = callable.params.length + 1) ∧
      r.symbols.LastOverload (.constructorOf box) (declared []) ∧
      ∃ body layout, p.module.class? box = some layout ∧
        p.construct 1000 box .start = (p.bareCall 999 (declared []) body ⟨0⟩ >>= fun _ =>
          (pure ⟨0⟩ : Eval ObjectRef)) (Program.withFresh .start layout box) ∧
        ∃ m, p.construct 1000 box .start = some (.ok ⟨0⟩, m) ∧
          m.heap = #[⟨box, #[.string "none"]⟩] := by
  intro r p
  have hLower : r.lower = .ok p := rfl
  have hRoot : box ≠ rootClass := by decide
  have hClass : (r.symbols.class? box).isSome = true := rfl
  have hNames : r.symbols.NamesConstructors box := by
    intro member hMember
    have hBoth : member ∈ [declared [content], declared []] := hMember
    rcases List.mem_cons.1 hBoth with rfl | hSecond
    · exact ⟨fun _ => rfl, fun _ => rfl⟩
    · rw [List.mem_singleton.1 hSecond]
      exact ⟨fun _ => rfl, fun _ => rfl⟩
  have hParams : ∀ callable ∈ r.symbols.generated, callable.isConstructor = true →
      ∀ body, Resolver.Filled r.extensions.bodies ⟨r.types, r.symbols⟩ callable body →
        body.params.length = callable.params.length + 1 := by
    intro callable hCallable _ body hFilled
    exact length_params (mem_generated (.inr rfl) hCallable) hFilled
  have hLast : r.symbols.LastOverload (.constructorOf box) (declared []) :=
    ⟨rfl, [declared [content]], [], rfl, nofun⟩
  obtain ⟨body, layout, _, hLayout, hConstruct, _⟩ :=
    Program.construct_runs_last_overload hLower hRoot hClass hNames hParams hLast
  exact ⟨hLower, hRoot, hClass, hNames, hParams, hLast, body, layout, hLayout,
    hConstruct 999 .start (by decide), _, rfl, rfl⟩

end Catalogue.Boxes
end TwoPhase
