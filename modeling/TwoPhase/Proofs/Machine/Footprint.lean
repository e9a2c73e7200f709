import TwoPhase.Proofs.Machine.Region

/-!
# The footprint of a request

Bodies hold references and follow them, but they cannot make them up.  A method therefore gets at
the objects that its receiver and its arguments lead to and at no other; a constructor is handed
nothing but the new object, whose slots hold nothing yet.

## Strategy

What can be reached from some values is the least closed region around them
(`closed_footprint`, `Machine.not_reaches_of_closed`), as the heap is when the request comes.  An
evaluation that starts inside a closed region stays there, although its stores change what leads
where.  So what is outside at first is left alone, at every moment and at the end.

## Main results

* `During.unchanged`, `unchanged_of_serve` — the rest of the heap is left alone.
* `touches_reachable_only` — the same for calls and constructions, as they are made from outside.
-/

namespace TwoPhase

open Ir (Body Register)
open Relation (ReflTransGen)

variable {m m' : Machine} {ref other : ObjectRef} {values : List Value} {region : Set ObjectRef}

/-- A slot of one object holds a reference to another. -/
def Machine.PointsTo (m : Machine) (ref other : ObjectRef) : Prop :=
  ∃ object, m.heap[ref.index]? = some object ∧ Value.object other ∈ object.slots

/-- One of the values leads to the object, at once or from slot to slot. -/
def Machine.Reaches (m : Machine) (values : List Value) (ref : ObjectRef) : Prop :=
  ∃ root, Value.object root ∈ values ∧ ReflTransGen m.PointsTo root ref

/-- What a request may touch: the object that it makes, or what receiver and arguments reach. -/
def Request.footprint (m : Machine) : Request → Set ObjectRef
  | .construct _ => {⟨m.heap.size⟩}
  | .call ref _ args => {other | m.Reaches (.object ref :: args) other}

/-- Nothing leads out of a closed region. -/
theorem Machine.not_reaches_of_closed (hClosed : Closed region m.heap)
    (hValues : ∀ value ∈ values, value.Within region) (hRef : ref ∉ region) :
    ¬ m.Reaches values ref := by
  rintro ⟨root, hRoot, hPath⟩
  refine hRef ?_
  clear hRef
  induction hPath with
  | refl => exact hValues _ hRoot rfl
  | tail _ hStep ih =>
      obtain ⟨object, hObject, hSlot⟩ := hStep
      exact hClosed ih hObject _ hSlot rfl

/-- What some values reach is closed. -/
theorem closed_reaches (m : Machine) (values : List Value) :
    Closed {ref | m.Reaches values ref} m.heap := by
  rintro ref object ⟨root, hRoot, hPath⟩ hObject _ hValue other rfl
  exact ⟨root, hRoot, hPath.tail ⟨object, hObject, hValue⟩⟩

/-- An object without references is a closed region. -/
theorem closed_fresh (m : Machine) (layout : Ir.ClassLayout) (id : ClassId) :
    Closed {⟨m.heap.size⟩} (Program.withFresh m layout id).heap := by
  rintro _ object rfl hObject value hValue other rfl
  replace hObject : (m.heap.push _)[m.heap.size]? = some object := hObject
  rw [Array.getElem?_push_size] at hObject
  cases hObject
  cases Array.eq_of_mem_replicate hValue

namespace Program

variable {p : Program} {fuel : Nat} {request : Request} {now : Moment}

/-- A new object is put behind the others. -/
theorem getElem?_withFresh {layout : Ir.ClassLayout} {id : ClassId} {n : Nat}
    (h : n ≠ m.heap.size) : (withFresh m layout id).heap[n]? = m.heap[n]? := by
  show (m.heap.push _)[n]? = _
  rw [Array.getElem?_push, if_neg h]

/-- An evaluation starts inside the footprint, and nothing outside has changed then. -/
theorem Opens.inside {callable : CallableId} {args : List Value} {first : Machine}
    (h : Opens p m request (.call callable args first)) :
    Moment.Inside (request.footprint m) ⟨.call callable args, [], first⟩ ∧
      ∀ ref ∉ request.footprint m, first.heap[ref.index]? = m.heap[ref.index]? := by
  cases h with
  | construct hLayout _ =>
      refine ⟨⟨closed_fresh m _ _, ?_, nofun⟩, ?_⟩
      · intro value hValue ref hRef
        rw [List.mem_singleton.1 hValue] at hRef
        cases hRef
        rfl
      · intro ref hRef
        exact getElem?_withFresh fun hSize => hRef (ObjectRef.eq_of_index hSize)
  | call _ _ =>
      refine ⟨⟨closed_reaches m _, ?_, nofun⟩, fun _ _ => rfl⟩
      rintro _ hValue ref rfl
      exact ⟨ref, hValue, .refl⟩

/-- **At every moment** of a request, what is outside its footprint is as it was. -/
theorem During.unchanged (h : During p m request now) :
    ∀ ref ∉ request.footprint m, now.machine.heap[ref.index]? = m.heap[ref.index]? := by
  intro ref hRef
  obtain ⟨callable, args, first, hOpens, hLeads⟩ := h
  obtain ⟨hInside, hFirst⟩ := hOpens.inside
  obtain ⟨_, hEffect⟩ := hLeads.stays hInside
  exact (hEffect.outside ref hRef).trans (hFirst ref hRef)

/-- **At the end** of a request, what is outside its footprint is as it was. -/
theorem unchanged_of_serve {result : Except RuntimeError Value}
    (h : p.serve fuel request m = some (result, m')) :
    ∀ ref ∉ request.footprint m, m'.heap[ref.index]? = m.heap[ref.index]? := by
  cases ending_of_serve h with
  | refused _ _ => exact fun _ _ => rfl
  | bare _ _ =>
      intro ref hRef
      exact getElem?_withFresh fun hSize => hRef (ObjectRef.eq_of_index hSize)
  | evaluated hEnd => exact hEnd.unchanged

/-- Whatever was on the heap before a construction is outside its footprint. -/
theorem not_mem_footprint_construct {id : ClassId} {n : Nat} (h : n < m.heap.size) :
    (⟨n⟩ : ObjectRef) ∉ (Request.construct id).footprint m := by
  intro hMem
  have hSame : n = m.heap.size := congrArg ObjectRef.index hMem
  omega

/-- A construction serves a request. -/
theorem exists_serve_of_construct {id : ClassId} {result : Except RuntimeError ObjectRef}
    (h : p.construct fuel id m = some (result, m')) :
    ∃ answer, p.serve fuel (.construct id) m = some (answer, m') := by
  cases result with
  | error e => exact ⟨_, Eval.bind_of_error h⟩
  | ok ref => exact ⟨_, Eval.bind_of_ok h⟩

/-- **Evaluation touches only what can be reached.**  A call leaves every object as it is to which
neither the receiver nor an argument leads, and a construction leaves all objects as they are that
were there before; whether they succeed or fail, and also at every moment before the end, if there
is an end at all. -/
theorem touches_reachable_only (p : Program) (m : Machine) :
    (∀ {ref name args},
      (∀ {fuel result m'}, p.call fuel ref name args m = some (result, m') →
        ∀ other, ¬ m.Reaches (.object ref :: args) other →
          m'.heap[other.index]? = m.heap[other.index]?) ∧
      ∀ {now}, During p m (.call ref name args) now →
        ∀ other, ¬ m.Reaches (.object ref :: args) other →
          now.machine.heap[other.index]? = m.heap[other.index]?) ∧
    ∀ {id},
      (∀ {fuel result m'}, p.construct fuel id m = some (result, m') →
        ∀ n < m.heap.size, m'.heap[n]? = m.heap[n]?) ∧
      ∀ {now}, During p m (.construct id) now →
        ∀ n < m.heap.size, now.machine.heap[n]? = m.heap[n]? := by
  refine ⟨⟨?_, ?_⟩, ⟨?_, ?_⟩⟩
  · intro fuel result m' hCall
    have hServe : p.serve fuel (.call _ _ _) m = some (result, m') := hCall
    exact unchanged_of_serve hServe
  · intro now hNow
    exact hNow.unchanged
  · intro fuel result m' hConstruct n hn
    obtain ⟨_, hServe⟩ := exists_serve_of_construct hConstruct
    exact unchanged_of_serve hServe ⟨n⟩ (not_mem_footprint_construct hn)
  · intro now hNow n hn
    exact hNow.unchanged ⟨n⟩ (not_mem_footprint_construct hn)

end Program

/-! ## A sample -/

namespace Catalogue

namespace Cells

/-- The key of the sample. -/
def key : Key := ⟨0, "cells"⟩

/-- The class of the sample. -/
def cell : ClassId := ⟨⟨[⟨"cells"⟩]⟩, ⟨"Cell"⟩⟩

/-- A method with the given parameters. -/
def method (name : String) (params : List Typed) : MemberEntry :=
  ⟨cell, ⟨name⟩, none, .function, params, .named (.primitive .void), .generated key, .synthetic⟩

/-- A register of the sample. -/
def register (n : Nat) : Register := ⟨n, TypeTable.unknown⟩

/-- A body of a single block. -/
def body (callable : CallableId) (arity : Nat) (instrs : List Ir.Instr) : Body where
  callable := callable
  params := (List.range (arity + 1)).map register
  returns := TypeTable.unknown
  blocks := [⟨⟨0⟩, none, instrs, .ret none⟩]
  entry := ⟨0⟩
  span := .synthetic

/-- A cell's constructor. -/
def construction : Body :=
  body (.constructorOf cell) 0
    [.delegate (register 0) (.constructorOf rootClass) [], .initFields (register 0) cell]

/-- Makes a cell refer to the argument. -/
def link : Body :=
  body (.member cell ⟨"link"⟩) 1 [.store (register 0) 0 (register 1)]

/-- Follows the reference of a cell, marks the cell that is found there and then fails. -/
def mark : Body :=
  body (.member cell ⟨"mark"⟩) 0
    [.load (register 1) (register 0) 0, .assign (register 2) (.literal (.boolean true)),
      .store (register 1) 1 (register 2), .store (register 1) 7 (register 2)]

/-- The three bodies. -/
def library : BodyLibrary where
  keys := [key]
  functions := [link, mark].map fun body => ⟨body.callable, none, fun _ _ => .ok body⟩
  constructors := [⟨construction.callable, none, fun _ _ => .ok construction⟩]

end Cells

/-- Cells that refer to each other. -/
def cells : Catalogue where
  classes :=
    [⟨Cells.cell, none, [],
      some ⟨Cells.cell, none,
        [⟨[⟨"next"⟩], .named (.classLike Cells.cell)⟩,
          ⟨[⟨"marked"⟩], .named (.primitive .boolean)⟩],
        .generated Cells.key, .synthetic⟩⟩]
  members :=
    [⟨Cells.cell, .init, none, .constructor, [], .named (.classLike Cells.cell),
        .generated Cells.key, .synthetic⟩,
      Cells.method "link" [⟨[⟨"other"⟩], .named (.classLike Cells.cell)⟩],
      Cells.method "mark" []]
  namespaces := none
  topLevel := none
  names := []

end Catalogue

/-- The sample with its members declared. -/
def Resolver.cells : Resolver :=
  [Name.init, ⟨"link"⟩, ⟨"mark"⟩].foldl
    (fun r name => (r.resolveMember Catalogue.Cells.cell name).2)
    ((start "main" ⟨[Catalogue.cells.provider],
      [Catalogue.Cells.library.provider]⟩).resolveClass Catalogue.Cells.cell).2

/-- What the sample is lowered to. -/
def Program.cells : Program where
  types := Resolver.cells.types
  symbols := Resolver.cells.symbols
  module :=
    { name := "main"
      bodies := [Catalogue.Cells.construction, Catalogue.Cells.link, Catalogue.Cells.mark]
      classes := Resolver.cells.symbols.classes.map Resolver.cells.symbols.layoutOf }

namespace Catalogue.Cells

theorem lower_cells : Resolver.cells.lower = .ok Program.cells := rfl

/-- A cell with its slots. -/
def holding (next : Value) (marked : Bool) : Object := ⟨cell, #[next, .boolean marked]⟩

/-- What is seen of a construction. -/
def constructed : Array Event :=
  #[.constructorEntered (.constructorOf cell), .constructorEntered (.constructorOf rootClass),
    .fieldsInitialized cell]

/-- Cells with what was seen of their constructions. -/
def machine (cells : List Object) : Machine where
  heap := cells.toArray
  events := (cells.map fun _ => constructed).toArray.flatten
  depth := 0

/-- Three cells, of which the first refers to the second. -/
def linked : Machine :=
  machine [holding (.object ⟨1⟩) false, holding .null false, holding .null false]

/-- The same cells after the second one was marked. -/
def marked : Machine :=
  machine [holding (.object ⟨1⟩) false, holding .null true, holding .null false]

/-- What has been asked for until they are linked. -/
def history : List (Request × Except RuntimeError Value) :=
  [(.construct cell, .ok (.object ⟨0⟩)), (.construct cell, .ok (.object ⟨1⟩)),
    (.construct cell, .ok (.object ⟨2⟩)), (.call ⟨0⟩ ⟨"link"⟩ [.object ⟨1⟩], .ok .null)]

theorem session_linked : Program.Session Program.cells .start history linked := by
  have hMade (n : Nat) (hn : n < 3) :
      Program.cells.serve 5 (.construct cell) (machine (List.replicate n (holding .null false))) =
        some (.ok (.object ⟨n⟩), machine (List.replicate (n + 1) (holding .null false))) := by
    revert n
    decide +kernel
  have hLinked : Program.cells.serve 5 (.call ⟨0⟩ ⟨"link"⟩ [.object ⟨1⟩])
      (machine (List.replicate 3 (holding .null false))) = some (.ok .null, linked) := by
    decide +kernel
  exact .cons (hMade 0 (by decide)) (.cons (hMade 1 (by decide)) (.cons (hMade 2 (by decide))
    (.cons hLinked (.nil linked))))

theorem call_mark : Program.cells.call 5 ⟨0⟩ ⟨"mark"⟩ [] linked =
    some (.error (.typeError (.noSlot 7)), marked) := by
  decide +kernel

/-- The first two cells are on their own. -/
theorem closed_linked : Closed {ref | ref.index < 2} linked.heap := by
  intro ref object hRef hObject value hValue other hOther
  have hIndex : ref.index = 0 ∨ ref.index = 1 := by
    have hBelow : ref.index < 2 := hRef
    omega
  subst hOther
  rcases hIndex with hIndex | hIndex
  · have hCell : holding (.object ⟨1⟩) false = object := by
      rw [hIndex] at hObject
      exact Option.some.inj hObject
    have hNext : other = ⟨1⟩ := by simpa [← hCell, holding] using hValue
    subst hNext
    exact Nat.one_lt_two
  · have hCell : holding .null false = object := by
      rw [hIndex] at hObject
      exact Option.some.inj hObject
    simp [← hCell, holding] at hValue

/-- From the first cell nothing leads to the third one, so the call leaves it alone which marks the
second one and fails.  A construction leaves all three alone. -/
theorem cells_touched :
    Resolver.cells.lower = .ok Program.cells ∧
      Program.Session Program.cells .start history linked ∧
      Program.cells.call 5 ⟨0⟩ ⟨"mark"⟩ [] linked =
        some (.error (.typeError (.noSlot 7)), marked) ∧
      ¬ linked.Reaches [.object ⟨0⟩] ⟨2⟩ ∧ marked.heap[2]? = linked.heap[2]? ∧
      marked.heap[1]? ≠ linked.heap[1]? ∧
      ∃ last, Program.cells.construct 5 cell linked = some (.ok ⟨3⟩, last) ∧
        ∀ n < 3, last.heap[n]? = linked.heap[n]? := by
  obtain ⟨hCalls, hConstructions⟩ := Program.touches_reachable_only Program.cells linked
  have hApart : ¬ linked.Reaches [.object ⟨0⟩] ⟨2⟩ := by
    refine Machine.not_reaches_of_closed closed_linked ?_ (Nat.lt_irrefl 2)
    intro value hValue ref hRef
    rw [List.mem_singleton.1 hValue] at hRef
    cases hRef
    exact Nat.two_pos
  obtain ⟨last, hMade⟩ : ∃ last, Program.cells.construct 5 cell linked = some (.ok ⟨3⟩, last) :=
    ⟨machine [holding (.object ⟨1⟩) false, holding .null false, holding .null false,
      holding .null false], by decide +kernel⟩
  exact ⟨lower_cells, session_linked, call_mark, hApart, hCalls.1 call_mark ⟨2⟩ hApart, by decide,
    last, hMade, hConstructions.1 hMade⟩

end Catalogue.Cells
end TwoPhase
