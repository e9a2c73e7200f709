import TwoPhase.Proofs.Lowering.Layout
import TwoPhase.Proofs.Machine.Eval

/-!
# Resetting the fields of a class

An initializer goes by slot numbers: it looks up the slots that its class has declared in the
layout of the object, and writes to the numbers they carry.  Whether it hits the right slots is
therefore a matter of how slots are numbered.  Numbers end at `Slot.maxIndex`, and every slot
beyond carries that number too.

## Strategy

`Numbered` is all that an initializer needs to know about a layout.  It makes every write land
inside the object (`initFields_eq`), so that what is left is a list of writes, and a slot ends up
with the value written to its number last (`getElem?_fill`).  Up to the limit a number means one
slot, and then the writes are those to the class's own slots (`getElem?_fill_initialValues`).

## Main results

* `initFields_eq` — an initializer succeeds on every object that has the slots of its layout.
* `slots_numbered_up_to_limit` — positions and numbers agree exactly up to the limit, and as
  long as they do an initializer resets the slots of its class and no other.
* `crowded_initializer` — one slot more, and an initializer overwrites an inherited slot.
-/

namespace TwoPhase

/-! ## Numbered layouts -/

/-- Every slot carries its position as its number, as far as numbers go. -/
def Ir.ClassLayout.Numbered (layout : Ir.ClassLayout) : Prop :=
  ∀ (n : Nat) (slot : Ir.Slot), layout.slots[n]? = some slot → slot.index = min n Ir.Slot.maxIndex

theorem SymbolTable.numbered_layoutOf (t : SymbolTable) (decl : ClassDecl) :
    (t.layoutOf decl).Numbered := by
  intro n slot h
  rw [getElem?_slots] at h
  obtain ⟨field, _, rfl⟩ := Option.map_eq_some_iff.1 h
  rfl

/-- The layouts of a lowered program are numbered. -/
theorem Resolver.numbered_of_lower {r : Resolver} {p : Program} (hLower : r.lower = .ok p)
    {id : ClassId} {layout : Ir.ClassLayout} (hLayout : p.module.class? id = some layout) :
    layout.Numbered := by
  rw [(Resolver.lower_eq_ok_iff.1 hLower).class?_eq] at hLayout
  obtain ⟨decl, _, rfl⟩ := Option.map_eq_some_iff.1 hLayout
  exact SymbolTable.numbered_layoutOf _ decl

namespace Ir.ClassLayout

variable {layout : Ir.ClassLayout}

/-- A number is never greater than the position it stands at. -/
theorem Numbered.index_lt (h : layout.Numbered) {n : Nat} {slot : Slot}
    (hSlot : layout.slots[n]? = some slot) : slot.index < layout.slots.size := by
  have hInside : n < layout.slots.size := (Array.getElem?_eq_some_iff.1 hSlot).1
  have hIndex := h n slot hSlot
  omega

/-- Up to the limit the number of a slot is its position. -/
theorem Numbered.index_eq (h : layout.Numbered) (hSize : layout.slots.size ≤ Slot.maxIndex + 1)
    {n : Nat} {slot : Slot} (hSlot : layout.slots[n]? = some slot) : slot.index = n := by
  have hInside : n < layout.slots.size := (Array.getElem?_eq_some_iff.1 hSlot).1
  have hIndex := h n slot hSlot
  omega

/-- And no further: behind the limit there is a slot that carries another number. -/
theorem Numbered.size_le_iff (h : layout.Numbered) :
    (∀ (n : Nat) (slot : Slot), layout.slots[n]? = some slot → slot.index = n) ↔
      layout.slots.size ≤ Slot.maxIndex + 1 := by
  constructor
  · intro hAll
    refine Classical.byContradiction fun hMore => ?_
    have hInside : Slot.maxIndex + 1 < layout.slots.size := by omega
    have hSlot := Array.getElem?_eq_getElem hInside
    have hPosition := hAll _ _ hSlot
    have hIndex := h _ _ hSlot
    omega
  · intro hSize n slot hSlot
    exact h.index_eq hSize hSlot

/-- Where numbers are positions, no number occurs twice. -/
theorem nodup_of_index_eq
    (h : ∀ (n : Nat) (slot : Slot), layout.slots[n]? = some slot → slot.index = n) :
    (layout.slots.toList.map Slot.index).Nodup := by
  have hRange : layout.slots.toList.map Slot.index = List.range layout.slots.size := by
    apply List.ext_getElem?
    intro n
    rw [List.getElem?_map, Array.getElem?_toList]
    by_cases hn : n < layout.slots.size
    · have hSlot := Array.getElem?_eq_getElem hn
      rw [hSlot, List.getElem?_range hn, Option.map_some, h n _ hSlot]
    · rw [Array.getElem?_eq_none (by omega), List.getElem?_eq_none (by simpa using hn)]
      rfl
  rw [hRange]
  exact List.nodup_range

end Ir.ClassLayout

/-! ## Writing a list of values -/

/-- Slots after values were put into some of them, one after the other. -/
def fill (slots : Array Value) (values : List (Nat × Value)) : Array Value :=
  values.foldl (fun slots entry => slots.setIfInBounds entry.1 entry.2) slots

@[simp] theorem fill_nil (slots : Array Value) : fill slots [] = slots := rfl

theorem fill_cons (slots : Array Value) (entry : Nat × Value) (values : List (Nat × Value)) :
    fill slots (entry :: values) = fill (slots.setIfInBounds entry.1 entry.2) values := rfl

@[simp] theorem size_fill (values : List (Nat × Value)) :
    ∀ slots : Array Value, (fill slots values).size = slots.size := by
  induction values with
  | nil => intro slots; rfl
  | cons entry rest ih =>
      intro slots
      rw [fill_cons, ih, Array.size_setIfInBounds]

/-- Values that all go to existing slots are put there. -/
theorem putSlots_eq :
    ∀ (values : List (Nat × Value)) {slots : Array Value},
      (∀ entry ∈ values, entry.1 < slots.size) →
      Eval.putSlots slots values = (.ok (), fill slots values) := by
  intro values
  induction values with
  | nil => intro slots _; rfl
  | cons entry rest ih =>
      intro slots hInside
      have hHere : entry.1 < slots.size := hInside entry List.mem_cons_self
      unfold Eval.putSlots
      rw [if_pos hHere, fill_cons]
      refine ih fun other hOther => ?_
      rw [Array.size_setIfInBounds]
      exact hInside other (List.mem_cons_of_mem entry hOther)

/-- A slot holds the value that is written to its number, if there is one. -/
theorem getElem?_fill {n : Nat} {v : Value} :
    ∀ (values : List (Nat × Value)) {slots : Array Value}, n < slots.size →
      (∀ entry ∈ values, entry.1 = n → entry.2 = v) →
      (fill slots values)[n]? = if ∃ entry ∈ values, entry.1 = n then some v else slots[n]? := by
  intro values
  induction values with
  | nil => intro slots _ _; simp
  | cons entry rest ih =>
      intro slots hInside hValue
      have hSize : n < (slots.setIfInBounds entry.1 entry.2).size := by
        rwa [Array.size_setIfInBounds]
      rw [fill_cons, ih hSize fun other hOther => hValue other (List.mem_cons_of_mem entry hOther)]
      by_cases hRest : ∃ other ∈ rest, other.1 = n
      · obtain ⟨other, hOther, hNumber⟩ := hRest
        rw [if_pos ⟨other, hOther, hNumber⟩,
          if_pos ⟨other, List.mem_cons_of_mem entry hOther, hNumber⟩]
      · rw [if_neg hRest, Array.getElem?_setIfInBounds]
        by_cases hHere : entry.1 = n
        · have hHit : ∃ other ∈ entry :: rest, other.1 = n := ⟨entry, List.mem_cons_self, hHere⟩
          rw [if_pos hHere, if_pos hHit, if_pos (by omega),
            hValue entry List.mem_cons_self hHere]
        · have hMiss : ¬ ∃ other ∈ entry :: rest, other.1 = n := by
            rintro ⟨other, hOther, hNumber⟩
            rcases List.mem_cons.1 hOther with rfl | hOther
            · exact hHere hNumber
            · exact hRest ⟨other, hOther, hNumber⟩
          rw [if_neg hHere, if_neg hMiss]

namespace Program

variable {p : Program} {layout : Ir.ClassLayout} {K : ClassId} {m : Machine} {ref : ObjectRef}
  {object : Object}

/-! ## Initializers -/

theorem mem_initialValues {entry : Nat × Value} :
    entry ∈ p.initialValues layout K ↔ ∃ slot : Ir.Slot,
      (∃ n : Nat, layout.slots[n]? = some slot) ∧ slot.owner = K ∧
        entry = (slot.index, Value.zeroOf p.types slot.type) := by
  unfold initialValues
  rw [List.mem_map]
  simp only [Ir.ClassLayout.mem_declaredBy, and_assoc, eq_comm]

/-- The object after the fields that `K` declares were reset. -/
def resetObject (p : Program) (layout : Ir.ClassLayout) (K : ClassId) (object : Object) : Object :=
  { object with slots := fill object.slots (p.initialValues layout K) }

/-- The machine after the fields that `K` declares on an object were reset. -/
def reset (p : Program) (layout : Ir.ClassLayout) (K : ClassId) (ref : ObjectRef)
    (object : Object) (m : Machine) : Machine where
  heap := m.heap.setIfInBounds ref.index (p.resetObject layout K object)
  events :=
    if (layout.declaredBy K).isEmpty then m.events else m.events.push (.fieldsInitialized K)
  depth := m.depth

/-- Putting back what is there changes nothing. -/
theorem setIfInBounds_self (hObject : m.heap[ref.index]? = some object) :
    m.heap.setIfInBounds ref.index object = m.heap := by
  apply Array.ext_getElem?
  intro n
  rw [Array.getElem?_setIfInBounds]
  by_cases hn : ref.index = n
  · have hInside := (Array.getElem?_eq_some_iff.1 hObject).1
    rw [if_pos hn, if_pos hInside, ← hn, hObject]
  · rw [if_neg hn]

/-- **An initializer succeeds** on an object that has the slots of its class's layout. -/
theorem initFields_eq (hK : (p.module.class? K).isSome = true)
    (hObject : m.heap[ref.index]? = some object)
    (hLayout : p.module.class? object.classId = some layout) (hNumbered : layout.Numbered)
    (hSize : object.slots.size = layout.slots.size) :
    p.initFields ref K m = some (.ok (), p.reset layout K ref object m) := by
  obtain ⟨own, hOwn⟩ := Option.isSome_iff_exists.1 hK
  have hFirst : p.layout K m = some (.ok own, m) := by
    unfold Program.layout
    rw [hOwn]
    rfl
  have hSecond : Eval.objectAt ref m = some (.ok object, m) := by
    unfold Eval.objectAt
    rw [hObject]
  have hThird : p.layout object.classId m = some (.ok layout, m) := by
    unfold Program.layout
    rw [hLayout]
    rfl
  unfold initFields
  rw [Eval.bind_of_ok hFirst, Eval.bind_of_ok hSecond, Eval.bind_of_ok hThird]
  have hInside : ∀ entry ∈ p.initialValues layout K, entry.1 < object.slots.size := by
    intro entry hEntry
    obtain ⟨slot, ⟨n, hSlot⟩, _, rfl⟩ := mem_initialValues.1 hEntry
    have hIndex := hNumbered.index_lt hSlot
    show slot.index < _
    omega
  have hEmpty : (p.initialValues layout K).isEmpty = (layout.declaredBy K).isEmpty := by
    unfold initialValues
    rw [List.isEmpty_map]
  rw [hEmpty]
  by_cases hNone : (layout.declaredBy K).isEmpty = true
  · have hNothing : p.initialValues layout K = [] := by
      rw [← List.isEmpty_iff, hEmpty, hNone]
    have hSame : p.resetObject layout K object = object := by
      unfold resetObject
      rw [hNothing]
      rfl
    unfold reset
    rw [if_pos hNone, if_pos hNone, hSame, setIfInBounds_self hObject]
    rfl
  · have hWrite : Eval.writeSlots ref (p.initialValues layout K) m = some (.ok (),
        { m with heap := m.heap.setIfInBounds ref.index (p.resetObject layout K object) }) := by
      unfold Eval.writeSlots
      rw [hObject]
      dsimp only
      rw [putSlots_eq _ hInside]
      rfl
    unfold reset
    rw [if_neg hNone, if_neg hNone, Eval.bind_of_ok hWrite]
    rfl

/-- Up to the limit, the slots that change are those of the class. -/
theorem getElem?_fill_initialValues {slots : Array Value} (hNumbered : layout.Numbered)
    (hLimit : layout.slots.size ≤ Ir.Slot.maxIndex + 1) (hSize : slots.size = layout.slots.size)
    {n : Nat} {slot : Ir.Slot} (hSlot : layout.slots[n]? = some slot) :
    (fill slots (p.initialValues layout K))[n]? =
      if slot.owner = K then some (Value.zeroOf p.types slot.type) else slots[n]? := by
  have hInside : n < slots.size := by
    rw [hSize]
    exact (Array.getElem?_eq_some_iff.1 hSlot).1
  -- a write to this number comes from this slot
  have hHere : ∀ entry ∈ p.initialValues layout K, entry.1 = n →
      slot.owner = K ∧ entry.2 = Value.zeroOf p.types slot.type := by
    intro entry hEntry hNumber
    obtain ⟨other, ⟨n', hOther⟩, hOwner, rfl⟩ := mem_initialValues.1 hEntry
    have hPosition : n' = n := (hNumbered.index_eq hLimit hOther).symm.trans hNumber
    rw [hPosition, hSlot] at hOther
    cases hOther
    exact ⟨hOwner, rfl⟩
  rw [getElem?_fill _ hInside fun entry hEntry hNumber => (hHere entry hEntry hNumber).2]
  by_cases hOwner : slot.owner = K
  · have hWritten : ∃ entry ∈ p.initialValues layout K, entry.1 = n :=
      ⟨_, mem_initialValues.2 ⟨slot, ⟨n, hSlot⟩, hOwner, rfl⟩, hNumbered.index_eq hLimit hSlot⟩
    rw [if_pos hWritten, if_pos hOwner]
  · have hSpared : ¬ ∃ entry ∈ p.initialValues layout K, entry.1 = n := by
      rintro ⟨entry, hEntry, hNumber⟩
      exact hOwner (hHere entry hEntry hNumber).1
    rw [if_neg hSpared, if_neg hOwner]

/-- As an instruction, an initializer leaves the registers alone. -/
theorem step_initFields {call : CallableId → List Value → Eval Value} {frame : Frame}
    {this : Ir.Register} (hThis : frame.readObject this = .ok ref)
    (hInit : p.initFields ref K m = some (.ok (), p.reset layout K ref object m)) :
    p.step call frame (.initFields this K) m =
      some (.ok frame, p.reset layout K ref object m) := by
  have hRead : Eval.ofExcept (frame.readObject this) m = some (.ok ref, m) := by
    rw [hThis]
    rfl
  rw [step, Eval.bind_of_ok hRead, Eval.bind_of_ok hInit]
  rfl

/-- **Up to the limit, numbers are positions**, and an initializer resets the slots that its class
declares and no other.  This is so for every class of a lowered program.  A layout with more slots
than there are numbers has slots that share the last number. -/
theorem slots_numbered_up_to_limit {r : Resolver} {id : ClassId} (hLower : r.lower = .ok p)
    (hLayout : p.module.class? id = some layout) :
    (∀ (n : Nat) (slot : Ir.Slot), layout.slots[n]? = some slot →
      slot.index = min n Ir.Slot.maxIndex) ∧
    ((∀ (n : Nat) (slot : Ir.Slot), layout.slots[n]? = some slot → slot.index = n) ↔
      layout.slots.size ≤ Ir.Slot.maxIndex + 1) ∧
    (layout.slots.size ≤ Ir.Slot.maxIndex + 1 →
      (layout.slots.toList.map Ir.Slot.index).Nodup ∧
      ∀ (call : CallableId → List Value → Eval Value) (frame : Frame) (this : Ir.Register)
        (ref : ObjectRef) (values : Array Value) (m : Machine) (K : ClassId),
        frame.readObject this = .ok ref → m.heap[ref.index]? = some ⟨id, values⟩ →
        values.size = layout.slots.size → (p.module.class? K).isSome = true →
        ∃ m' values', p.step call frame (.initFields this K) m = some (.ok frame, m') ∧
          m'.heap = m.heap.setIfInBounds ref.index ⟨id, values'⟩ ∧
          values'.size = values.size ∧
          ∀ (n : Nat) (slot : Ir.Slot), layout.slots[n]? = some slot →
            values'[n]? =
              if slot.owner = K then some (Value.zeroOf p.types slot.type) else values[n]?) := by
  have hNumbered : layout.Numbered := Resolver.numbered_of_lower hLower hLayout
  refine ⟨hNumbered, hNumbered.size_le_iff, fun hLimit => ⟨?_, ?_⟩⟩
  · exact Ir.ClassLayout.nodup_of_index_eq (hNumbered.size_le_iff.2 hLimit)
  · intro call frame this ref values m K hThis hObject hSize hK
    have hInit := initFields_eq hK hObject hLayout hNumbered hSize
    refine ⟨_, _, step_initFields hThis hInit, rfl, size_fill _ _, ?_⟩
    intro n slot hSlot
    exact getElem?_fill_initialValues hNumbered hLimit hSize hSlot

/-- An object of the innermost class of the sample, with other values in its slots: only the last
one belongs to the class. -/
theorem tower_initializer :
    let top := Catalogue.Tower.top
    let values : Array Value := #[.string "a", .string "b", .string "c"]
    let m : Machine := ⟨#[⟨top.id, values⟩], #[], 0⟩
    let frame : Frame := ⟨.constructorOf top.id, [(0, .object ⟨0⟩)]⟩
    Resolver.tower.lower = .ok Program.tower ∧
      ∃ layout, Program.tower.module.class? top.id = some layout ∧
        layout.slots.size ≤ Ir.Slot.maxIndex + 1 ∧
        ∃ m' values', Program.tower.step (fun _ _ => .outOfFuel) frame
            (.initFields ⟨0, TypeTable.unknown⟩ top.id) m = some (.ok frame, m') ∧
          m'.heap = m.heap.setIfInBounds 0 ⟨top.id, values'⟩ ∧ values'.size = values.size ∧
          ∀ (n : Nat) (slot : Ir.Slot), layout.slots[n]? = some slot → values'[n]? =
            if slot.owner = top.id then some (Value.zeroOf Program.tower.types slot.type)
            else values[n]? := by
  intro top values m frame
  have hLower := Catalogue.Tower.lower_eq
  have hLayout : Program.tower.module.class? top.id =
      some (Resolver.tower.symbols.layoutOf top) := rfl
  have hLimit : (Resolver.tower.symbols.layoutOf top).slots.size ≤ Ir.Slot.maxIndex + 1 := by
    decide
  refine ⟨hLower, _, hLayout, hLimit, ?_⟩
  exact ((slots_numbered_up_to_limit hLower hLayout).2.2 hLimit).2 _ frame _ ⟨0⟩ values m top.id
    rfl rfl rfl rfl

end Program

/-! ## A crowded hierarchy -/

namespace Crowd

/-- A class with a field for every slot number. -/
def parent : ClassDecl where
  id := ⟨⟨[⟨"crowd"⟩]⟩, ⟨"Parent"⟩⟩
  supertype := none
  fields := List.replicate (Ir.Slot.maxIndex + 1) ⟨⟨"x"⟩, Primitive.number.typeId⟩
  origin := .generated ⟨0, "crowd"⟩
  span := .synthetic

/-- A subclass with one field more. -/
def child : ClassDecl where
  id := ⟨⟨[⟨"crowd"⟩]⟩, ⟨"Child"⟩⟩
  supertype := some parent.id
  fields := [⟨⟨"y"⟩, Primitive.boolean.typeId⟩]
  origin := .generated ⟨0, "crowd"⟩
  span := .synthetic

/-- Declares the two classes. -/
def provider : DeclarationProvider where
  topLevel := [.classLike parent.id, .classLike child.id]
  hasNamespace path := path.encloses parent.id.package
  declareClass id types := ([parent, child].find? (·.id == id), types)
  memberNames _ := []
  declareMembers _ _ types := ([], types)

/-- The two classes declared. -/
def resolver : Resolver :=
  (((Resolver.start "main" (.ofDeclarations provider)).resolveClass parent.id).2.resolveClass
    child.id).2

theorem classes_eq : resolver.symbols.classes = [rootDecl, parent, child] := rfl

theorem heldFields_child :
    resolver.symbols.heldFields child = parent.ownFields ++ child.ownFields := by
  have hAlone : resolver.symbols.Above parent [] := .top fun other ⟨id, hSuper, _⟩ => nomatch hSuper
  have hExtends : resolver.symbols.Extends child parent := ⟨parent.id, rfl, rfl⟩
  have hParent : parent ∈ resolver.symbols.classes := by simp [classes_eq]
  have hChild : child ∈ resolver.symbols.classes := by simp [classes_eq]
  have hGrounded : resolver.symbols.Grounded child :=
    (SymbolTable.Above.step hExtends hAlone).grounded
  rw [SymbolTable.heldFields_of_extends hChild hGrounded hExtends, SymbolTable.heldFields,
    SymbolTable.lineage_of_above hParent hAlone]
  simp

/-- The layout of the subclass. -/
def layout : Ir.ClassLayout := resolver.symbols.layoutOf child

theorem length_ownFields : parent.ownFields.length = Ir.Slot.maxIndex + 1 := by
  simp [ClassDecl.ownFields, parent]

theorem size_layout : layout.slots.size = Ir.Slot.maxIndex + 2 := by
  rw [← Array.length_toList, layout, SymbolTable.layoutOf_slots, heldFields_child,
    Ir.Slot.numbered, List.length_mapIdx, List.length_append, length_ownFields]
  rfl

theorem getElem?_layout (n : Nat) : layout.slots[n]? =
    (parent.ownFields ++ child.ownFields)[n]?.map (Ir.Slot.ofField n) := by
  rw [layout, SymbolTable.getElem?_slots, heldFields_child]

/-- The last number is that of an inherited slot. -/
theorem inherited_slot : layout.slots[Ir.Slot.maxIndex]? =
    some ⟨parent.id, ⟨"x"⟩, Primitive.number.typeId, Ir.Slot.maxIndex⟩ := by
  have hInside : Ir.Slot.maxIndex < parent.ownFields.length := by
    rw [length_ownFields]
    exact Nat.lt_succ_self _
  have hField : parent.ownFields[Ir.Slot.maxIndex]? =
      some (parent.id, ⟨⟨"x"⟩, Primitive.number.typeId⟩) := by
    simp [ClassDecl.ownFields, parent]
  rw [getElem?_layout, List.getElem?_append_left hInside, hField]
  rfl

/-- It is that of the slot behind as well, which is the subclass's own. -/
theorem own_slot : layout.slots[Ir.Slot.maxIndex + 1]? =
    some ⟨child.id, ⟨"y"⟩, Primitive.boolean.typeId, Ir.Slot.maxIndex⟩ := by
  have hLength := length_ownFields
  rw [getElem?_layout, List.getElem?_append_right (by omega), hLength, Nat.sub_self]
  rfl

/-- The slots that the subclass declares. -/
theorem eq_of_owner {n : Nat} {slot : Ir.Slot} (hSlot : layout.slots[n]? = some slot)
    (hOwner : slot.owner = child.id) :
    slot.index = Ir.Slot.maxIndex ∧ slot.type = Primitive.boolean.typeId := by
  have hLength := length_ownFields
  have hOther : parent.id ≠ child.id := by decide
  rw [getElem?_layout] at hSlot
  obtain ⟨field, hField, rfl⟩ := Option.map_eq_some_iff.1 hSlot
  by_cases hInherited : n < parent.ownFields.length
  · -- an inherited slot has another owner
    rw [List.getElem?_append_left hInherited] at hField
    obtain ⟨decl, _, rfl⟩ := List.mem_map.1 (List.mem_of_getElem? hField)
    exact absurd hOwner hOther
  · rw [List.getElem?_append_right (by omega)] at hField
    have hBoolean : ∀ field ∈ child.ownFields, field.2.type = Primitive.boolean.typeId := by
      decide
    refine ⟨?_, hBoolean field (List.mem_of_getElem? hField)⟩
    show min n Ir.Slot.maxIndex = Ir.Slot.maxIndex
    omega

end Crowd

/-- The two classes as a program. -/
def Program.crowd : Program :=
  ⟨Crowd.resolver.types, Crowd.resolver.symbols,
    .ofLists "main" (Crowd.resolver.symbols.classes.map Crowd.resolver.symbols.layoutOf) []⟩

/-- The initializer of the subclass overwrites an inherited slot, which held a number, and leaves
the subclass's own slot null: both slots carry the last number. -/
theorem crowded_initializer :
    let values : Array Value :=
      (Array.replicate (Ir.Slot.maxIndex + 1) (Value.number .zero)).push .null
    let m : Machine := ⟨#[⟨Crowd.child.id, values⟩], #[], 1⟩
    let frame : Frame := ⟨.constructorOf Crowd.child.id, [(0, .object ⟨0⟩)]⟩
    Crowd.resolver.lower = .ok Program.crowd ∧
      Program.crowd.module.class? Crowd.child.id = some Crowd.layout ∧
      Crowd.layout.slots[Ir.Slot.maxIndex]? =
        some ⟨Crowd.parent.id, ⟨"x"⟩, Primitive.number.typeId, Ir.Slot.maxIndex⟩ ∧
      Crowd.layout.slots[Ir.Slot.maxIndex + 1]? =
        some ⟨Crowd.child.id, ⟨"y"⟩, Primitive.boolean.typeId, Ir.Slot.maxIndex⟩ ∧
      ∃ m' values', Program.crowd.step (fun _ _ => .outOfFuel) frame
          (.initFields ⟨0, TypeTable.unknown⟩ Crowd.child.id) m = some (.ok frame, m') ∧
        m'.heap[0]? = some ⟨Crowd.child.id, values'⟩ ∧
        values'[Ir.Slot.maxIndex]? = some (.boolean false) ∧
        values'[Ir.Slot.maxIndex + 1]? = some .null := by
  intro values m frame
  have hLower : Crowd.resolver.lower = .ok Program.crowd := rfl
  have hLayout : Program.crowd.module.class? Crowd.child.id = some Crowd.layout := by
    rw [(Resolver.lower_eq_ok_iff.1 hLower).class?_eq]
    rfl
  have hNumbered : Crowd.layout.Numbered := SymbolTable.numbered_layoutOf _ _
  have hSize : values.size = Ir.Slot.maxIndex + 2 := by
    rw [Array.size_push, Array.size_replicate]
  have hWrites : ∀ entry ∈ Program.crowd.initialValues Crowd.layout Crowd.child.id,
      entry.1 = Ir.Slot.maxIndex ∧ entry.2 = .boolean false := by
    intro entry hEntry
    obtain ⟨slot, ⟨n, hSlot⟩, hOwner, rfl⟩ := Program.mem_initialValues.1 hEntry
    obtain ⟨hIndex, hType⟩ := Crowd.eq_of_owner hSlot hOwner
    refine ⟨hIndex, ?_⟩
    show Value.zeroOf Program.crowd.types slot.type = _
    rw [hType]
    rfl
  have hObject : m.heap[0]? = some ⟨Crowd.child.id, values⟩ := rfl
  have hKnown : (Program.crowd.module.class? Crowd.child.id).isSome = true := by
    rw [hLayout]
    rfl
  have hInit : Program.crowd.initFields ⟨0⟩ Crowd.child.id m = some (.ok (),
      Program.crowd.reset Crowd.layout Crowd.child.id ⟨0⟩ ⟨Crowd.child.id, values⟩ m) :=
    Program.initFields_eq hKnown hObject hLayout hNumbered (hSize.trans Crowd.size_layout.symm)
  refine ⟨hLower, hLayout, Crowd.inherited_slot, Crowd.own_slot, _,
    fill values (Program.crowd.initialValues Crowd.layout Crowd.child.id),
    Program.step_initFields rfl hInit, rfl, ?_, ?_⟩
  · have hHit : ∃ entry ∈ Program.crowd.initialValues Crowd.layout Crowd.child.id,
        entry.1 = Ir.Slot.maxIndex :=
      ⟨_, Program.mem_initialValues.2 ⟨_, ⟨_, Crowd.own_slot⟩, rfl, rfl⟩, rfl⟩
    rw [getElem?_fill _ (by omega) fun entry hEntry _ => (hWrites entry hEntry).2, if_pos hHit]
  · have hMiss : ¬ ∃ entry ∈ Program.crowd.initialValues Crowd.layout Crowd.child.id,
        entry.1 = Ir.Slot.maxIndex + 1 := by
      rintro ⟨entry, hEntry, hNumber⟩
      have hIndex := (hWrites entry hEntry).1
      omega
    rw [getElem?_fill _ (by omega) fun entry hEntry _ => (hWrites entry hEntry).2, if_neg hMiss,
      Array.getElem?_push, if_pos Array.size_replicate.symm]

end TwoPhase
