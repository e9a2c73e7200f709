import TwoPhase.Proofs.Lowering.Filling
import TwoPhase.Proofs.Lowering.Lineage
import TwoPhase.Provider.Catalogue

/-!
# Layouts of a hierarchy

Every layout is built on its own, by adding the fields of a whole lineage one after the other.
That the layouts of a class and of its superclass fit together is nowhere enforced; it follows
from how lineages grow.

## Strategy

`layoutOf_slots` says what a layout holds without building it: the fields of the lineage in
order, each numbered by its position.  The lineage of a class is the one of its superclass and
the class (`lineage_of_extends`), so the fields of the superclass come first and keep their
positions.

## Main results

* `layoutOf_slots`, `getElem?_slots` — the slot at a position.
* `slots_of_extends`, `slot_of_descends` — slots are inherited in place.
* `isEmpty_declaredBy`, `layoutOf_constructor` — what a layout holds of one class.
* `slots_extend_superclass` — all of it, and that lowering uses these layouts.
-/

namespace TwoPhase

open Relation (ReflTransGen)

/-! ## The slots of a layout -/

/-- The slot of a field at a position, given the class that declares it. -/
def Ir.Slot.ofField (position : Nat) (field : ClassId × FieldDecl) : Ir.Slot :=
  ⟨field.1, field.2.name, field.2.type, min position Ir.Slot.maxIndex⟩

/-- Fields as slots, numbered in order. -/
def Ir.Slot.numbered (fields : List (ClassId × FieldDecl)) : List Ir.Slot :=
  fields.mapIdx Ir.Slot.ofField

/-- The fields that a class declares, each with the class. -/
def ClassDecl.ownFields (decl : ClassDecl) : List (ClassId × FieldDecl) :=
  decl.fields.map fun field => (decl.id, field)

theorem Ir.Slot.numbered_concat (fields : List (ClassId × FieldDecl))
    (field : ClassId × FieldDecl) :
    numbered (fields ++ [field]) = numbered fields ++ [ofField fields.length field] :=
  List.mapIdx_concat

/-- Numbering goes on where it has stopped. -/
theorem Ir.Slot.numbered_append (fields more : List (ClassId × FieldDecl)) :
    numbered (fields ++ more) =
      numbered fields ++ more.mapIdx fun n => ofField (n + fields.length) :=
  List.mapIdx_append

theorem Ir.ClassLayout.mem_declaredBy {layout : Ir.ClassLayout} {owner : ClassId} {slot : Slot} :
    slot ∈ layout.declaredBy owner ↔ (∃ n : Nat, layout.slots[n]? = some slot) ∧
      slot.owner = owner := by
  unfold declaredBy
  rw [List.mem_filter, Array.mem_toList_iff, Array.mem_iff_getElem?]
  simp

namespace SymbolTable

variable {t : SymbolTable} {layout : Ir.ClassLayout} {decl child parent : ClassDecl}

/-- The fields of a class and its superclasses, in the order of the slots. -/
def heldFields (t : SymbolTable) (decl : ClassDecl) : List (ClassId × FieldDecl) :=
  (t.lineage decl).flatMap ClassDecl.ownFields

/-- Adding fields of a class behind numbered ones. -/
private theorem foldl_addSlot {id : ClassId} :
    ∀ (added : List FieldDecl) {layout : Ir.ClassLayout} {fields : List (ClassId × FieldDecl)},
      layout.slots.toList = Ir.Slot.numbered fields →
      (added.foldl (fun layout field => (layout.addSlot id field.name field.type).2)
        layout).slots.toList =
        Ir.Slot.numbered (fields ++ added.map fun field => (id, field)) := by
  intro added
  induction added with
  | nil =>
      intro layout fields h
      simpa using h
  | cons field rest ih =>
      intro layout fields h
      have hSize : layout.slots.size = fields.length := by
        rw [← Array.length_toList, h, Ir.Slot.numbered, List.length_mapIdx]
      have hNext : (layout.addSlot id field.name field.type).2.slots.toList =
          Ir.Slot.numbered (fields ++ [(id, field)]) := by
        show (layout.slots.push _).toList = _
        rw [Array.toList_push, h, Ir.Slot.numbered_concat, hSize]
        rfl
      rw [List.foldl_cons, ih hNext]
      simp

theorem addSlots_slots {fields : List (ClassId × FieldDecl)}
    (h : layout.slots.toList = Ir.Slot.numbered fields) :
    (addSlots layout decl).slots.toList = Ir.Slot.numbered (fields ++ decl.ownFields) :=
  foldl_addSlot decl.fields h

private theorem foldl_addSlots :
    ∀ (decls : List ClassDecl) {layout : Ir.ClassLayout} {fields : List (ClassId × FieldDecl)},
      layout.slots.toList = Ir.Slot.numbered fields →
      (decls.foldl addSlots layout).slots.toList =
        Ir.Slot.numbered (fields ++ decls.flatMap ClassDecl.ownFields) := by
  intro decls
  induction decls with
  | nil =>
      intro layout fields h
      simpa using h
  | cons decl rest ih =>
      intro layout fields h
      rw [List.foldl_cons, ih (addSlots_slots h), List.flatMap_cons, List.append_assoc]

theorem addMember_slots (member : CallableDecl) :
    (addMember layout member).slots = layout.slots := by
  unfold addMember
  split <;> rfl

theorem addMember_parent (member : CallableDecl) :
    (addMember layout member).parent = layout.parent := by
  unfold addMember
  split <;> rfl

/-- **A layout holds the fields of the lineage**, numbered in order. -/
theorem layoutOf_slots (t : SymbolTable) (decl : ClassDecl) :
    (t.layoutOf decl).slots.toList = Ir.Slot.numbered (t.heldFields decl) := by
  have hStart : (Ir.ClassLayout.start decl.id).slots.toList = Ir.Slot.numbered [] := rfl
  rw [layoutOf, foldl_keeps fun _ => addMember_slots]
  exact foldl_addSlots (t.lineage decl) hStart

theorem layoutOf_parent (t : SymbolTable) (decl : ClassDecl) :
    (t.layoutOf decl).parent = parentOf decl := by
  rw [layoutOf, foldl_keeps fun _ => addMember_parent]

/-- The slot at a position is that of the field there. -/
theorem getElem?_slots (t : SymbolTable) (decl : ClassDecl) (n : Nat) :
    (t.layoutOf decl).slots[n]? = (t.heldFields decl)[n]?.map (Ir.Slot.ofField n) := by
  rw [← Array.getElem?_toList, layoutOf_slots, Ir.Slot.numbered, List.getElem?_mapIdx]

/-! ## Inherited slots -/

theorem heldFields_of_extends (hMem : child ∈ t.classes) (hGrounded : t.Grounded child)
    (h : t.Extends child parent) :
    t.heldFields child = t.heldFields parent ++ child.ownFields := by
  rw [heldFields, lineage_of_extends hMem hGrounded h, List.flatMap_append, heldFields]
  simp

/-- The slots of the superclass come first, and the class's own fields follow in order. -/
theorem slots_of_extends (hMem : child ∈ t.classes) (hGrounded : t.Grounded child)
    (h : t.Extends child parent) :
    ∃ own, (t.layoutOf child).slots.toList = (t.layoutOf parent).slots.toList ++ own ∧
      own.map (fun slot => (slot.owner, slot.name, slot.type)) =
        child.fields.map fun field => (child.id, field.name, field.type) := by
  refine ⟨child.ownFields.mapIdx fun n => Ir.Slot.ofField (n + (t.heldFields parent).length),
    ?_, ?_⟩
  · rw [layoutOf_slots, heldFields_of_extends hMem hGrounded h, Ir.Slot.numbered_append,
      ← layoutOf_slots]
  · apply List.ext_getElem?
    intro n
    simp [ClassDecl.ownFields, Ir.Slot.ofField, List.getElem?_mapIdx, Function.comp_def]

/-- A slot of any superclass is a slot of the class, at the same position. -/
theorem slot_of_descends {ancestor : ClassDecl} (hMem : child ∈ t.classes)
    (hGrounded : t.Grounded child) (h : ReflTransGen t.Extends child ancestor) {n : Nat}
    {slot : Ir.Slot} (hSlot : (t.layoutOf ancestor).slots[n]? = some slot) :
    (t.layoutOf child).slots[n]? = some slot := by
  induction h using ReflTransGen.head_induction_on with
  | refl => exact hSlot
  | @head child parent hExtends hRest ih =>
      have hParent := ih hExtends.mem (hGrounded.of_extends hExtends)
      obtain ⟨own, hSlots, _⟩ := slots_of_extends hMem hGrounded hExtends
      rw [← Array.getElem?_toList] at hParent ⊢
      have hInside := (List.getElem?_eq_some_iff.1 hParent).1
      rw [hSlots, List.getElem?_append_left hInside]
      exact hParent

/-! ## Owners of slots -/

theorem mem_heldFields {field : ClassId × FieldDecl} :
    field ∈ t.heldFields decl ↔ ∃ owner ∈ t.lineage decl, field ∈ owner.ownFields :=
  List.mem_flatMap

/-- A slot belongs to a class of the lineage that declares fields. -/
theorem exists_owner_of_slot {n : Nat} {slot : Ir.Slot}
    (h : (t.layoutOf decl).slots[n]? = some slot) :
    ∃ owner ∈ t.lineage decl, owner.id = slot.owner ∧ owner.fields ≠ [] := by
  rw [getElem?_slots] at h
  obtain ⟨field, hField, rfl⟩ := Option.map_eq_some_iff.1 h
  obtain ⟨owner, hOwner, hOwn⟩ := mem_heldFields.1 (List.mem_of_getElem? hField)
  obtain ⟨declared, hDeclared, rfl⟩ := List.mem_map.1 hOwn
  exact ⟨owner, hOwner, rfl, List.ne_nil_of_mem hDeclared⟩

/-- A class of the lineage has slots exactly if it declares fields. -/
theorem isEmpty_declaredBy {owner : ClassDecl} (hOwner : owner ∈ t.lineage decl) :
    ((t.layoutOf decl).declaredBy owner.id).isEmpty = owner.fields.isEmpty := by
  rw [Bool.eq_iff_iff, List.isEmpty_iff, List.isEmpty_iff, List.eq_nil_iff_forall_not_mem]
  constructor
  · intro hNone
    refine List.eq_nil_iff_forall_not_mem.2 fun field hField => ?_
    have hHeld : (owner.id, field) ∈ t.heldFields decl :=
      mem_heldFields.2 ⟨owner, hOwner, List.mem_map_of_mem hField⟩
    obtain ⟨n, hPosition⟩ := List.getElem?_of_mem hHeld
    refine hNone (.ofField n (owner.id, field)) (Ir.ClassLayout.mem_declaredBy.2 ⟨⟨n, ?_⟩, rfl⟩)
    rw [getElem?_slots, hPosition]
    rfl
  · intro hNone slot hSlot
    obtain ⟨⟨n, hPosition⟩, hId⟩ := Ir.ClassLayout.mem_declaredBy.1 hSlot
    obtain ⟨other, hOther, hSame, hFields⟩ := exists_owner_of_slot hPosition
    have hEq : other = owner :=
      List.inj_on_of_nodup_map (t.lineage_nodup decl) hOther hOwner (hSame.trans hId)
    rw [hEq] at hFields
    exact hFields hNone

/-! ## Superclass and constructor -/

/-- Only the root class's layout has no superclass. -/
theorem layoutOf_parent_eq_none_iff (t : SymbolTable) (decl : ClassDecl) :
    (t.layoutOf decl).parent = none ↔ decl.id = rootClass := by
  rw [layoutOf_parent, parentOf]
  simp

theorem addSlots_constructor (decl : ClassDecl) :
    (addSlots layout decl).constructor = layout.constructor := by
  refine foldl_keeps (V := Ir.ClassLayout.constructor) ?_ decl.fields
  intro layout field
  rfl

private theorem foldl_addMember_constructor :
    ∀ (members : List CallableDecl) {layout : Ir.ClassLayout},
      (members.foldl addMember layout).constructor =
        (members.filter CallableDecl.isConstructor).foldl (fun _ member => some member.id)
          layout.constructor := by
  intro members
  induction members with
  | nil => intro layout; rfl
  | cons member rest ih =>
      intro layout
      rw [List.foldl_cons, ih, addMember]
      by_cases hKind : member.isConstructor = true
      · rw [if_pos hKind, List.filter_cons_of_pos hKind]
        rfl
      · rw [if_neg hKind, List.filter_cons_of_neg hKind]

/-- The constructor of a layout is the last one among the members of the class. -/
theorem layoutOf_constructor (t : SymbolTable) (decl : ClassDecl) :
    (t.layoutOf decl).constructor =
      ((t.membersOf decl.id).filter CallableDecl.isConstructor).foldl
        (fun _ member => some member.id) none := by
  have hStart : ((t.lineage decl).foldl addSlots (.start decl.id)).constructor = none :=
    foldl_keeps (V := Ir.ClassLayout.constructor) (fun _ => addSlots_constructor) _
  rw [layoutOf, foldl_addMember_constructor, hStart]

end SymbolTable

/-! ## Layouts of a program -/

/-- Where no class has two layouts, a lookup finds the one there is. -/
theorem Ir.Module.class?_eq_some_iff {m : Ir.Module} {id : ClassId} {layout : Ir.ClassLayout}
    (hNodup : (m.classes.map Ir.ClassLayout.id).Nodup) :
    m.class? id = some layout ↔ layout ∈ m.classes ∧ layout.id = id := by
  rw [class?_eq_find?]
  exact SymbolTable.find?_reverse_key_eq_some_iff hNodup

/-- Where no callable has two bodies, a lookup finds the one there is. -/
theorem Ir.Module.body?_eq_some_iff {m : Ir.Module} {callable : CallableId} {body : Ir.Body}
    (hNodup : (m.bodies.map Ir.Body.callable).Nodup) :
    m.body? callable = some body ↔ body ∈ m.bodies ∧ body.callable = callable := by
  rw [body?_eq_find?]
  exact SymbolTable.find?_reverse_key_eq_some_iff hNodup

/-- **A lowered program has the layout of every class of the table**, and no other. -/
theorem Resolver.IsLowering.class?_eq {r : Resolver} {program : Program}
    (h : r.IsLowering program) (id : ClassId) :
    program.module.class? id = (r.symbols.class? id).map r.symbols.layoutOf := by
  apply Option.ext
  intro layout
  rw [Ir.Module.class?_eq_some_iff h.layouts_nodup, h.layouts, Option.map_eq_some_iff]
  constructor
  · rintro ⟨hMem, rfl⟩
    obtain ⟨decl, hDecl, rfl⟩ := List.mem_map.1 hMem
    rw [SymbolTable.layoutOf_id]
    exact ⟨decl, SymbolTable.class?_eq_some_iff.2 ⟨hDecl, rfl⟩, rfl⟩
  · rintro ⟨decl, hDecl, rfl⟩
    obtain ⟨hMem, hId⟩ := SymbolTable.class?_eq_some_iff.1 hDecl
    exact ⟨List.mem_map_of_mem hMem, (SymbolTable.layoutOf_id _ _).trans hId⟩

/-- **The layout of a class extends that of its superclass.**  The climb to the superclasses comes
to its end for every class, and lists none twice.  Where it does not come round, the slots of
the superclass are the first slots of the class, and the class's own fields follow in order; so
whatever slot any superclass has at a position, the class has it there too.  Only the root
class's layout has no superclass.  These are the layouts of every lowered program. -/
theorem slots_extend_superclass (t : SymbolTable) :
    (∀ decl, t.Climbs [decl] decl.supertype (t.lineage decl) ∧
      ((t.lineage decl).map ClassDecl.id).Nodup) ∧
    (∀ child ∈ t.classes, t.Grounded child →
      (∀ parent, t.Extends child parent →
        ∃ own, (t.layoutOf child).slots.toList = (t.layoutOf parent).slots.toList ++ own ∧
          own.map (fun slot => (slot.owner, slot.name, slot.type)) =
            child.fields.map fun field => (child.id, field.name, field.type)) ∧
      ∀ ancestor, ReflTransGen t.Extends child ancestor → ∀ (n : Nat) (slot : Ir.Slot),
        (t.layoutOf ancestor).slots[n]? = some slot →
        (t.layoutOf child).slots[n]? = some slot) ∧
    (∀ decl, (t.layoutOf decl).parent = none ↔ decl.id = rootClass) ∧
    ∀ (r : Resolver) (program : Program), r.symbols = t → r.lower = .ok program →
      program.module.classes = t.classes.map t.layoutOf ∧
        ∀ id, program.module.class? id = (t.class? id).map t.layoutOf := by
  refine ⟨fun decl => ⟨t.climbs_lineage decl, t.lineage_nodup decl⟩, ?_,
    t.layoutOf_parent_eq_none_iff, ?_⟩
  · intro child hMem hGrounded
    exact ⟨fun parent hExtends => SymbolTable.slots_of_extends hMem hGrounded hExtends,
      fun ancestor hDescends n slot hSlot =>
        SymbolTable.slot_of_descends hMem hGrounded hDescends hSlot⟩
  · rintro r program rfl hLower
    have hLowering := Resolver.lower_eq_ok_iff.1 hLower
    exact ⟨hLowering.layouts, hLowering.class?_eq⟩

/-! ## A sample -/

namespace Catalogue.Tower

/-- The key of the sample. -/
def key : Key := ⟨0, "tower"⟩

/-- A class of the sample. -/
def classNamed (name : String) : ClassId := ⟨⟨[⟨"tower"⟩]⟩, ⟨name⟩⟩

/-- The declaration of a class of the sample. -/
def spec (name : String) (supertype : Option String) (fields : List Typed) : ClassEntry :=
  ⟨classNamed name, none, [],
    some ⟨classNamed name, supertype.map classNamed, fields, .generated key, .synthetic⟩⟩

/-- A constructor without parameters. -/
def constructor (name : String) : MemberEntry :=
  ⟨classNamed name, .init, none, .constructor, [], .named (.classLike (classNamed name)),
    .generated key, .synthetic⟩

/-- What the outermost class is declared as. -/
def base : ClassDecl :=
  ⟨classNamed "Base", none,
    [⟨⟨"x"⟩, Primitive.number.typeId⟩, ⟨⟨"y"⟩, Primitive.string.typeId⟩], .generated key,
    .synthetic⟩

/-- What its subclass is declared as, which has no field of its own. -/
def middle : ClassDecl :=
  ⟨classNamed "Middle", some (classNamed "Base"), [], .generated key, .synthetic⟩

/-- What the innermost class is declared as. -/
def top : ClassDecl :=
  ⟨classNamed "Top", some (classNamed "Middle"), [⟨⟨"z"⟩, Primitive.boolean.typeId⟩],
    .generated key, .synthetic⟩

/-- Runs the constructor of the superclass and resets the class's own fields. -/
def body (decl : ClassDecl) : Ir.Body where
  callable := .constructorOf decl.id
  params := [⟨0, TypeTable.unknown⟩]
  returns := TypeTable.unknown
  blocks :=
    [⟨⟨0⟩, none,
      [.delegate ⟨0, TypeTable.unknown⟩ (.constructorOf decl.superclass) [],
        .initFields ⟨0, TypeTable.unknown⟩ decl.id], .ret none⟩]
  entry := ⟨0⟩
  span := .synthetic

/-- Bodies for the constructors. -/
def bodies : BodyProvider where
  responsible owner := owner == some key
  functionBody callable _ _ := .error (.unrecognizedCallable callable.id.text)
  constructorBody callable _ view :=
    match callable.id.owner.bind view.symbols.class? with
    | some decl => .ok (body decl)
    | none => .error (.unrecognizedCallable callable.id.text)

end Catalogue.Tower

/-- Three classes on top of each other. -/
def Catalogue.tower : Catalogue where
  classes :=
    [Tower.spec "Base" none
        [⟨[⟨"x"⟩], .named (.primitive .number)⟩, ⟨[⟨"y"⟩], .named (.primitive .string)⟩],
      Tower.spec "Middle" (some "Base") [],
      Tower.spec "Top" (some "Middle") [⟨[⟨"z"⟩], .named (.primitive .boolean)⟩]]
  members := [Tower.constructor "Base", Tower.constructor "Middle", Tower.constructor "Top"]
  namespaces := none
  topLevel := none
  names := []

/-- The sample with its classes and their constructors declared. -/
def Resolver.tower : Resolver :=
  let resolve (r : Resolver) (name : String) : Resolver :=
    ((r.resolveClass (Catalogue.Tower.classNamed name)).2.resolveMember
      (Catalogue.Tower.classNamed name) .init).2
  ["Base", "Middle", "Top"].foldl resolve
    (start "main" ⟨[Catalogue.tower.provider], [Catalogue.Tower.bodies]⟩)

/-- What the sample is lowered to. -/
def Program.tower : Program where
  types := Resolver.tower.types
  symbols := Resolver.tower.symbols
  module :=
    { name := "main"
      bodies := [Catalogue.Tower.base, Catalogue.Tower.middle, Catalogue.Tower.top].map
        Catalogue.Tower.body
      classes := Resolver.tower.symbols.classes.map Resolver.tower.symbols.layoutOf }

namespace Catalogue.Tower

theorem lower_eq : Resolver.tower.lower = .ok Program.tower := rfl

theorem classes_eq : Resolver.tower.symbols.classes = [rootDecl, base, middle, top] := rfl

theorem top_extends : Resolver.tower.symbols.Extends top middle := ⟨middle.id, rfl, rfl⟩

theorem middle_extends : Resolver.tower.symbols.Extends middle base := ⟨base.id, rfl, rfl⟩

theorem base_alone (parent : ClassDecl) : ¬ Resolver.tower.symbols.Extends base parent :=
  fun ⟨_, hSuper, _⟩ => nomatch hSuper

end Catalogue.Tower

/-- The two inner classes of the sample, and the program it makes up. -/
theorem tower_slots :
    let t := Resolver.tower.symbols
    let top := Catalogue.Tower.top
    let middle := Catalogue.Tower.middle
    top ∈ t.classes ∧ t.Grounded top ∧ t.Extends top middle ∧
      (∃ own, (t.layoutOf top).slots.toList = (t.layoutOf middle).slots.toList ++ own ∧
        own.map (fun slot => (slot.owner, slot.name, slot.type)) =
          top.fields.map fun field => (top.id, field.name, field.type)) ∧
      Resolver.tower.lower = .ok Program.tower ∧
      Program.tower.module.class? top.id = (t.class? top.id).map t.layoutOf := by
  intro t top middle
  have hTop : top ∈ t.classes := by simp [t, Catalogue.Tower.classes_eq, top]
  have hAbove : t.Above Catalogue.Tower.base [] := .top Catalogue.Tower.base_alone
  have hGrounded : t.Grounded top := (SymbolTable.Above.step Catalogue.Tower.top_extends
    (.step Catalogue.Tower.middle_extends hAbove)).grounded
  obtain ⟨_, hSlots, _, hPrograms⟩ := slots_extend_superclass t
  have hLower := Catalogue.Tower.lower_eq
  exact ⟨hTop, hGrounded, Catalogue.Tower.top_extends,
    (hSlots top hTop hGrounded).1 middle Catalogue.Tower.top_extends, hLower,
    (hPrograms _ _ rfl hLower).2 top.id⟩

end TwoPhase
