import TwoPhase.Proofs.Machine.Fields
import TwoPhase.Proofs.Machine.Session
import TwoPhase.Proofs.Resolver.Step

/-!
# Construction along a hierarchy

A constructor of the usual form runs that of its superclass first and resets the fields of its own
class afterwards.  So constructors are entered from the class up to the root class, and fields
are reset from the outermost class down.  Calls nest, one for each class, and the depth is limited.

## Strategy

`Hierarchy` lists classes with such constructors, from a class up, and the induction is on it.  One
call either comes back with the superclass part of the object built, and the initializer finishes
the object (`invoke_of_hierarchy`), or it is refused for its depth, and the error passes through
every class that was entered (`overflow_of_hierarchy`).  What is left is about the layout: every
slot belongs to a class of the hierarchy, and it has slots of exactly those that declare fields.

## Main results

* `invoke_of_hierarchy`, `overflow_of_hierarchy` — a call of the first constructor.
* `construct_of_hierarchy` — the object, and what can be observed while it is made.
* `construct_along_hierarchy` — where the limit is.
-/

namespace TwoPhase

open Ir (Body)

/-! ## One constructor -/

/-- The code of a constructor that runs another one on its object and then resets the fields that
a class declares. -/
def Ir.Body.Delegates (b : Body) (target : CallableId) (id : ClassId) : Prop :=
  ∃ this block, b.params = [this] ∧ b.block? b.entry = some block ∧
    block.instrs = [.delegate this target [], .initFields this id] ∧ block.terminator = .ret none

namespace Program

variable {p : Program} {b : Body} {callable target : CallableId} {id : ClassId} {fuel : Nat}
  {ref : ObjectRef} {m next last : Machine}

/-- A call of a callable with a body turns to the body one level deeper. -/
theorem invoke_eq_runBody {args : List Value} (hDepth : m.depth < Machine.maxDepth)
    (hAnnounce : announce callable m = some (.ok (), next))
    (hOwn : isRootConstructor callable = false) (hBody : p.module.body? callable = some b) :
    p.invoke (fuel + 1) callable args m =
      Eval.nested (p.runBody (p.invoke fuel) fuel b args) next := by
  have hRead : Eval.depth m = some (.ok m.depth, m) := rfl
  rw [invoke, Eval.bind_of_ok hRead, if_neg (by omega), Eval.bind_of_ok hAnnounce,
    if_neg (by simp [hOwn]), hBody]
  rfl

/-- With as many arguments as parameters it runs the body. -/
theorem invoke_eq_nested {args : List Value} (hDepth : m.depth < Machine.maxDepth)
    (hAnnounce : announce callable m = some (.ok (), next))
    (hOwn : isRootConstructor callable = false) (hBody : p.module.body? callable = some b)
    (hCount : args.length = b.params.length) :
    p.invoke (fuel + 1) callable args m =
      Eval.nested (p.runFrom (p.invoke fuel) b fuel b.entry (.enter b args)) next := by
  rw [invoke_eq_runBody hDepth hAnnounce hOwn hBody, runBody, if_neg (not_not_intro hCount)]

/-- The object is at hand in the constructor's one parameter. -/
private theorem readObject_enter {this : Ir.Register} (hParams : b.params = [this]) :
    (Frame.enter b [.object ref]).readObject this = .ok ref := by
  simp [Frame.enter, hParams, Frame.readObject, Frame.read, Frame.write]

/-- What such code does. -/
theorem runFrom_of_delegates {call : CallableId → List Value → Eval Value}
    (hCode : b.Delegates target id) :
    p.runFrom call b (fuel + 1) b.entry (.enter b [.object ref]) = (do
      let _ ← call target [.object ref]
      p.initFields ref id
      return .null) := by
  obtain ⟨this, block, hParams, hBlock, hInstrs, hEnd⟩ := hCode
  have hThis : (Frame.enter b [.object ref]).readObject this = .ok ref := readObject_enter hParams
  have hFound : Eval.ofOption (.unreachable b.callable) (b.block? b.entry) = pure block := by
    rw [hBlock]
    rfl
  have hRead : Eval.ofExcept ((Frame.enter b [.object ref]).readObject this) = pure ref := by
    rw [hThis]
    rfl
  have hNone : Eval.ofExcept (([] : List Ir.Register).mapM (Frame.enter b [.object ref]).read) =
      pure [] := rfl
  rw [runFrom, hFound, pure_bind, hInstrs, hEnd]
  simp only [steps, step, hRead, hNone, pure_bind, bind_assoc]

/-- A class whose constructor has the usual form: it runs that of the superclass first. -/
structure Plain (p : Program) (decl : ClassDecl) : Prop where
  declared : p.symbols.class? decl.id = some decl
  ne_root : decl.id ≠ rootClass
  constructor : ∃ c, (p.symbols.membersOf decl.id).filter CallableDecl.isConstructor = [c] ∧
    c.id = .constructorOf decl.id
  code : ∃ b, p.module.body? (.constructorOf decl.id) = some b ∧
    b.Delegates (.constructorOf decl.superclass) decl.id

/-- A call of such a constructor. -/
theorem Plain.invoke_eq {decl : ClassDecl} (h : p.Plain decl)
    (hDepth : m.depth < Machine.maxDepth) :
    p.invoke (fuel + 2) (.constructorOf decl.id) [.object ref] m = Eval.nested (do
      let _ ← p.invoke (fuel + 1) (.constructorOf decl.superclass) [.object ref]
      p.initFields ref decl.id
      return .null)
      { m with events := m.events.push (.constructorEntered (.constructorOf decl.id)) } := by
  obtain ⟨b, hBody, hCode⟩ := h.code
  have hCount : [Value.object ref].length = b.params.length := by
    obtain ⟨this, _, hParams, _⟩ := hCode
    rw [hParams]
    rfl
  have hOwn : isRootConstructor (.constructorOf decl.id) = false := by
    have hOwner : (some decl.id == some rootClass) = false := by simpa using h.ne_root
    show (some decl.id == some rootClass && _) = false
    rw [hOwner, Bool.false_and]
  rw [invoke_eq_nested hDepth rfl hOwn hBody hCount, runFrom_of_delegates hCode]

/-! ## A hierarchy -/

/-- The class at the head of a hierarchy, which is the root class if there is no other. -/
def headClass : List ClassDecl → ClassId
  | [] => rootClass
  | decl :: _ => decl.id

/-- Classes with plain constructors, each in front of its superclass and the last one a subclass of
the root class. -/
inductive Hierarchy (p : Program) : List ClassDecl → Prop
  | root : Hierarchy p []
  | extend {decl : ClassDecl} {above : List ClassDecl} (hPlain : p.Plain decl)
      (hSuper : decl.superclass = headClass above) (hAbove : Hierarchy p above) :
      Hierarchy p (decl :: above)

theorem Hierarchy.plain {chain : List ClassDecl} (h : p.Hierarchy chain) :
    ∀ decl ∈ chain, p.Plain decl := by
  induction h with
  | root => nofun
  | extend hPlain _ _ ih =>
      intro decl hDecl
      rcases List.mem_cons.1 hDecl with rfl | hDecl
      · exact hPlain
      · exact ih decl hDecl

/-- The constructors of some classes are entered, one after the other. -/
def entered (chain : List ClassDecl) : List Event :=
  chain.map fun decl => .constructorEntered (.constructorOf decl.id)

/-- The fields of some classes are reset, those of the last class first. -/
def initialized (layout : Ir.ClassLayout) (chain : List ClassDecl) : List Event :=
  (chain.reverse.filter fun decl => !(layout.declaredBy decl.id).isEmpty).map
    fun decl => .fieldsInitialized decl.id

theorem initialized_cons (layout : Ir.ClassLayout) (decl : ClassDecl) (above : List ClassDecl) :
    initialized layout (decl :: above) = initialized layout above ++
      if (layout.declaredBy decl.id).isEmpty then [] else [.fieldsInitialized decl.id] := by
  unfold initialized
  rw [List.reverse_cons, List.filter_append, List.map_append]
  by_cases hNone : (layout.declaredBy decl.id).isEmpty = true
  · simp [hNone]
  · simp [hNone]

/-- Slots after the fields of some classes were reset, those of the last class first. -/
def builtSlots (p : Program) (layout : Ir.ClassLayout) (chain : List ClassDecl)
    (slots : Array Value) : Array Value :=
  chain.foldr (fun decl slots => fill slots (p.initialValues layout decl.id)) slots

theorem builtSlots_cons (layout : Ir.ClassLayout) (decl : ClassDecl) (above : List ClassDecl)
    (slots : Array Value) : p.builtSlots layout (decl :: above) slots =
      fill (p.builtSlots layout above slots) (p.initialValues layout decl.id) := rfl

@[simp] theorem size_builtSlots (layout : Ir.ClassLayout) (chain : List ClassDecl)
    (slots : Array Value) : (p.builtSlots layout chain slots).size = slots.size := by
  induction chain with
  | nil => rfl
  | cons decl above ih => rw [builtSlots_cons, size_fill, ih]

/-- What the constructors of some classes do to an object, and what can be observed. -/
structure Built (p : Program) (layout : Ir.ClassLayout) (chain : List ClassDecl) (ref : ObjectRef)
    (object : Object) (m m' : Machine) : Prop where
  heap : m'.heap = m.heap.setIfInBounds ref.index
    { object with slots := p.builtSlots layout chain object.slots }
  events : m'.events.toList = m.events.toList ++ entered chain ++
    [.constructorEntered (.constructorOf rootClass)] ++ initialized layout chain
  depth : m'.depth = m.depth

variable {layout : Ir.ClassLayout} {object : Object} {chain : List ClassDecl}

/-- The root class's constructor does nothing but let itself be seen. -/
theorem invoke_root (args : List Value) (hDepth : m.depth < Machine.maxDepth) :
    p.invoke (fuel + 1) (.constructorOf rootClass) args m = some (.ok .null,
      { m with events := m.events.push (.constructorEntered (.constructorOf rootClass)) }) := by
  have hRead : Eval.depth m = some (.ok m.depth, m) := rfl
  rw [invoke, Eval.bind_of_ok hRead, if_neg (by omega)]
  rfl

/-- **A call that stays within the limit comes back** with the object built. -/
theorem invoke_of_hierarchy (hChain : p.Hierarchy chain)
    (hKnown : ∀ decl ∈ chain, (p.module.class? decl.id).isSome = true)
    (hLayout : p.module.class? object.classId = some layout) (hNumbered : layout.Numbered)
    (hSize : object.slots.size = layout.slots.size) :
    ∀ {fuel : Nat} {m : Machine}, chain.length < fuel →
      m.depth + chain.length < Machine.maxDepth → m.heap[ref.index]? = some object →
      ∃ m', p.invoke fuel (.constructorOf (headClass chain)) [.object ref] m =
        some (.ok .null, m') ∧ p.Built layout chain ref object m m' := by
  induction hChain with
  | root =>
      intro fuel m hFuel hDepth hObject
      cases fuel with
      | zero => cases hFuel
      | succ fuel =>
          refine ⟨_, invoke_root _ hDepth, ?_, ?_, rfl⟩
          · exact (setIfInBounds_self hObject).symm
          · simp [entered, initialized]
  | @extend decl above hPlain hSuper hAbove ih =>
      intro fuel m hFuel hDepth hObject
      rw [List.length_cons] at hFuel hDepth
      obtain ⟨fuel, rfl⟩ : ∃ less, fuel = less + 2 := ⟨fuel - 2, by omega⟩
      have hInside : ref.index < m.heap.size := (Array.getElem?_eq_some_iff.1 hObject).1
      let inside : Machine :=
        ⟨m.heap, m.events.push (.constructorEntered (.constructorOf decl.id)), m.depth + 1⟩
      let half : Object := { object with slots := p.builtSlots layout above object.slots }
      -- the superclass part of the object is built one call deeper
      have hDeeper : inside.depth + above.length < Machine.maxDepth := by
        show m.depth + 1 + above.length < Machine.maxDepth
        omega
      obtain ⟨next, hCall, hBuilt⟩ := ih (fun other hOther => hKnown other (.tail decl hOther))
        (show above.length < fuel + 1 by omega) hDeeper hObject
      rw [← hSuper] at hCall
      have hHalf : next.heap[ref.index]? = some half := by
        rw [hBuilt.heap, Array.getElem?_setIfInBounds, if_pos rfl, if_pos hInside]
      have hReset := initFields_eq (hKnown decl List.mem_cons_self) hHalf hLayout hNumbered
        ((size_builtSlots layout above object.slots).trans hSize)
      have hRun : p.invoke (fuel + 2) (.constructorOf decl.id) [.object ref] m = some (.ok .null,
          { p.reset layout decl.id ref half next with depth := next.depth - 1 }) := by
        rw [hPlain.invoke_eq (by omega)]
        refine Eval.nested_eq_some_iff.2 ⟨p.reset layout decl.id ref half next, ?_, rfl⟩
        rw [Eval.bind_of_ok hCall, Eval.bind_of_ok hReset]
        rfl
      refine ⟨_, hRun, ?_, ?_, ?_⟩
      · show next.heap.setIfInBounds ref.index _ = _
        rw [hBuilt.heap, Array.setIfInBounds_setIfInBounds]
        rfl
      · have hEvents : next.events.toList = m.events.toList ++ entered (decl :: above) ++
            [.constructorEntered (.constructorOf rootClass)] ++ initialized layout above := by
          rw [hBuilt.events]
          simp [inside, entered]
        show (if (layout.declaredBy decl.id).isEmpty then next.events
          else next.events.push (.fieldsInitialized decl.id)).toList = _
        rw [initialized_cons, ← List.append_assoc, ← hEvents]
        by_cases hNone : (layout.declaredBy decl.id).isEmpty = true
        · rw [if_pos hNone, if_pos hNone, List.append_nil]
        · rw [if_neg hNone, if_neg hNone, Array.toList_push]
      · show next.depth - 1 = m.depth
        rw [hBuilt.depth]
        exact Nat.add_sub_cancel m.depth 1

/-- At the limit every call is refused. -/
theorem invoke_refused (args : List Value) (hDepth : Machine.maxDepth ≤ m.depth) :
    p.invoke (fuel + 1) callable args m = some (.error .stackOverflow, m) := by
  have hRead : Eval.depth m = some (.ok m.depth, m) := rfl
  rw [invoke, Eval.bind_of_ok hRead, if_pos hDepth]
  rfl

/-- **A call that goes beyond the limit is refused** there, and the error comes all the way back. -/
theorem overflow_of_hierarchy (hChain : p.Hierarchy chain) :
    ∀ {fuel : Nat} {m : Machine}, Machine.maxDepth < m.depth + fuel →
      m.depth ≤ Machine.maxDepth → Machine.maxDepth ≤ m.depth + chain.length →
      ∃ m', p.invoke fuel (.constructorOf (headClass chain)) [.object ref] m =
          some (.error .stackOverflow, m') ∧ m'.heap = m.heap ∧ m'.depth = m.depth ∧
        m'.events.toList = m.events.toList ++
          entered (chain.take (Machine.maxDepth - m.depth)) := by
  induction hChain with
  | root =>
      intro fuel m hFuel hDepth hOver
      obtain ⟨fuel, rfl⟩ : ∃ less, fuel = less + 1 := ⟨fuel - 1, by omega⟩
      exact ⟨m, invoke_refused _ hOver, rfl, rfl, by simp [entered]⟩
  | @extend decl above hPlain hSuper hAbove ih =>
      intro fuel m hFuel hDepth hOver
      rw [List.length_cons] at hOver
      by_cases hHere : m.depth = Machine.maxDepth
      · obtain ⟨fuel, rfl⟩ : ∃ less, fuel = less + 1 := ⟨fuel - 1, by omega⟩
        refine ⟨m, invoke_refused _ (by omega), rfl, rfl, ?_⟩
        simp [hHere, entered]
      · obtain ⟨fuel, rfl⟩ : ∃ less, fuel = less + 2 := ⟨fuel - 2, by omega⟩
        let inside : Machine :=
          ⟨m.heap, m.events.push (.constructorEntered (.constructorOf decl.id)), m.depth + 1⟩
        have hInside : inside.depth = m.depth + 1 := rfl
        have hEnough : Machine.maxDepth < inside.depth + (fuel + 1) := by omega
        obtain ⟨next, hCall, hHeap, hBack, hEvents⟩ := ih hEnough (by omega) (by omega)
        rw [← hSuper] at hCall
        refine ⟨{ next with depth := next.depth - 1 }, ?_, hHeap, ?_, ?_⟩
        · rw [headClass, hPlain.invoke_eq (by omega)]
          exact Eval.nested_eq_some_iff.2 ⟨next, Eval.bind_of_error hCall, rfl⟩
        · show next.depth - 1 = m.depth
          omega
        · have hTake : Machine.maxDepth - m.depth = Machine.maxDepth - inside.depth + 1 := by omega
          show next.events.toList = _
          rw [hEvents, hTake, List.take_succ_cons]
          simp [inside, entered]

/-! ## The layout of a hierarchy -/

section Layout

variable {leaf : ClassDecl} {above : List ClassDecl}

/-- Above a class of a hierarchy are the other classes, and the root class if it is named. -/
theorem Hierarchy.exists_above (hRoot : p.symbols.class? rootClass = some rootDecl)
    (h : p.Hierarchy chain) :
    ∀ {leaf : ClassDecl} {above : List ClassDecl}, chain = leaf :: above →
      ∃ tops, (∀ decl ∈ tops, decl = rootDecl) ∧ p.symbols.Above leaf (tops ++ above.reverse) := by
  induction h with
  | root => nofun
  | @extend decl above hPlain hSuper hAbove ih =>
      intro leaf rest hEq
      cases hEq
      cases hNamed : decl.supertype with
      | none =>
          -- the class extends the root class without naming it
          rw [ClassDecl.superclass, hNamed] at hSuper
          cases above with
          | nil =>
              refine ⟨[], nofun, .top ?_⟩
              rintro parent ⟨id, hSupertype, _⟩
              cases hNamed.symm.trans hSupertype
          | cons parent above =>
              exact absurd hSuper.symm (hAbove.plain parent List.mem_cons_self).ne_root
      | some id =>
          rw [ClassDecl.superclass, hNamed] at hSuper
          have hId : id = headClass above := hSuper
          cases above with
          | nil =>
              have hExtends : p.symbols.Extends decl rootDecl := ⟨id, hNamed, hId ▸ hRoot⟩
              have hTop : p.symbols.Above rootDecl [] := .top fun _ ⟨_, hNone, _⟩ => nomatch hNone
              exact ⟨[rootDecl], fun _ h => List.mem_singleton.1 h, .step hExtends hTop⟩
          | cons parent above =>
              have hParent := (hAbove.plain parent List.mem_cons_self).declared
              have hExtends : p.symbols.Extends decl parent := ⟨id, hNamed, hId ▸ hParent⟩
              obtain ⟨tops, hTops, hRest⟩ := ih rfl
              refine ⟨tops, hTops, ?_⟩
              rw [List.reverse_cons, ← List.append_assoc]
              exact .step hExtends hRest

/-- So its lineage consists of the hierarchy and classes without fields. -/
theorem Hierarchy.lineage_eq (hRoot : p.symbols.class? rootClass = some rootDecl)
    (h : p.Hierarchy (leaf :: above)) :
    ∃ tops, (∀ decl ∈ tops, decl.fields = []) ∧
      p.symbols.lineage leaf = tops ++ (leaf :: above).reverse := by
  obtain ⟨tops, hTops, hAbove⟩ := h.exists_above hRoot rfl
  have hMem := (SymbolTable.class?_eq_some_iff.1
    (h.plain leaf List.mem_cons_self).declared).1
  refine ⟨tops, fun decl hDecl => by rw [hTops decl hDecl]; rfl, ?_⟩
  rw [SymbolTable.lineage_of_above hMem hAbove, List.reverse_cons, List.append_assoc]

/-- The initializers that can be observed are those of the classes that declare fields. -/
theorem Hierarchy.initialized_eq (hRoot : p.symbols.class? rootClass = some rootDecl)
    (h : p.Hierarchy (leaf :: above)) :
    initialized (p.symbols.layoutOf leaf) (leaf :: above) =
      ((leaf :: above).reverse.filter fun decl => !decl.fields.isEmpty).map
        fun decl => .fieldsInitialized decl.id := by
  obtain ⟨tops, _, hLineage⟩ := h.lineage_eq hRoot
  unfold initialized
  congr 1
  refine List.filter_congr fun decl hDecl => ?_
  have hOwner : decl ∈ p.symbols.lineage leaf := by
    rw [hLineage]
    exact List.mem_append_right tops hDecl
  rw [SymbolTable.isEmpty_declaredBy hOwner]

/-- Every slot belongs to a class of the hierarchy. -/
theorem Hierarchy.owner_mem (hRoot : p.symbols.class? rootClass = some rootDecl)
    (h : p.Hierarchy (leaf :: above)) {n : Nat} {slot : Ir.Slot}
    (hSlot : (p.symbols.layoutOf leaf).slots[n]? = some slot) :
    slot.owner ∈ (leaf :: above).map ClassDecl.id := by
  obtain ⟨tops, hTops, hLineage⟩ := h.lineage_eq hRoot
  obtain ⟨owner, hOwner, hId, hFields⟩ := SymbolTable.exists_owner_of_slot hSlot
  rw [hLineage, List.mem_append, List.mem_reverse] at hOwner
  rcases hOwner with hTop | hChain
  · exact absurd (hTops owner hTop) hFields
  · exact List.mem_map.2 ⟨owner, hChain, hId⟩

/-- A slot that belongs to one of the classes holds the value it starts with. -/
theorem getElem?_builtSlots (hNumbered : layout.Numbered)
    (hLimit : layout.slots.size ≤ Ir.Slot.maxIndex + 1) {slots : Array Value}
    (hSize : slots.size = layout.slots.size) {n : Nat} {slot : Ir.Slot}
    (hSlot : layout.slots[n]? = some slot) :
    ∀ {chain : List ClassDecl}, slot.owner ∈ chain.map ClassDecl.id →
      (p.builtSlots layout chain slots)[n]? = some (Value.zeroOf p.types slot.type) := by
  intro chain
  induction chain with
  | nil => nofun
  | cons decl above ih =>
      intro hOwner
      have hFilled : (p.builtSlots layout above slots).size = layout.slots.size :=
        (size_builtSlots layout above slots).trans hSize
      rw [builtSlots_cons, getElem?_fill_initialValues hNumbered hLimit hFilled hSlot]
      by_cases hHere : slot.owner = decl.id
      · rw [if_pos hHere]
      · rw [if_neg hHere]
        exact ih (List.mem_of_ne_of_mem hHere hOwner)

theorem Plain.layout_constructor {decl : ClassDecl} (h : p.Plain decl) :
    (p.symbols.layoutOf decl).constructor = some (.constructorOf decl.id) := by
  obtain ⟨c, hOnly, hId⟩ := h.constructor
  rw [SymbolTable.layoutOf_constructor, hOnly, ← hId]
  rfl

end Layout

/-! ## Constructions -/

section Construct

variable {leaf : ClassDecl} {above : List ClassDecl}

/-- The layouts of a lowered program are those of its symbols. -/
theorem class?_of_lower {r : Resolver} (hLower : r.lower = .ok p) (id : ClassId) :
    p.module.class? id = (p.symbols.class? id).map p.symbols.layoutOf := by
  have hLowering := Resolver.lower_eq_ok_iff.1 hLower
  rw [hLowering.symbols]
  exact hLowering.class?_eq id

/-- The root class of a reachable resolver is the host's. -/
theorem class?_rootClass_of_lower {name : String} {extensions : Extensions} {r : Resolver}
    (hReachable : Resolver.Reachable name extensions r) (hLower : r.lower = .ok p) :
    p.symbols.class? rootClass = some rootDecl := by
  rw [(Resolver.lower_eq_ok_iff.1 hLower).symbols]
  exact hReachable.steps.grows.classes rfl

/-- A construction runs the constructor on a fresh object. -/
theorem construct_eq_invoke (hLayout : p.module.class? id = some layout)
    (hConstructor : layout.constructor = some callable) :
    p.construct fuel id m = (p.invoke fuel callable [.object ⟨m.heap.size⟩] >>= fun _ =>
      (pure ⟨m.heap.size⟩ : Eval ObjectRef)) (withFresh m layout id) := by
  rw [construct_eq fuel m hLayout, hConstructor]

/-- Writing to the object that was just made. -/
private theorem setIfInBounds_push (heap : Array Object) (fresh object : Object) :
    (heap.push fresh).setIfInBounds heap.size object = heap.push object := by
  apply Array.ext_getElem?
  intro n
  rw [Array.getElem?_setIfInBounds, Array.getElem?_push, Array.getElem?_push, Array.size_push]
  by_cases hn : heap.size = n
  · rw [if_pos hn, if_pos (by omega), if_pos hn.symm]
  · rw [if_neg hn, if_neg (Ne.symm hn), if_neg (Ne.symm hn)]

variable (hClasses : ∀ id, p.module.class? id = (p.symbols.class? id).map p.symbols.layoutOf)

include hClasses

/-- **A construction within the limit** enters the constructors from the class up and resets the
fields from the outermost class down. -/
theorem construct_of_hierarchy (hRoot : p.symbols.class? rootClass = some rootDecl)
    (hChain : p.Hierarchy (leaf :: above)) (hFuel : (leaf :: above).length < fuel)
    (hDepth : m.depth + (leaf :: above).length < Machine.maxDepth) :
    ∃ m' values, p.construct fuel leaf.id m = some (.ok ⟨m.heap.size⟩, m') ∧
      m'.heap = m.heap.push ⟨leaf.id, values⟩ ∧ m'.depth = m.depth ∧
      m'.events.toList = m.events.toList ++ entered (leaf :: above) ++
        [.constructorEntered (.constructorOf rootClass)] ++
        ((leaf :: above).reverse.filter fun decl => !decl.fields.isEmpty).map
          (fun decl => .fieldsInitialized decl.id) ∧
      values.size = (p.symbols.layoutOf leaf).slots.size ∧
      ((p.symbols.layoutOf leaf).slots.size ≤ Ir.Slot.maxIndex + 1 →
        ∀ (n : Nat) (slot : Ir.Slot), (p.symbols.layoutOf leaf).slots[n]? = some slot →
          values[n]? = some (Value.zeroOf p.types slot.type)) := by
  let layout := p.symbols.layoutOf leaf
  let fresh : Object := ⟨leaf.id, Array.replicate layout.slots.size .null⟩
  let ref : ObjectRef := ⟨m.heap.size⟩
  have hLeaf : p.Plain leaf := hChain.plain leaf List.mem_cons_self
  have hKnown : ∀ decl ∈ leaf :: above,
      p.module.class? decl.id = some (p.symbols.layoutOf decl) := by
    intro decl hDecl
    rw [hClasses, (hChain.plain decl hDecl).declared]
    rfl
  have hLayout : p.module.class? leaf.id = some layout := hKnown leaf List.mem_cons_self
  have hNumbered : layout.Numbered := SymbolTable.numbered_layoutOf _ leaf
  have hSize : fresh.slots.size = layout.slots.size := Array.size_replicate
  have hFresh : (withFresh m layout leaf.id).heap[ref.index]? = some fresh :=
    Array.getElem?_push_size
  have hWithin : (withFresh m layout leaf.id).depth + (leaf :: above).length < Machine.maxDepth :=
    hDepth
  obtain ⟨m', hCall, hBuilt⟩ := invoke_of_hierarchy hChain
    (fun decl hDecl => by rw [hKnown decl hDecl]; rfl) hLayout hNumbered hSize hFuel hWithin hFresh
  refine ⟨m', p.builtSlots layout (leaf :: above) fresh.slots, ?_, ?_, hBuilt.depth, ?_,
    (size_builtSlots _ _ _).trans hSize, ?_⟩
  · rw [construct_eq_invoke hLayout hLeaf.layout_constructor]
    exact Eval.bind_of_ok hCall
  · rw [hBuilt.heap]
    exact setIfInBounds_push m.heap fresh _
  · rw [hBuilt.events, hChain.initialized_eq hRoot]
    rfl
  · intro hLimit n slot hSlot
    exact getElem?_builtSlots hNumbered hLimit hSize hSlot (hChain.owner_mem hRoot hSlot)

/-- **A construction beyond the limit** is refused after the last constructor that may be
entered. -/
theorem construct_overflow_of_hierarchy (hChain : p.Hierarchy (leaf :: above))
    (hFuel : Machine.maxDepth < m.depth + fuel) (hDepth : m.depth ≤ Machine.maxDepth)
    (hOver : Machine.maxDepth ≤ m.depth + (leaf :: above).length) :
    ∃ m', p.construct fuel leaf.id m = some (.error .stackOverflow, m') ∧
      m'.heap = (withFresh m (p.symbols.layoutOf leaf) leaf.id).heap ∧ m'.depth = m.depth ∧
      m'.events.toList = m.events.toList ++
        entered ((leaf :: above).take (Machine.maxDepth - m.depth)) := by
  have hLeaf : p.Plain leaf := hChain.plain leaf List.mem_cons_self
  have hLayout : p.module.class? leaf.id = some (p.symbols.layoutOf leaf) := by
    rw [hClasses, hLeaf.declared]
    rfl
  obtain ⟨m', hCall, hHeap, hBack, hEvents⟩ :=
    overflow_of_hierarchy (m := withFresh m (p.symbols.layoutOf leaf) leaf.id) hChain hFuel hDepth
      hOver
  refine ⟨m', ?_, hHeap, hBack, hEvents⟩
  rw [construct_eq_invoke hLayout hLeaf.layout_constructor]
  exact Eval.bind_of_error hCall

end Construct

/-- **Construction along a hierarchy** of a lowered program, from any machine between calls.  With
up to 255 classes, the constructors are entered from the class up to the root class, then the
fields are reset from the outermost class down, and every slot holds what its field starts with.
With more classes the construction is refused when 256 constructors have been entered. -/
theorem construct_along_hierarchy {name : String} {extensions : Extensions} {r : Resolver}
    (hReachable : Resolver.Reachable name extensions r) (hLower : r.lower = .ok p)
    {leaf : ClassDecl} {above : List ClassDecl} (hChain : p.Hierarchy (leaf :: above))
    (hBetween : m.depth = 0) (hFuel : Machine.maxDepth < fuel) :
    ((leaf :: above).length ≤ 255 →
      ∃ m' values layout, p.construct fuel leaf.id m = some (.ok ⟨m.heap.size⟩, m') ∧
        m'.events.toList = m.events.toList ++ entered (leaf :: above) ++
          [.constructorEntered (.constructorOf rootClass)] ++
          ((leaf :: above).reverse.filter fun decl => !decl.fields.isEmpty).map
            (fun decl => .fieldsInitialized decl.id) ∧
        m'.heap = m.heap.push ⟨leaf.id, values⟩ ∧ m'.depth = 0 ∧
        p.module.class? leaf.id = some layout ∧ values.size = layout.slots.size ∧
        (layout.slots.size ≤ 65536 → ∀ (n : Nat) (slot : Ir.Slot),
          layout.slots[n]? = some slot →
          values[n]? = some (Value.zeroOf p.types slot.type))) ∧
    (256 ≤ (leaf :: above).length →
      ∃ m', p.construct fuel leaf.id m = some (.error .stackOverflow, m') ∧
        m'.events.toList = m.events.toList ++ entered ((leaf :: above).take 256) ∧
        (entered ((leaf :: above).take 256)).length = 256 ∧ m'.depth = 0) := by
  have hClasses := class?_of_lower hLower
  have hRoot := class?_rootClass_of_lower hReachable hLower
  have hMax : Machine.maxDepth = 256 := rfl
  constructor
  · intro hShort
    have hEnough : (leaf :: above).length < fuel := by omega
    have hWithin : m.depth + (leaf :: above).length < Machine.maxDepth := by omega
    obtain ⟨m', values, hConstruct, hHeap, hBack, hEvents, hSize, hValues⟩ :=
      construct_of_hierarchy hClasses hRoot hChain hEnough hWithin
    refine ⟨m', values, _, hConstruct, hEvents, hHeap, hBack.trans hBetween, ?_, hSize, hValues⟩
    rw [hClasses, (hChain.plain leaf List.mem_cons_self).declared]
    rfl
  · intro hLong
    have hEnough : Machine.maxDepth < m.depth + fuel := by omega
    have hBeyond : Machine.maxDepth ≤ m.depth + (leaf :: above).length := by omega
    obtain ⟨m', hConstruct, _, hBack, hEvents⟩ :=
      construct_overflow_of_hierarchy hClasses hChain hEnough (by omega) hBeyond
    refine ⟨m', hConstruct, ?_, ?_, hBack.trans hBetween⟩
    · rw [hEvents, hBetween]
      rfl
    · rw [entered, List.length_map, List.length_take]
      omega

/-! ## A sample -/

theorem tower_reachable :
    Resolver.Reachable "main" ⟨[Catalogue.tower.provider], [Catalogue.Tower.bodies]⟩
      Resolver.tower :=
  .tail (.tail (.tail (.tail (.tail (.single (.resolveClass _)) (.resolveMember _ .init))
    (.resolveClass _)) (.resolveMember _ .init)) (.resolveClass _)) (.resolveMember _ .init)

theorem tower_hierarchy :
    Program.tower.Hierarchy
      [Catalogue.Tower.top, Catalogue.Tower.middle, Catalogue.Tower.base] := by
  have hCode : ∀ decl : ClassDecl, (Catalogue.Tower.body decl).Delegates
      (.constructorOf decl.superclass) decl.id := fun decl => ⟨_, _, rfl, rfl, rfl, rfl⟩
  refine .extend ?_ rfl (.extend ?_ rfl (.extend ?_ rfl .root))
  · exact ⟨rfl, by decide, ⟨_, rfl, rfl⟩, ⟨_, rfl, hCode Catalogue.Tower.top⟩⟩
  · exact ⟨rfl, by decide, ⟨_, rfl, rfl⟩, ⟨_, rfl, hCode Catalogue.Tower.middle⟩⟩
  · exact ⟨rfl, by decide, ⟨_, rfl, rfl⟩, ⟨_, rfl, hCode Catalogue.Tower.base⟩⟩

/-- The innermost class of the sample is constructed; the class in the middle, which declares no
field, is entered and not initialized. -/
theorem tower_construction :
    let top := Catalogue.Tower.top
    let middle := Catalogue.Tower.middle
    let base := Catalogue.Tower.base
    Resolver.tower.lower = .ok Program.tower ∧ Program.tower.Hierarchy [top, middle, base] ∧
      Machine.start.depth = 0 ∧ Machine.maxDepth < 1000 ∧
      ∃ m' values, Program.tower.construct 1000 top.id Machine.start = some (.ok ⟨0⟩, m') ∧
        m'.heap = #[⟨top.id, values⟩] ∧
        m'.events.toList =
          [.constructorEntered (.constructorOf top.id),
            .constructorEntered (.constructorOf middle.id),
            .constructorEntered (.constructorOf base.id),
            .constructorEntered (.constructorOf rootClass), .fieldsInitialized base.id,
            .fieldsInitialized top.id] ∧
        values[0]? = some (.number .zero) ∧ values[1]? = some .null ∧
        values[2]? = some (.boolean false) := by
  intro top middle base
  have hLower := Catalogue.Tower.lower_eq
  have hFuel : Machine.maxDepth < 1000 := by decide
  obtain ⟨m', values, layout, hConstruct, hEvents, hHeap, _, hLayout, _, hValues⟩ :=
    (construct_along_hierarchy tower_reachable hLower tower_hierarchy (m := Machine.start) rfl
      hFuel).1 (by decide)
  have hSame : layout = Resolver.tower.symbols.layoutOf top := by
    rw [class?_of_lower hLower] at hLayout
    exact (Option.some.inj hLayout).symm
  subst hSame
  have hStart := hValues (by decide)
  exact ⟨hLower, tower_hierarchy, rfl, hFuel, m', values, hConstruct, hHeap, hEvents,
    hStart 0 _ rfl, hStart 1 _ rfl, hStart 2 _ rfl⟩

end Program
end TwoPhase
