import Mathlib.Data.Set.Basic
import TwoPhase.Proofs.Machine.Fields
import TwoPhase.Proofs.Machine.Moment

/-!
# Regions of the heap

A region is a set of references.  It is closed if no reference leads out of it: what the slots of
its objects refer to belongs to it as well.  A body whose registers refer into a closed region
can get hold of nothing else, so it works inside the region and leaves the rest of the heap alone.

## Strategy

`Effect` bounds what happens to a machine: objects outside the region stay as they are, and no
object changes its class or gains or loses a slot.  `Eval.Stays` says of a computation that it
keeps to this bound, whatever it ends with.  It is closed under sequencing, so for an instruction
it is read off the parts.  Stores rewire the very references that the region is closed under; they
keep it closed because the stored value comes from inside.  Moments inside a region
(`Moment.Inside`) are followed by moments inside it.

## Main results

* `stays_step` — an instruction works inside every closed region that its registers refer into.
* `Goes.stays`, `Leads.stays` — so do whole evaluations, at every moment.
-/

namespace TwoPhase

open Ir (Body Block BlockId Instr Register)

/-- A reference is nothing but a position. -/
theorem ObjectRef.eq_of_index {ref other : ObjectRef} (h : ref.index = other.index) :
    ref = other := by
  cases ref
  exact congrArg ObjectRef.mk h

/-- If the value is a reference, it belongs to the region. -/
def Value.Within (region : Set ObjectRef) (value : Value) : Prop :=
  ∀ {ref}, value = .object ref → ref ∈ region

/-- No reference leads out of the region. -/
def Closed (region : Set ObjectRef) (heap : Array Object) : Prop :=
  ∀ {ref object}, ref ∈ region → heap[ref.index]? = some object →
    ∀ value ∈ object.slots, value.Within region

/-- All registers of the frame refer into the region. -/
def Frame.Within (region : Set ObjectRef) (frame : Frame) : Prop :=
  ∀ entry ∈ frame.registers, entry.2.Within region

/-- What an object keeps as long as it exists: its class and the number of its slots. -/
def Object.shape (object : Object) : ClassId × Nat := (object.classId, object.slots.size)

/-- What may happen to a machine: outside the region nothing does, objects keep their shapes, and
events are recorded behind those that are there. -/
structure Effect (region : Set ObjectRef) (m m' : Machine) : Prop where
  outside : ∀ ref ∉ region, m'.heap[ref.index]? = m.heap[ref.index]?
  shapes : ∀ n : Nat, m'.heap[n]?.map Object.shape = m.heap[n]?.map Object.shape
  events : m.events.toList <+: m'.events.toList

variable {region : Set ObjectRef} {m m' m'' : Machine} {ref : ObjectRef}

theorem Effect.refl (m : Machine) : Effect region m m :=
  ⟨fun _ _ => rfl, fun _ => rfl, List.prefix_rfl⟩

theorem Effect.trans (h : Effect region m m') (h' : Effect region m' m'') :
    Effect region m m'' where
  outside ref hRef := (h'.outside ref hRef).trans (h.outside ref hRef)
  shapes n := (h'.shapes n).trans (h.shapes n)
  events := h.events.trans h'.events

/-- No object appears or disappears. -/
theorem Effect.eq_none_iff (h : Effect region m m') (n : Nat) :
    m'.heap[n]? = none ↔ m.heap[n]? = none := by
  rw [← Option.map_eq_none_iff (f := Object.shape), h.shapes n, Option.map_eq_none_iff]

/-- The heap keeps its size. -/
theorem Effect.size_eq (h : Effect region m m') : m'.heap.size = m.heap.size := by
  have hIff : ∀ n, m'.heap.size ≤ n ↔ m.heap.size ≤ n := by
    intro n
    rw [← Array.getElem?_eq_none_iff, ← Array.getElem?_eq_none_iff, h.eq_none_iff n]
  exact Nat.le_antisymm ((hIff _).2 le_rfl) ((hIff _).1 le_rfl)

/-- The depth of calls does not count. -/
theorem Effect.back (h : Effect region m m') : Effect region m m'.back :=
  ⟨h.outside, h.shapes, h.events⟩

theorem Effect.deeper (h : Effect region m m') : Effect region m m'.deeper :=
  ⟨h.outside, h.shapes, h.events⟩

/-! ## Values inside a region -/

theorem Value.within_of_ne_object {value : Value} (h : ∀ ref, value ≠ .object ref) :
    value.Within region := by
  intro ref hRef
  exact absurd hRef (h ref)

theorem Value.within_null : Value.null.Within region := by
  intro ref hRef
  cases hRef

theorem Value.within_object (h : ref ∈ region) : (Value.object ref).Within region := by
  intro other hOther
  cases hOther
  exact h

theorem Value.within_ofLiteral (l : Ir.Literal) : (Value.ofLiteral l).Within region := by
  refine within_of_ne_object fun ref => ?_
  cases l <;> exact nofun

theorem Value.within_zeroOf (types : TypeTable) (type : TypeId) :
    (Value.zeroOf types type).Within region := by
  refine within_of_ne_object fun ref => ?_
  rw [Value.zeroOf]
  split <;> exact nofun

namespace Frame

variable {frame : Frame} {register : Register} {value : Value}

theorem Within.read (h : frame.Within region) (hRead : frame.read register = .ok value) :
    value.Within region := by
  rw [Frame.read] at hRead
  cases hFound : frame.registers.lookup register.number with
  | none => rw [hFound] at hRead; cases hRead
  | some found =>
      rw [hFound] at hRead
      cases hRead
      obtain ⟨before, after, hSplit, _⟩ := List.lookup_eq_some_iff.1 hFound
      exact h (register.number, value) (by simp [hSplit])

theorem Within.readObject (h : frame.Within region) (hRead : frame.readObject register = .ok ref) :
    ref ∈ region := by
  rw [Frame.readObject] at hRead
  split at hRead
  · rename_i found hFound
    cases hRead
    exact h.read hFound rfl
  · cases hRead
  · cases hRead

theorem Within.readAll (h : frame.Within region) :
    ∀ (registers : List Register) {values : List Value},
      registers.mapM frame.read = .ok values → ∀ value ∈ values, value.Within region := by
  intro registers
  induction registers with
  | nil => intro values hRead; cases hRead; nofun
  | cons register rest ih =>
      intro values hRead
      rw [List.mapM_cons] at hRead
      cases hFirst : frame.read register with
      | error e => rw [hFirst] at hRead; cases hRead
      | ok first =>
          cases hRest : rest.mapM frame.read with
          | error e => rw [hFirst, hRest] at hRead; cases hRead
          | ok others =>
              rw [hFirst, hRest] at hRead
              cases hRead
              intro value hValue
              rcases List.mem_cons.1 hValue with rfl | hValue
              · exact h.read hFirst
              · exact ih hRest value hValue

theorem Within.write (h : frame.Within region) (hValue : value.Within region) :
    (frame.write register value).Within region := by
  intro entry hEntry
  rcases List.mem_cons.1 hEntry with rfl | hEntry
  · exact hValue
  · exact h entry hEntry

/-- A body that starts holds nothing but its arguments. -/
theorem within_enter {body : Body} {args : List Value}
    (h : ∀ value ∈ args, value.Within region) : (Frame.enter body args).Within region := by
  have hFold : ∀ (pairs : List (Register × Value)) (frame : Frame), frame.Within region →
      (∀ pair ∈ pairs, pair.2.Within region) →
      (pairs.foldl (fun frame pair => frame.write pair.1 pair.2) frame).Within region := by
    intro pairs
    induction pairs with
    | nil => intro frame hFrame _; exact hFrame
    | cons pair rest ih =>
        intro frame hFrame hPairs
        exact ih _ (hFrame.write (hPairs pair List.mem_cons_self))
          fun other hOther => hPairs other (List.mem_cons_of_mem pair hOther)
  exact hFold _ _ nofun fun pair hPair => h pair.2 (List.of_mem_zip hPair).2

end Frame

/-! ## Computations inside a region -/

/-- How a computation ends that works inside a region.  It answers with something satisfying `Q`,
or stops; if it stops at a dangling reference, that one was in the region. -/
structure Kept {α : Type} (region : Set ObjectRef) (Q : α → Prop) (m : Machine)
    (result : Except RuntimeError α) (m' : Machine) : Prop where
  effect : Effect region m m'
  depth : m'.depth = m.depth
  closed : Closed region m'.heap
  answer : ∀ {a}, result = .ok a → Q a
  dangling : ∀ {ref}, result = .error (.typeError (.dangling ref)) →
    ref ∈ region ∧ m.heap[ref.index]? = none

section Kept

variable {α : Type} {Q : α → Prop}

theorem Kept.of_ok {a : α} (hEffect : Effect region m m') (hDepth : m'.depth = m.depth)
    (hClosed : Closed region m'.heap) (hAnswer : Q a) : Kept region Q m (.ok a) m' := by
  refine ⟨hEffect, hDepth, hClosed, ?_, nofun⟩
  intro b hB
  cases hB
  exact hAnswer

theorem Kept.of_error {e : RuntimeError} (hEffect : Effect region m m')
    (hDepth : m'.depth = m.depth) (hClosed : Closed region m'.heap)
    (hDangling : ∀ ref, e = .typeError (.dangling ref) →
      ref ∈ region ∧ m.heap[ref.index]? = none) : Kept region Q m (.error e) m' := by
  refine ⟨hEffect, hDepth, hClosed, nofun, ?_⟩
  intro ref hE
  cases hE
  exact hDangling ref rfl

/-- It stops at a reference to no object. -/
theorem Kept.of_dangling (hClosed : Closed region m.heap) (hRef : ref ∈ region)
    (hNone : m.heap[ref.index]? = none) :
    Kept region Q m (.error (.typeError (.dangling ref))) m := by
  refine .of_error (.refl m) rfl hClosed ?_
  intro other hOther
  cases hOther
  exact ⟨hRef, hNone⟩

end Kept

/-- The computation works inside the region whenever it is closed. -/
def Eval.Stays {α : Type} (region : Set ObjectRef) (Q : α → Prop) (x : Eval α) : Prop :=
  ∀ m result m', Closed region m.heap → x m = some (result, m') → Kept region Q m result m'

namespace Eval

variable {α β : Type} {Q : α → Prop} {P : β → Prop} {x : Eval α} {f : α → Eval β}
  {e : RuntimeError}

theorem Stays.pure {a : α} (h : Q a) : Stays region Q (pure a : Eval α) := by
  intro m result m' hClosed hRun
  cases hRun
  exact .of_ok (.refl m) rfl hClosed h

theorem Stays.fail (h : ∀ ref, e ≠ .typeError (.dangling ref)) :
    Stays region Q (fail e : Eval α) := by
  intro m result m' hClosed hRun
  cases hRun
  exact .of_error (.refl m) rfl hClosed fun ref hE => absurd hE (h ref)

theorem Stays.bind (hX : Stays region Q x) (hF : ∀ a, Q a → Stays region P (f a)) :
    Stays region P (x >>= f) := by
  intro m result m' hClosed hRun
  rcases bind_eq_some_iff.1 hRun with ⟨e, hFirst, rfl⟩ | ⟨a, next, hFirst, hRest⟩
  · have hKept := hX _ _ _ hClosed hFirst
    exact .of_error hKept.effect hKept.depth hKept.closed fun ref hE =>
      hKept.dangling (congrArg Except.error hE)
  · have hKept := hX _ _ _ hClosed hFirst
    have hKept' := hF a (hKept.answer rfl) _ _ _ hKept.closed hRest
    refine ⟨hKept.effect.trans hKept'.effect, hKept'.depth.trans hKept.depth, hKept'.closed,
      hKept'.answer, ?_⟩
    intro ref hE
    obtain ⟨hRef, hNone⟩ := hKept'.dangling hE
    exact ⟨hRef, (hKept.effect.eq_none_iff ref.index).1 hNone⟩

theorem Stays.ofOption {answer : Option α} (hError : ∀ ref, e ≠ .typeError (.dangling ref))
    (hAnswer : ∀ {a}, answer = some a → Q a) : Stays region Q (ofOption e answer) := by
  cases answer with
  | none => exact .fail hError
  | some a => exact .pure (hAnswer rfl)

theorem Stays.ofExcept {answer : Except RuntimeError α}
    (hError : ∀ ref, answer ≠ .error (.typeError (.dangling ref)))
    (hAnswer : ∀ {a}, answer = .ok a → Q a) : Stays region Q (ofExcept answer) := by
  cases answer with
  | error e => exact .fail fun ref hE => hError ref (congrArg Except.error hE)
  | ok a => exact .pure (hAnswer rfl)

theorem Stays.outOfFuel : Stays region Q (outOfFuel : Eval α) := by
  intro m result m' _ hRun
  cases hRun

theorem Stays.record (event : Event) : Stays region (fun _ => True) (record event) := by
  intro m result m' hClosed hRun
  cases hRun
  refine .of_ok ⟨fun _ _ => rfl, fun _ => rfl, ?_⟩ rfl hClosed trivial
  rw [Array.toList_push]
  exact List.prefix_append _ _

theorem Stays.objectAt (hRef : ref ∈ region) :
    Stays region (fun object => ∀ value ∈ object.slots, value.Within region)
      (objectAt ref) := by
  intro m result m' hClosed hRun
  rw [Eval.objectAt] at hRun
  cases hObject : m.heap[ref.index]? with
  | some object =>
      rw [hObject] at hRun
      cases hRun
      exact .of_ok (.refl m) rfl hClosed (hClosed hRef hObject)
  | none =>
      rw [hObject] at hRun
      cases hRun
      exact .of_dangling hClosed hRef hObject

/-- Putting values into slots adds no slot and no value of another origin. -/
theorem putSlots_keeps :
    ∀ (values : List (Nat × Value)) {slots : Array Value},
      (putSlots slots values).2.size = slots.size ∧
        ∀ value ∈ (putSlots slots values).2, value ∈ slots ∨ ∃ entry ∈ values, entry.2 = value := by
  intro values
  induction values with
  | nil => intro slots; exact ⟨rfl, fun _ => .inl⟩
  | cons entry rest ih =>
      intro slots
      rw [putSlots]
      split
      · obtain ⟨hSize, hMem⟩ := @ih (slots.setIfInBounds entry.1 entry.2)
        refine ⟨hSize.trans Array.size_setIfInBounds, ?_⟩
        intro value hValue
        rcases hMem value hValue with hOld | ⟨other, hOther, rfl⟩
        · rcases Array.mem_or_eq_of_mem_setIfInBounds hOld with hOld | rfl
          · exact .inl hOld
          · exact .inr ⟨entry, List.mem_cons_self, rfl⟩
        · exact .inr ⟨other, List.mem_cons_of_mem entry hOther, rfl⟩
      · exact ⟨rfl, fun _ => .inl⟩

section Slots

variable {object : Object} {slots : Array Value} (hClosed : Closed region m.heap)
  (hRef : ref ∈ region) (hObject : m.heap[ref.index]? = some object)

include hObject

/-- What happens when an object of the region gets other slots, as many as before. -/
theorem effect_setSlots (hRef : ref ∈ region) (hSize : slots.size = object.slots.size) :
    Effect region m { m with heap := m.heap.setIfInBounds ref.index { object with slots } } := by
  have hInside : ref.index < m.heap.size := (Array.getElem?_eq_some_iff.1 hObject).1
  refine ⟨?_, ?_, List.prefix_rfl⟩
  · intro other hOther
    have hNe : ref.index ≠ other.index := by
      intro hIndex
      exact hOther (ObjectRef.eq_of_index hIndex ▸ hRef)
    exact Array.getElem?_setIfInBounds_ne hNe
  · intro n
    show ((m.heap.setIfInBounds ref.index _)[n]?).map _ = _
    rw [Array.getElem?_setIfInBounds]
    by_cases hn : ref.index = n
    · rw [if_pos hn, if_pos hInside, ← hn, hObject]
      exact congrArg some (Prod.ext rfl hSize)
    · rw [if_neg hn]

include hClosed

/-- A region remains closed if the other slots hold values from it. -/
theorem closed_setSlots (hSlots : ∀ value ∈ slots, value.Within region) :
    Closed region (m.heap.setIfInBounds ref.index { object with slots }) := by
  have hInside : ref.index < m.heap.size := (Array.getElem?_eq_some_iff.1 hObject).1
  intro other found hOther hFound
  rw [Array.getElem?_setIfInBounds] at hFound
  by_cases hn : ref.index = other.index
  · rw [if_pos hn, if_pos hInside] at hFound
    cases hFound
    exact hSlots
  · rw [if_neg hn] at hFound
    exact hClosed hOther hFound

end Slots

theorem Stays.writeSlots {values : List (Nat × Value)} (hRef : ref ∈ region)
    (hValues : ∀ entry ∈ values, entry.2.Within region) :
    Stays region (fun _ => True) (writeSlots ref values) := by
  intro m result m' hClosed hRun
  rw [Eval.writeSlots] at hRun
  cases hObject : m.heap[ref.index]? with
  | none =>
      rw [hObject] at hRun
      cases hRun
      exact .of_dangling hClosed hRef hObject
  | some object =>
      rw [hObject] at hRun
      obtain ⟨hSize, hMem⟩ := @putSlots_keeps values object.slots
      have hSlots : ∀ value ∈ (putSlots object.slots values).2, value.Within region := by
        intro value hValue
        rcases hMem value hValue with hOld | ⟨entry, hEntry, rfl⟩
        · exact hClosed hRef hObject value hOld
        · exact hValues entry hEntry
      have hEffect := effect_setSlots hObject hRef hSize
      cases hPut : (putSlots object.slots values).1 with
      | ok =>
          simp only [hPut] at hRun
          cases hRun
          exact .of_ok hEffect rfl (closed_setSlots hClosed hObject hSlots) trivial
      | error index =>
          simp only [hPut] at hRun
          cases hRun
          exact .of_error hEffect rfl (closed_setSlots hClosed hObject hSlots)
            fun _ hE => by cases hE

end Eval

namespace Program

variable {p : Program} {frame : Frame}

/-! ## Instructions -/

theorem read_ne_dangling (register : Register) (ref : ObjectRef) :
    frame.read register ≠ .error (.typeError (.dangling ref)) := by
  intro h
  cases Frame.error_of_read h

theorem readObject_ne_dangling (register : Register) (ref : ObjectRef) :
    frame.readObject register ≠ .error (.typeError (.dangling ref)) := by
  intro h
  rcases Frame.error_of_readObject h with hE | ⟨_, hE⟩ <;> cases hE

theorem readAll_ne_dangling (registers : List Register) (ref : ObjectRef) :
    registers.mapM frame.read ≠ .error (.typeError (.dangling ref)) := by
  intro h
  obtain ⟨_, _, hE⟩ := Frame.error_of_readAll h
  cases hE

theorem stays_layout (id : ClassId) : (p.layout id).Stays region fun _ => True :=
  .ofOption nofun fun _ => trivial

/-- What an initializer writes are no references. -/
theorem stays_initFields (hRef : ref ∈ region) (classId : ClassId) :
    (p.initFields ref classId).Stays region fun _ => True := by
  refine .bind (stays_layout classId) fun _ _ => .bind (.objectAt hRef) fun object _ =>
    .bind (stays_layout object.classId) fun layout _ => ?_
  dsimp only
  split
  · exact .pure trivial
  · refine .bind (.writeSlots hRef ?_) fun _ _ => .record _
    intro entry hEntry
    obtain ⟨slot, _, _, rfl⟩ := mem_initialValues.1 hEntry
    exact Value.within_zeroOf _ _

/-- **An instruction works inside every closed region that its registers refer into.** -/
theorem stays_step (h : frame.Within region) (instr : Instr) :
    (p.step Eval.noCall frame instr).Stays region (Frame.Within region) := by
  cases instr with
  | assign dest value =>
      cases value with
      | register source =>
          exact .bind (.ofExcept (read_ne_dangling source) h.read) fun _ hValue =>
            .pure (h.write hValue)
      | literal l => exact .pure (h.write (Value.within_ofLiteral l))
  | delegate this target registers =>
      exact .bind (.ofExcept (readObject_ne_dangling this) h.readObject) fun _ _ =>
        .bind (.ofExcept (readAll_ne_dangling registers) (h.readAll registers)) fun _ _ =>
          .bind (Q := fun _ => True) .outOfFuel fun _ _ => .pure h
  | initFields this classId =>
      exact .bind (.ofExcept (readObject_ne_dangling this) h.readObject) fun _ hRef =>
        .bind (stays_initFields hRef classId) fun _ _ => .pure h
  | load dest object slot =>
      refine .bind (.ofExcept (readObject_ne_dangling object) h.readObject) fun _ hRef =>
        .bind (.objectAt hRef) fun target hTarget =>
          .bind (Q := Value.Within region) (.ofOption nofun ?_) fun _ hValue =>
            .pure (h.write hValue)
      intro value hValue
      exact hTarget value (Array.mem_of_getElem? hValue)
  | store object slot value =>
      refine .bind (.ofExcept (readObject_ne_dangling object) h.readObject) fun _ hRef =>
        .bind (.ofExcept (read_ne_dangling value) h.read) fun stored hStored =>
          .bind (.writeSlots hRef ?_) fun _ _ => .pure h
      intro entry hEntry
      rw [List.mem_singleton.1 hEntry]
      exact hStored

end Program

/-! ## Moments -/

/-- What a task holds on to belongs to the region. -/
def Task.Within (region : Set ObjectRef) : Task → Prop
  | .call _ args => ∀ value ∈ args, value.Within region
  | .block _ _ frame => frame.Within region
  | .code active => active.frame.Within region
  | .done result => ∀ {value}, result = .ok value → value.Within region

/-- An evaluation inside a region. -/
structure Moment.Inside (region : Set ObjectRef) (now : Moment) : Prop where
  closed : Closed region now.machine.heap
  task : now.task.Within region
  callers : ∀ caller ∈ now.callers, caller.frame.Within region

namespace Program

variable {p : Program} {now next : Moment}

theorem stays_announce (callable : CallableId) :
    (announce callable).Stays region fun _ => True := by
  rw [announce]
  split
  · exact .record _
  · exact .pure trivial

/-- A body ends with a value that one of its registers holds, or with none. -/
theorem within_result {active : Activation} {result : Except RuntimeError Value}
    (h : active.frame.Within region) (hResult : active.result? = some result) :
    (Task.done result).Within region := by
  intro value hValue
  subst hValue
  rw [Activation.result?] at hResult
  split at hResult
  · cases hResult
  · exact h.read (Option.some.inj hResult)
  · cases hResult
    exact Value.within_null
  · cases hResult

/-- **From one moment to the next an evaluation stays inside a closed region.** -/
theorem Goes.stays (h : p.Goes now next) (hInside : now.Inside region) :
    next.Inside region ∧ Effect region now.machine next.machine := by
  obtain ⟨hClosed, hTask, hCallers⟩ := hInside
  cases h with
  | refuse _ => exact ⟨⟨hClosed, nofun, hCallers⟩, .refl _⟩
  | root _ hAnnounce _ =>
      have hKept := stays_announce _ _ _ _ hClosed hAnnounce
      refine ⟨⟨hKept.closed, ?_, hCallers⟩, hKept.effect⟩
      intro value hValue
      cases hValue
      exact Value.within_null
  | absent _ hAnnounce _ _ =>
      have hKept := stays_announce _ _ _ _ hClosed hAnnounce
      exact ⟨⟨hKept.closed, nofun, hCallers⟩, hKept.effect⟩
  | count _ hAnnounce _ _ _ =>
      have hKept := stays_announce _ _ _ _ hClosed hAnnounce
      exact ⟨⟨hKept.closed, nofun, hCallers⟩, hKept.effect⟩
  | enter _ hAnnounce _ _ _ =>
      have hKept := stays_announce _ _ _ _ hClosed hAnnounce
      exact ⟨⟨hKept.closed, Frame.within_enter hTask, hCallers⟩, hKept.effect.deeper⟩
  | lost _ => exact ⟨⟨hClosed, nofun, hCallers⟩, (Effect.refl _).back⟩
  | begin _ => exact ⟨⟨hClosed, hTask, hCallers⟩, .refl _⟩
  | step hStep =>
      have hKept := stays_step hTask _ _ _ _ hClosed hStep
      exact ⟨⟨hKept.closed, hKept.answer rfl, hCallers⟩, hKept.effect⟩
  | fail hStep =>
      have hKept := stays_step hTask _ _ _ _ hClosed hStep
      exact ⟨⟨hKept.closed, nofun, hCallers⟩, hKept.effect.back⟩
  | delegate hThis hValues =>
      refine ⟨⟨hClosed, ?_, List.forall_mem_cons.2 ⟨hTask, hCallers⟩⟩, .refl _⟩
      exact List.forall_mem_cons.2
        ⟨Value.within_object (hTask.readObject hThis), hTask.readAll _ hValues⟩
  | jump _ => exact ⟨⟨hClosed, hTask, hCallers⟩, .refl _⟩
  | leave hEnd => exact ⟨⟨hClosed, within_result hTask hEnd, hCallers⟩, (Effect.refl _).back⟩
  | resume =>
      obtain ⟨hCaller, hCallers⟩ := List.forall_mem_cons.1 hCallers
      exact ⟨⟨hClosed, hCaller, hCallers⟩, .refl _⟩
  | unwind =>
      exact ⟨⟨hClosed, nofun, (List.forall_mem_cons.1 hCallers).2⟩, (Effect.refl _).back⟩

/-- So it does from its start to any of its moments. -/
theorem Leads.stays (h : p.Leads now next) (hInside : now.Inside region) :
    next.Inside region ∧ Effect region now.machine next.machine := by
  induction h with
  | refl => exact ⟨hInside, .refl _⟩
  | tail _ hGoes ih =>
      obtain ⟨hNext, hEffect⟩ := hGoes.stays ih.1
      exact ⟨hNext, ih.2.trans hEffect⟩

end Program
end TwoPhase
