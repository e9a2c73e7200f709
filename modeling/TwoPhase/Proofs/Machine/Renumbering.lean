import TwoPhase.Proofs.Machine.Integrity

/-!
# A used machine is as good as a new one

A machine that has served requests has objects on its heap and has recorded events.  An object that
is made on it now cannot see any of that.  What happens to the new object happens in the same way as
on a new machine; the objects have greater numbers, and the events come behind those that are there.

## Strategy

`m.after before` is the machine `m` with the heap and the events of `before` put in front, and the
references renumbered accordingly.  A computation `y` *shifts* another one `x` if it does on
`m.after before` what `x` does on `m`, for every `m`: it gives up when `x` does, or else it has the
same outcome up to the numbers and leaves the same machine behind `before`.  This is an equation,
and needs no invariant of either heap: a reference into `m` that dangles does so behind `before` as
well.

Shifting is closed under sequencing, so each operation of the machine is looked at once and the
interpreter is followed construct by construct.  The old and the new machine have no body running,
so both begin at depth 0, the old one whatever has failed on it.  And since no run of a program on
objects of its own fails at a dangling reference, errors are the same to the letter.

## Main results

* `Eval.Shifts.bind` — shifting goes through sequences.
* `shifts_invoke`, `shifts_construct`, `shifts_call` — the interpreter is followed.
* `depth_of_session` — no request leaves a body running.
* `fresh_objects_behave_alike` — a construction and a call on the new object, after any history.
-/

namespace TwoPhase

open Ir (Register Instr Body BlockId ClassLayout)

variable {n : Nat}

/-! ## Renumbering -/

/-- The reference, `n` places further on the heap. -/
def ObjectRef.shift (n : Nat) (ref : ObjectRef) : ObjectRef := ⟨n + ref.index⟩

def Value.shift (n : Nat) : Value → Value
  | .object ref => .object (ref.shift n)
  | value => value

def Object.shift (n : Nat) (object : Object) : Object :=
  { object with slots := object.slots.map (Value.shift n) }

def Frame.shift (n : Nat) (frame : Frame) : Frame :=
  { frame with registers := frame.registers.map fun entry => (entry.1, entry.2.shift n) }

/-- A dangling reference is the only one that an error tells of. -/
def RuntimeError.shift (n : Nat) : RuntimeError → RuntimeError
  | .typeError (.dangling ref) => .typeError (.dangling (ref.shift n))
  | e => e

/-- The machine with the objects and the events of another one before its own. -/
def Machine.after (m before : Machine) : Machine where
  heap := before.heap ++ m.heap.map (Object.shift before.heap.size)
  events := before.events ++ m.events
  depth := m.depth

theorem Value.shift_of_ne_object {value : Value} (h : ∀ ref, value ≠ .object ref) :
    value.shift n = value := by
  cases value with
  | object ref => exact absurd rfl (h ref)
  | _ => rfl

@[simp] theorem Value.shift_null : Value.null.shift n = .null := rfl

@[simp] theorem Value.shift_ofLiteral (literal : Ir.Literal) :
    (Value.ofLiteral literal).shift n = .ofLiteral literal := by
  cases literal <;> rfl

@[simp] theorem Value.shift_zeroOf (types : TypeTable) (type : TypeId) :
    (Value.zeroOf types type).shift n = .zeroOf types type := by
  unfold Value.zeroOf
  split
  · rfl
  · rfl
  · rfl

theorem RuntimeError.shift_of_ne_dangling {e : RuntimeError}
    (h : ∀ ref, e ≠ .typeError (.dangling ref)) : e.shift n = e := by
  unfold RuntimeError.shift
  split
  · rename_i ref
    exact absurd rfl (h ref)
  · rfl

namespace Machine

variable {m before : Machine}

@[simp] theorem depth_after : (m.after before).depth = m.depth := rfl

/-- An object of the machine is found behind those of the other one. -/
theorem getElem?_after (ref : ObjectRef) :
    (m.after before).heap[(ref.shift before.heap.size).index]? =
      m.heap[ref.index]?.map (Object.shift before.heap.size) := by
  show (before.heap ++ _)[before.heap.size + ref.index]? = _
  rw [Array.getElem?_append_right (Nat.le_add_right _ _), Nat.add_sub_cancel_left,
    Array.getElem?_map]

/-- The objects of the other machine are where they were. -/
theorem getElem?_after_of_lt {index : Nat} (hIndex : index < before.heap.size) :
    (m.after before).heap[index]? = before.heap[index]? :=
  Array.getElem?_append_left hIndex

/-- Writing an object behind the other machine. -/
theorem setIfInBounds_after (m before : Machine) (ref : ObjectRef) (object : Object) :
    { m.after before with
      heap := (m.after before).heap.setIfInBounds (ref.shift before.heap.size).index
        (object.shift before.heap.size) } =
      Machine.after { m with heap := m.heap.setIfInBounds ref.index object } before := by
  have hHeap : (m.after before).heap.setIfInBounds (before.heap.size + ref.index)
      (object.shift before.heap.size) =
        before.heap ++ (m.heap.setIfInBounds ref.index object).map
          (Object.shift before.heap.size) := by
    show (before.heap ++ _).setIfInBounds _ _ = _
    rw [Array.setIfInBounds_append_right (Nat.le_add_right _ _), Nat.add_sub_cancel_left,
      Array.map_setIfInBounds]
  exact congrArg (fun heap => { m.after before with heap }) hHeap

/-- A machine that is not running anything is a new machine put behind itself. -/
theorem start_after (hDepth : before.depth = 0) : Machine.start.after before = before := by
  obtain ⟨heap, events, depth⟩ := before
  cases hDepth
  simp [Machine.after, Machine.start]

end Machine

/-! ## Shifted computations -/

namespace Eval

variable {α β γ δ : Type} {before : Machine} {rename : α → β} {rename' : γ → δ}
  {x : Eval α} {y : Eval β} {f : α → Eval γ} {g : β → Eval δ}

/-- An outcome and a machine, put behind another machine. -/
def placed (before : Machine) (rename : α → β) :
    Except RuntimeError α × Machine → Except RuntimeError β × Machine
  | (.ok a, m) => (.ok (rename a), m.after before)
  | (.error e, m) => (.error (e.shift before.heap.size), m.after before)

/-- The second computation does behind `before` what the first one does on any machine. -/
def Shifts (before : Machine) (rename : α → β) (x : Eval α) (y : Eval β) : Prop :=
  ∀ m, y (m.after before) = (x m).map (placed before rename)

theorem Shifts.pure (a : α) : Shifts before rename (pure a) (pure (rename a)) := by
  intro m
  rfl

theorem Shifts.fail (e : RuntimeError) :
    Shifts before rename (fail e) (fail (e.shift before.heap.size)) := by
  intro m
  rfl

theorem Shifts.outOfFuel : Shifts before rename outOfFuel outOfFuel := by
  intro m
  rfl

/-- **Sequences are shifted part by part.** -/
theorem Shifts.bind (hX : Shifts before rename x y)
    (hF : ∀ a, Shifts before rename' (f a) (g (rename a))) :
    Shifts before rename' (x >>= f) (y >>= g) := by
  intro m
  show Eval.bind y g (m.after before) = (Eval.bind x f m).map _
  rw [Eval.bind, Eval.bind, hX m]
  cases x m with
  | none => rfl
  | some out =>
      obtain ⟨answer, next⟩ := out
      cases answer with
      | error e => rfl
      | ok a => exact hF a next

/-- A first part whose answer has no references in it. -/
theorem Shifts.bind_same {x y : Eval α} {f : α → Eval γ} {g : α → Eval δ}
    (hX : Shifts before id x y) (hF : ∀ a, Shifts before rename' (f a) (g a)) :
    Shifts before rename' (x >>= f) (y >>= g) :=
  hX.bind hF

theorem Shifts.ofOption {e : RuntimeError} (answer : Option α) :
    Shifts before rename (ofOption e answer)
      (ofOption (e.shift before.heap.size) (answer.map rename)) := by
  cases answer with
  | none => exact .fail e
  | some a => exact .pure a

theorem Shifts.ofOption_same {e : RuntimeError} (answer : Option α) :
    Shifts before id (Eval.ofOption e answer)
      (Eval.ofOption (e.shift before.heap.size) answer) := by
  cases answer with
  | none => exact .fail e
  | some a => exact .pure a

/-- A result that was found without looking at the heap is renumbered. -/
theorem Shifts.ofExcept {answer : Except RuntimeError α}
    (h : ∀ ref, answer ≠ .error (.typeError (.dangling ref))) :
    Shifts before rename (ofExcept answer) (ofExcept (answer.map rename)) := by
  cases answer with
  | error e =>
      have hFail : Shifts before rename (Eval.fail e) (Eval.fail (e.shift before.heap.size)) :=
        .fail e
      rw [RuntimeError.shift_of_ne_dangling fun ref hEq => h ref (congrArg _ hEq)] at hFail
      exact hFail
  | ok a => exact .pure a

theorem Shifts.depth : Shifts before id depth depth := by
  intro m
  rfl

theorem Shifts.record (event : Event) : Shifts before id (record event) (record event) := by
  intro m
  simp [Eval.record, placed, Machine.after]

theorem Shifts.nested (hX : Shifts before rename x y) :
    Shifts before rename (nested x) (nested y) := by
  intro m
  have hDeeper : y { m.after before with depth := m.depth + 1 } =
      (x { m with depth := m.depth + 1 }).map (placed before rename) :=
    hX { m with depth := m.depth + 1 }
  simp only [Eval.nested, Machine.depth_after, hDeeper]
  cases x { m with depth := m.depth + 1 } with
  | none => rfl
  | some out =>
      obtain ⟨answer, next⟩ := out
      cases answer with
      | error e => rfl
      | ok a => rfl

theorem Shifts.allocate (object : Object) :
    Shifts before (ObjectRef.shift before.heap.size) (allocate object)
      (allocate (object.shift before.heap.size)) := by
  intro m
  simp [Eval.allocate, placed, Machine.after, ObjectRef.shift]

theorem Shifts.objectAt (ref : ObjectRef) :
    Shifts before (Object.shift before.heap.size) (objectAt ref)
      (objectAt (ref.shift before.heap.size)) := by
  intro m
  simp only [Eval.objectAt, Machine.getElem?_after]
  cases m.heap[ref.index]? with
  | none => rfl
  | some object => rfl

/-- Slots are written alike, up to the first one that does not exist. -/
theorem putSlots_shift (slots : Array Value) (values : List (Nat × Value)) :
    putSlots (slots.map (Value.shift n)) (values.map fun entry => (entry.1, entry.2.shift n)) =
      ((putSlots slots values).1, (putSlots slots values).2.map (Value.shift n)) := by
  induction values generalizing slots with
  | nil => rfl
  | cons entry rest ih =>
      obtain ⟨index, value⟩ := entry
      rw [List.map_cons, putSlots, putSlots, Array.size_map]
      by_cases hIndex : index < slots.size
      · rw [if_pos hIndex, if_pos hIndex, ← ih, Array.map_setIfInBounds]
      · rw [if_neg hIndex, if_neg hIndex]

theorem Shifts.writeSlots (ref : ObjectRef) (values : List (Nat × Value)) :
    Shifts before id (writeSlots ref values)
      (writeSlots (ref.shift before.heap.size)
        (values.map fun entry => (entry.1, entry.2.shift before.heap.size))) := by
  intro m
  simp only [Eval.writeSlots, Machine.getElem?_after]
  cases m.heap[ref.index]? with
  | none => rfl
  | some object =>
      have hPut := putSlots_shift (n := before.heap.size) object.slots values
      have hSet := fun slots => Machine.setIfInBounds_after m before ref { object with slots }
      simp only [Option.map_some, Object.shift] at hPut hSet ⊢
      simp only [hPut, hSet]
      cases (putSlots object.slots values).1 with
      | error index => rfl
      | ok => rfl

/-- A computation that does not fail at a dangling reference fails with the same error behind the
other machine. -/
theorem Shifts.eq_map (h : Shifts before rename x y) {m : Machine}
    (hSafe : ∀ ref m', x m ≠ some (.error (.typeError (.dangling ref)), m')) :
    y (m.after before) = (x m).map fun out => (out.1.map rename, out.2.after before) := by
  rw [h m]
  cases hRun : x m with
  | none => rfl
  | some out =>
      obtain ⟨answer, next⟩ := out
      cases answer with
      | ok a => rfl
      | error e =>
          have hSame : e.shift before.heap.size = e := by
            apply RuntimeError.shift_of_ne_dangling
            rintro ref rfl
            exact hSafe ref next hRun
          rw [Option.map_some, placed, hSame]
          rfl

end Eval

/-! ## Frames -/

namespace Frame

theorem write_shift (frame : Frame) (register : Register) (value : Value) :
    (frame.write register value).shift n = (frame.shift n).write register (value.shift n) := rfl

theorem read_shift (frame : Frame) (register : Register) :
    (frame.shift n).read register = (frame.read register).map (Value.shift n) := by
  have hLookup : ∀ registers : List (Nat × Value),
      (registers.map fun entry => (entry.1, entry.2.shift n)).lookup register.number =
        (registers.lookup register.number).map (Value.shift n) := by
    intro registers
    induction registers with
    | nil => rfl
    | cons entry rest ih =>
        rw [List.map_cons, List.lookup_cons, List.lookup_cons, ih]
        split
        · rfl
        · rfl
  rw [read, read]
  simp only [shift, hLookup]
  cases frame.registers.lookup register.number with
  | none => rfl
  | some value => rfl

theorem readObject_shift (frame : Frame) (register : Register) :
    (frame.shift n).readObject register =
      (frame.readObject register).map (ObjectRef.shift n) := by
  rw [readObject, readObject, read_shift]
  cases frame.read register with
  | error e => rfl
  | ok value => cases value <;> rfl

theorem readAll_shift (frame : Frame) (registers : List Register) :
    registers.mapM (frame.shift n).read =
      (registers.mapM frame.read).map (List.map (Value.shift n)) := by
  induction registers with
  | nil => rfl
  | cons register rest ih =>
      rw [List.mapM_cons, List.mapM_cons, read_shift, ih]
      cases frame.read register with
      | error e => rfl
      | ok value =>
          cases rest.mapM frame.read with
          | error e => rfl
          | ok values => rfl

theorem enter_shift (body : Body) (args : List Value) :
    enter body (args.map (Value.shift n)) = (enter body args).shift n := by
  have hFold : ∀ (params : List Register) (args : List Value) (frame : Frame),
      (params.zip (args.map (Value.shift n))).foldl (fun frame pair => frame.write pair.1 pair.2)
          (frame.shift n) =
        ((params.zip args).foldl (fun frame pair => frame.write pair.1 pair.2) frame).shift n := by
    intro params
    induction params with
    | nil => intro args frame; rfl
    | cons register rest ih =>
        intro args frame
        cases args with
        | nil => rfl
        | cons value args => exact ih args (frame.write register value)
  exact hFold body.params args ⟨body.callable, []⟩

end Frame

/-! ## The interpreter -/

namespace Program

open Eval (Shifts)

variable {p : Program} {before : Machine}

/-- The program is the same in both runs. -/
theorem shifts_layout (classId : ClassId) :
    Shifts before id (p.layout classId) (p.layout classId) :=
  .ofOption_same _

/-- First values are no objects. -/
theorem initialValues_shift (layout : ClassLayout) (classId : ClassId) :
    ((p.initialValues layout classId).map fun entry => (entry.1, entry.2.shift n)) =
      p.initialValues layout classId := by
  simp [initialValues]

theorem shifts_initFields (ref : ObjectRef) (classId : ClassId) :
    Shifts before id (p.initFields ref classId)
      (p.initFields (ref.shift before.heap.size) classId) := by
  refine .bind_same (shifts_layout classId) fun _ => .bind (.objectAt ref) fun object =>
    .bind_same (shifts_layout object.classId) fun layout => ?_
  show Shifts before id (if _ then _ else _) (if _ then _ else _)
  split
  · exact .pure ()
  · refine .bind_same ?_ fun _ => .record _
    have hWrite : Shifts before id (Eval.writeSlots ref (p.initialValues layout classId)) _ :=
      .writeSlots ref _
    rw [initialValues_shift] at hWrite
    exact hWrite

section Code

variable {call call' : CallableId → List Value → Eval Value}
  (hCall : ∀ callable args, Shifts before (Value.shift before.heap.size) (call callable args)
    (call' callable (args.map (Value.shift before.heap.size))))

include hCall

/-- **One instruction.** -/
theorem shifts_step (frame : Frame) (instr : Instr) :
    Shifts before (Frame.shift before.heap.size) (p.step call frame instr)
      (p.step call' (frame.shift before.heap.size) instr) := by
  cases instr with
  | assign dest source =>
      cases source with
      | register source =>
          rw [step, step, Frame.read_shift]
          exact .bind (.ofExcept (read_ne_dangling source)) fun value =>
            .pure (frame.write dest value)
      | literal l =>
          have h : Shifts before (Frame.shift before.heap.size)
              (pure (frame.write dest (.ofLiteral l))) (pure _) := .pure _
          rw [Frame.write_shift, Value.shift_ofLiteral] at h
          exact h
  | delegate this target registers =>
      rw [step, step, Frame.readObject_shift, Frame.readAll_shift]
      exact .bind (.ofExcept (readObject_ne_dangling this)) fun ref =>
        .bind (.ofExcept (readAll_ne_dangling registers)) fun values =>
          .bind (hCall target (.object ref :: values)) fun _ => .pure frame
  | initFields this classId =>
      rw [step, step, Frame.readObject_shift]
      exact .bind (.ofExcept (readObject_ne_dangling this)) fun ref =>
        .bind_same (shifts_initFields ref classId) fun _ => .pure frame
  | load dest object slot =>
      rw [step, step, Frame.readObject_shift]
      have hRead : ∀ target : Object, Shifts before (Value.shift before.heap.size)
          (Eval.ofOption (.typeError (.noSlot slot)) target.slots[slot]?)
          (Eval.ofOption (.typeError (.noSlot slot))
            (target.shift before.heap.size).slots[slot]?) := by
        intro target
        simp only [Object.shift, Array.getElem?_map]
        exact .ofOption target.slots[slot]?
      exact .bind (.ofExcept (readObject_ne_dangling object)) fun ref =>
        .bind (.objectAt ref) fun target => .bind (hRead target) fun value =>
          .pure (frame.write dest value)
  | store object slot value =>
      rw [step, step, Frame.readObject_shift, Frame.read_shift]
      exact .bind (.ofExcept (readObject_ne_dangling object)) fun ref =>
        .bind (.ofExcept (read_ne_dangling value)) fun stored =>
          .bind_same (.writeSlots ref [(slot, stored)]) fun _ => .pure frame

theorem shifts_steps (frame : Frame) (instrs : List Instr) :
    Shifts before (Frame.shift before.heap.size) (p.steps call frame instrs)
      (p.steps call' (frame.shift before.heap.size) instrs) := by
  induction instrs generalizing frame with
  | nil => exact .pure frame
  | cons instr rest ih => exact .bind (shifts_step hCall frame instr) fun next => ih next

theorem shifts_runFrom (body : Body) (fuel : Nat) (block : BlockId) (frame : Frame) :
    Shifts before (Value.shift before.heap.size) (p.runFrom call body fuel block frame)
      (p.runFrom call' body fuel block (frame.shift before.heap.size)) := by
  induction fuel generalizing block frame with
  | zero => exact .outOfFuel
  | succ fuel ih =>
      rw [runFrom, runFrom]
      refine .bind_same (.ofOption_same _) fun found =>
        .bind (shifts_steps hCall frame found.instrs) fun last => ?_
      cases found.terminator with
      | jump target => exact ih target last
      | ret result =>
          cases result with
          | none => exact .pure Value.null
          | some register =>
              simp only [Frame.read_shift]
              exact .ofExcept (read_ne_dangling register)
      | unreachable => exact .fail _

theorem shifts_runBody (fuel : Nat) (body : Body) (args : List Value) :
    Shifts before (Value.shift before.heap.size) (p.runBody call fuel body args)
      (p.runBody call' fuel body (args.map (Value.shift before.heap.size))) := by
  rw [runBody, runBody, List.length_map]
  split
  · exact .fail _
  · rw [Frame.enter_shift]
    exact shifts_runFrom hCall body fuel body.entry (.enter body args)

end Code

theorem shifts_announce (callable : CallableId) :
    Shifts before id (announce callable) (announce callable) := by
  rw [announce]
  split
  · exact .record _
  · exact .pure ()

/-- **A call** does behind another machine what it does alone. -/
theorem shifts_invoke (fuel : Nat) (callable : CallableId) (args : List Value) :
    Shifts before (Value.shift before.heap.size) (p.invoke fuel callable args)
      (p.invoke fuel callable (args.map (Value.shift before.heap.size))) := by
  induction fuel generalizing callable args with
  | zero => exact .outOfFuel
  | succ fuel ih =>
      rw [invoke, invoke]
      refine .bind_same .depth fun depth => ?_
      split
      · exact .fail _
      · refine .bind_same (shifts_announce callable) fun _ => ?_
        split
        · exact .pure Value.null
        · exact .bind_same (.ofOption_same _) fun body => .nested (shifts_runBody ih fuel body args)

theorem shifts_construct (fuel : Nat) (classId : ClassId) :
    Shifts before (ObjectRef.shift before.heap.size) (p.construct fuel classId)
      (p.construct fuel classId) := by
  refine .bind_same (shifts_layout classId) fun layout => ?_
  have hFresh : Shifts before (ObjectRef.shift before.heap.size)
      (Eval.allocate ⟨classId, Array.replicate layout.slots.size .null⟩) _ := .allocate _
  simp only [Object.shift, Array.map_replicate, Value.shift_null] at hFresh
  refine .bind hFresh fun ref => ?_
  cases layout.constructor with
  | none => exact .pure ref
  | some constructor =>
      exact .bind (shifts_invoke fuel constructor [.object ref]) fun _ => .pure ref

theorem shifts_call (fuel : Nat) (ref : ObjectRef) (name : Name) (args : List Value) :
    Shifts before (Value.shift before.heap.size) (p.call fuel ref name args)
      (p.call fuel (ref.shift before.heap.size) name
        (args.map (Value.shift before.heap.size))) := by
  refine .bind (.objectAt ref) fun object => ?_
  simp only [Object.shift]
  cases p.findMethod object.classId name with
  | none => exact .outOfFuel
  | some found =>
      cases found with
      | none => exact .fail _
      | some callable => exact shifts_invoke fuel callable (.object ref :: args)

/-! ## Between requests -/

/-- A request leaves no body running, whatever it was and however it ended. -/
theorem depth_of_serve {request : Request} {fuel : Nat} {m m' : Machine}
    {result : Except RuntimeError Value} (h : p.serve fuel request m = some (result, m'))
    (hDepth : m.depth = 0) : m'.depth = 0 := by
  cases ending_of_serve h with
  | refused => exact hDepth
  | bare => exact hDepth
  | evaluated hEnd =>
      obtain ⟨callable, args, first, hOpens, hLeads⟩ := hEnd
      have hFirst : first.depth = 0 := by
        cases hOpens with
        | construct => exact hDepth
        | call => exact hDepth
      have hLevel : Moment.Level ⟨.call callable args, [], first⟩ :=
        ⟨hFirst, hFirst.trans_le (Nat.zero_le _)⟩
      exact (hLeads.level hLevel).depth

theorem depth_of_session {m last : Machine}
    {history : List (Request × Except RuntimeError Value)} (h : Session p m history last)
    (hDepth : m.depth = 0) : last.depth = 0 := by
  induction h with
  | nil => exact hDepth
  | cons hServe _ ih => exact ih (depth_of_serve hServe hDepth)

/-! ## A new object -/

section Fresh

variable {r : Resolver} (hLower : r.lower = .ok p) {fuel : Nat} {classId : ClassId}

include hLower

/-- A construction on a new machine does not fail at a dangling reference. -/
theorem construct_start_safe (ref : ObjectRef) (m : Machine) :
    p.construct fuel classId .start ≠ some (.error (.typeError (.dangling ref)), m) := by
  intro hRun
  have hServe : p.serve fuel (.construct classId) .start =
      some (.error (.typeError (.dangling ref)), m) := Eval.bind_of_error hRun
  have hReady := ready_of_serve (fun h => Resolver.numbered_of_lower hLower h) hServe
    ⟨rfl, nofun, nofun⟩ (Set.empty_subset _)
  exact hReady.2.2.error ref rfl

/-- Nor does a call on the object that was made. -/
theorem call_fresh_safe {this : ObjectRef} {made : Machine}
    (hMade : p.construct fuel classId .start = some (.ok this, made)) {name : Name}
    {args : List Value} (hArgs : ∀ value ∈ args, ∀ ref, value ≠ .object ref) {fuel' : Nat}
    (ref : ObjectRef) (m : Machine) :
    p.call fuel' this name args made ≠ some (.error (.typeError (.dangling ref)), m) := by
  intro hRun
  have hServe : p.serve fuel (.construct classId) .start = some (.ok (.object this), made) :=
    Eval.bind_of_ok hMade
  have hNumbered : ∀ {id layout}, p.module.class? id = some layout → layout.Numbered :=
    fun h => Resolver.numbered_of_lower hLower h
  obtain ⟨hReady, _, hAnswered⟩ := ready_of_serve hNumbered hServe
    ⟨rfl, nofun, nofun⟩ (Set.empty_subset _)
  have hNamed : (Request.call this name args).named ⊆ made.objects := by
    rintro other (rfl | hOther)
    · exact hAnswered.value rfl rfl
    · exact absurd rfl (hArgs _ hOther other)
  have hCall : p.serve fuel' (.call this name args) made =
      some (.error (.typeError (.dangling ref)), m) := hRun
  exact (ready_of_serve hNumbered hCall hReady hNamed).2.2.error ref rfl

/-- **New objects behave alike in any history.**  A machine has served requests, and some of them
may have failed.  Its objects are before those of the runs below, so these are renumbered by `n`.

A construction has the outcome that it has on a new machine, the reference renumbered; and it leaves
behind the used machine what it leaves behind the new one.  So does a call of any method of the new
object, with arguments that are no objects, after that construction.  Errors are the same, and a
computation that goes on for ever on one machine does so on the other.

What is left behind the used machine are the same events, the same objects up to the numbers, and
all that was there before. -/
theorem fresh_objects_behave_alike {history : List (Request × Except RuntimeError Value)}
    {last : Machine} (hSession : Session p .start history last) :
    let n := last.heap.size
    p.construct fuel classId last = (p.construct fuel classId .start).map
      (fun out => (out.1.map (ObjectRef.shift n), out.2.after last)) ∧
    (∀ {this made}, p.construct fuel classId .start = some (.ok this, made) →
      ∀ (fuel' : Nat) (name : Name) (args : List Value),
        (∀ value ∈ args, ∀ ref, value ≠ .object ref) →
        p.call fuel' (this.shift n) name args (made.after last) =
          (p.call fuel' this name args made).map
            fun out => (out.1.map (Value.shift n), out.2.after last)) ∧
    ∀ m : Machine, (m.after last).events.toList = last.events.toList ++ m.events.toList ∧
      (∀ ref : ObjectRef, (m.after last).heap[(ref.shift n).index]? =
        m.heap[ref.index]?.map (Object.shift n)) ∧
      ∀ index < n, (m.after last).heap[index]? = last.heap[index]? := by
  intro n
  have hStart : Machine.start.after last = last :=
    Machine.start_after (depth_of_session hSession rfl)
  refine ⟨?_, ?_, ?_⟩
  · have hShifts : Shifts last (ObjectRef.shift n) (p.construct fuel classId)
        (p.construct fuel classId) := shifts_construct fuel classId
    have hConstruct := hShifts.eq_map (construct_start_safe hLower)
    rw [hStart] at hConstruct
    exact hConstruct
  · intro this made hMade fuel' name args hArgs
    have hSame : args.map (Value.shift n) = args := by
      conv_rhs => rw [← List.map_id args]
      exact List.map_congr_left fun value hValue => Value.shift_of_ne_object (hArgs value hValue)
    have hShifts : Shifts last (Value.shift n) (p.call fuel' this name args)
        (p.call fuel' (this.shift n) name (args.map (Value.shift n))) :=
      shifts_call fuel' this name args
    have hCall := hShifts.eq_map (call_fresh_safe hLower hMade hArgs)
    rw [hSame] at hCall
    exact hCall
  · intro m
    refine ⟨Array.toList_append, Machine.getElem?_after, ?_⟩
    intro index hIndex
    exact Machine.getElem?_after_of_lt hIndex

end Fresh

end Program

/-! ## A sample -/

namespace Catalogue.Cells

/-- The history of the linked cells goes on with a call that fails. -/
def stumbled : List (Request × Except RuntimeError Value) :=
  history ++ [(.call ⟨0⟩ ⟨"mark"⟩ [], .error (.typeError (.noSlot 7)))]

/-- A cell that is made after the failure is the fourth one.  It cannot be marked either, for a
reason of its own, and the reason is the same as that of a first cell. -/
theorem late_cell_behaves_alike :
    let first := machine [holding .null false]
    let fault : RuntimeError := .typeError (.notAnObject (register 1) .null)
    Resolver.cells.lower = .ok Program.cells ∧
      Program.Session Program.cells .start stumbled marked ∧
      Program.cells.construct 5 cell .start = some (.ok ⟨0⟩, first) ∧
      Program.cells.construct 5 cell marked = some (.ok ⟨3⟩, first.after marked) ∧
      (∃ last, Program.cells.call 5 ⟨0⟩ ⟨"mark"⟩ [] first = some (.error fault, last) ∧
        Program.cells.call 5 ⟨3⟩ ⟨"mark"⟩ [] (first.after marked) =
          some (.error fault, last.after marked)) := by
  intro first fault
  have hSession : Program.Session Program.cells .start stumbled marked :=
    session_linked.concat call_mark
  have hFirst : Program.cells.construct 5 cell .start = some (.ok ⟨0⟩, first) := by
    decide +kernel
  have hFault : ∃ last, Program.cells.call 5 ⟨0⟩ ⟨"mark"⟩ [] first = some (.error fault, last) :=
    ⟨first, by decide +kernel⟩
  obtain ⟨last, hFault⟩ := hFault
  obtain ⟨hConstruct, hCall, _⟩ :=
    @Program.fresh_objects_behave_alike Program.cells Resolver.cells lower_cells 5 cell _ _ hSession
  have hAlike := hCall hFirst 5 ⟨"mark"⟩ [] nofun
  rw [hFirst] at hConstruct
  rw [hFault] at hAlike
  exact ⟨lower_cells, hSession, hFirst, hConstruct, last, hFault, hAlike⟩

end Catalogue.Cells
end TwoPhase
