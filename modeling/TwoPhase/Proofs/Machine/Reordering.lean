import Mathlib.Data.List.Find
import Mathlib.Data.List.Forall2
import Mathlib.Data.List.Nodup
import TwoPhase.Proofs.Ir.Defects
import TwoPhase.Proofs.Machine.Control
import TwoPhase.Proofs.Machine.Fuel

/-!
# The order of blocks

Blocks are looked up by their numbers, and of several blocks with one number the first is meant.  So
the order of the blocks matters only where a number occurs twice.  Otherwise it can be changed at
will: the check accepts the body as before, and running the body does the same as before, also when
the body is run inside others or inside itself.

## Strategy

Under a change of order a lookup finds the same block (`Reordered.block?_eq`), so one body runs as
the other does.  For programs, `Rearranged` compares the bodies one by one; a lookup of a body finds
two bodies that run alike (`Rearranged.body?`), and the calls inside them are equal by induction on
the fuel.

## Main results

* `Reordered.check_iff`, `runBody_reordered` — one body.
* `Rearranged.invoke_eq`, `Rearranged.serve_eq` — a whole program.
* `check_decides_in_any_order` — what the check decides and reports, and that the order of blocks
  has no say in it nor in what a body does.
-/

namespace TwoPhase

open Ir (Body Block BlockId Instr)

/-! ## Bodies -/

namespace Ir.Body

variable {b b' : Body}

/-- Two bodies that differ in nothing but the order of their blocks, no two of which have one
number. -/
structure Reordered (b b' : Body) : Prop where
  same : b' = { b with blocks := b'.blocks }
  perm : b.blocks.Perm b'.blocks
  distinct : (b.blocks.map Block.id).Nodup

/-- Two bodies are one, or differ in nothing but the order of their blocks. -/
def Alike (b b' : Body) : Prop := b' = b ∨ b.Reordered b'

theorem Alike.callable_eq (h : b.Alike b') : b'.callable = b.callable := by
  rcases h with rfl | hOrder
  · rfl
  · rw [hOrder.same]

theorem Reordered.block?_eq (h : b.Reordered b') (id : BlockId) : b'.block? id = b.block? id := by
  refine (List.find?_eq_find?_of_perm h.perm ?_).symm
  rintro x ⟨hx, hxId⟩ y ⟨hy, hyId⟩
  have hSame : x.id = y.id := (beq_iff_eq.1 hxId).trans (beq_iff_eq.1 hyId).symm
  exact List.inj_on_of_nodup_map h.distinct hx hy hSame

theorem Reordered.entry_eq (h : b.Reordered b') : b'.entry = b.entry := by
  rw [h.same]

theorem Reordered.symm (h : b.Reordered b') : b'.Reordered b where
  same := by rw [h.same]
  perm := h.perm.symm
  distinct := (h.perm.map Block.id).nodup_iff.1 h.distinct

theorem Reordered.wellFormed (h : b.Reordered b') (hFormed : b.WellFormed) : b'.WellFormed where
  entry := by simpa only [← h.perm.mem_iff, h.entry_eq] using hFormed.entry
  closed := by simpa only [← h.perm.mem_iff] using hFormed.closed
  jumps := by simpa only [← h.perm.mem_iff] using hFormed.jumps

/-- The order of blocks does not matter to the check. -/
theorem Reordered.check_iff (h : b.Reordered b') : b'.check = .ok () ↔ b.check = .ok () := by
  rw [check_eq_ok_iff, check_eq_ok_iff]
  exact ⟨h.symm.wellFormed, h.wellFormed⟩

end Ir.Body

namespace Program

open Ir.Body (Reordered)

variable {p q : Program} {b b' : Body} {call : CallableId → List Value → Eval Value}

theorem runFrom_reordered (h : b.Reordered b') (fuel : Nat) (id : BlockId) (frame : Frame) :
    p.runFrom call b' fuel id frame = p.runFrom call b fuel id frame := by
  induction fuel generalizing id frame with
  | zero => rfl
  | succ fuel ih =>
      rw [runFrom, runFrom, h.block?_eq, Ir.Body.Alike.callable_eq (.inr h)]
      simp only [ih]

/-- The order of blocks does not matter to a run. -/
theorem runBody_reordered (h : b.Reordered b') (fuel : Nat) (args : List Value) :
    p.runBody call fuel b' args = p.runBody call fuel b args := by
  have hParams : b'.params = b.params := by rw [h.same]
  rw [runBody, runBody, Frame.enter, Frame.enter, Ir.Body.Alike.callable_eq (.inr h), hParams,
    h.entry_eq, runFrom_reordered h]

theorem runBody_alike (h : b.Alike b') (fuel : Nat) (args : List Value) :
    p.runBody call fuel b' args = p.runBody call fuel b args := by
  rcases h with rfl | hOrder
  · rfl
  · exact runBody_reordered hOrder fuel args

/-- A search for a callable comes to bodies that are alike, or to none in either list. -/
theorem find?_alike {bodies bodies' : List Body} (h : List.Forall₂ Ir.Body.Alike bodies bodies')
    (callable : CallableId) : Option.Rel Ir.Body.Alike (bodies.find? (·.callable == callable))
      (bodies'.find? (·.callable == callable)) := by
  induction h with
  | nil => exact .none
  | @cons b b' rest rest' hHere _ ih =>
      rw [List.find?_cons, List.find?_cons, hHere.callable_eq]
      cases b.callable == callable with
      | true => exact .some hHere
      | false => exact ih

/-! ## Programs -/

/-- Two programs that differ only in the order of the blocks of some bodies, apart from what is of
no use to a run. -/
structure Rearranged (p q : Program) : Prop where
  types : q.types = p.types
  classes : q.module.classes = p.module.classes
  bodies : List.Forall₂ Ir.Body.Alike p.module.bodies q.module.bodies

section Rearranged

variable (h : p.Rearranged q)

include h

/-- A lookup finds bodies that are alike, or none in either program. -/
theorem Rearranged.body? (callable : CallableId) :
    Option.Rel Ir.Body.Alike (p.module.body? callable) (q.module.body? callable) := by
  rw [Ir.Module.body?_eq_find?, Ir.Module.body?_eq_find?]
  exact find?_alike (List.rel_reverse h.bodies) callable

theorem Rearranged.class?_eq (id : ClassId) : q.module.class? id = p.module.class? id := by
  rw [Ir.Module.class?_eq_find?, Ir.Module.class?_eq_find?, h.classes]

theorem Rearranged.layout_eq (id : ClassId) : q.layout id = p.layout id := by
  rw [layout, layout, h.class?_eq]

theorem Rearranged.initFields_eq (ref : ObjectRef) (id : ClassId) :
    q.initFields ref id = p.initFields ref id := by
  rw [initFields, initFields, h.layout_eq]
  refine bind_congr fun _ => bind_congr fun object => ?_
  rw [h.layout_eq]
  refine bind_congr fun layout => ?_
  rw [initialValues, initialValues, h.types]

theorem Rearranged.step_eq (frame : Frame) (instr : Instr) :
    q.step call frame instr = p.step call frame instr := by
  cases instr with
  | assign dest value => cases value <;> rfl
  | delegate this target registers => rfl
  | load dest object slot => rfl
  | store object slot value => rfl
  | initFields this id => simp only [step, h.initFields_eq]

theorem Rearranged.steps_eq (frame : Frame) (instrs : List Instr) :
    q.steps call frame instrs = p.steps call frame instrs := by
  induction instrs generalizing frame with
  | nil => rfl
  | cons instr rest ih => simp only [steps, h.step_eq, ih]

theorem Rearranged.runFrom_eq (body : Body) (fuel : Nat) (id : BlockId) (frame : Frame) :
    q.runFrom call body fuel id frame = p.runFrom call body fuel id frame := by
  induction fuel generalizing id frame with
  | zero => rfl
  | succ fuel ih => simp only [runFrom, h.steps_eq, ih]

theorem Rearranged.runBody_eq (fuel : Nat) (body : Body) (args : List Value) :
    q.runBody call fuel body args = p.runBody call fuel body args := by
  rw [runBody, runBody, h.runFrom_eq]

theorem Rearranged.dispatch_eq (fuel : Nat) (callable : CallableId) (args : List Value) :
    q.dispatch call fuel callable args = p.dispatch call fuel callable args := by
  simp only [dispatch, h.runBody_eq]
  refine bind_congr fun _ => ?_
  split
  · rfl
  · have hBodies := h.body? callable
    generalize p.module.body? callable = found at hBodies ⊢
    generalize q.module.body? callable = found' at hBodies ⊢
    cases hBodies with
    | none => rfl
    | @some b b' hAlike =>
        rw [Eval.ofOption, Eval.ofOption]
        refine (pure_bind b' _).trans (Eq.trans ?_ (pure_bind b _).symm)
        rw [runBody_alike hAlike]

/-- **Every call does the same**, whatever is called inside it. -/
theorem Rearranged.invoke_eq (fuel : Nat) : q.invoke fuel = p.invoke fuel := by
  induction fuel with
  | zero => rfl
  | succ fuel ih =>
      funext callable args
      simp only [invoke_succ, ih, h.dispatch_eq]

theorem Rearranged.searchMethod_eq (name : Name) (steps : Nat) (id : ClassId) :
    q.searchMethod name steps id = p.searchMethod name steps id := by
  induction steps generalizing id with
  | zero => rfl
  | succ steps ih =>
      have hSome : (q.module.body? (.member id name)).isSome =
          (p.module.body? (.member id name)).isSome := by
        have hBodies := h.body? (.member id name)
        generalize p.module.body? (.member id name) = found at hBodies ⊢
        generalize q.module.body? (.member id name) = found' at hBodies ⊢
        cases hBodies <;> rfl
      simp only [searchMethod, hSome, h.class?_eq, ih]

/-- **Every request is answered alike.** -/
theorem Rearranged.serve_eq (fuel : Nat) (request : Request) :
    q.serve fuel request = p.serve fuel request := by
  rw [serve_eq_serveWith, serve_eq_serveWith, h.invoke_eq]
  cases request with
  | construct id => simp only [serveWith, h.layout_eq]
  | call ref name args =>
      simp only [serveWith, findMethod, h.searchMethod_eq, h.classes]

end Rearranged

/-- **What the check decides and reports, and what the order of blocks has no say in.**  The check
accepts the bodies that have their entry block, no open block and no jump to a block that is not
there; of any other body it reports the first defect, and so does its message.  If no two blocks
have one number, their order matters neither to the check nor to a run of the body.  Nor does it to
a program: whatever bodies are reordered, every call and every request comes to the same end and
leaves the same machine. -/
theorem check_decides_in_any_order :
    (∀ b : Body,
      (b.check = .ok () ↔ b.WellFormed) ∧
      (∀ defect, b.check = .error defect ↔ b.FirstDefect defect) ∧
      (b.verdict = .ok () ↔ b.WellFormed) ∧
      (∀ defect, b.verdict = .error defect.message ↔ b.FirstDefect defect) ∧
      ∀ text, b.verdict = .error text → ∃ defect, b.FirstDefect defect ∧ text = defect.message) ∧
    (∀ {b b' : Body}, b.Reordered b' →
      (b'.check = .ok () ↔ b.check = .ok ()) ∧
      ∀ (p : Program) (call : CallableId → List Value → Eval Value) (fuel : Nat)
        (args : List Value), p.runBody call fuel b' args = p.runBody call fuel b args) ∧
    ∀ {p q : Program}, p.Rearranged q → ∀ fuel,
      (∀ callable args, q.invoke fuel callable args = p.invoke fuel callable args) ∧
      ∀ request, q.serve fuel request = p.serve fuel request := by
  refine ⟨fun b => ?_, ?_, ?_⟩
  · exact ⟨b.check_eq_ok_iff, fun _ => b.check_eq_error_iff, b.verdict_eq_ok_iff,
      fun _ => b.verdict_eq_error_iff, fun _ => b.exists_defect_of_verdict⟩
  · intro b b' hOrder
    exact ⟨hOrder.check_iff, fun p call fuel args => runBody_reordered hOrder fuel args⟩
  · intro p q hOrder fuel
    exact ⟨fun callable args => by rw [hOrder.invoke_eq], hOrder.serve_eq fuel⟩

/-! ## A sample -/

/-- A body of three blocks, run from the first one to the last. -/
def relayBody : Body where
  callable := .constructorOf Catalogue.Ring.left
  params := [⟨0, ⟨0⟩⟩]
  returns := ⟨0⟩
  blocks :=
    [⟨⟨5⟩, none, [.delegate ⟨0, ⟨0⟩⟩ (.constructorOf Catalogue.Ring.right) []], .jump ⟨2⟩⟩,
      ⟨⟨2⟩, none, [], .jump ⟨7⟩⟩, ⟨⟨7⟩, none, [], .ret none⟩]
  entry := ⟨5⟩
  span := .synthetic

/-- The same body, written down from the last block to the first. -/
def relayBackwards : Body := { relayBody with blocks := relayBody.blocks.reverse }

/-- The constructors of the sample: one class's own, and another one behind it. -/
def relayProgram (body : Body) : Program :=
  { ringProgram with
    module :=
      { name := "main"
        bodies :=
          [body, ringBody (.constructorOf Catalogue.Ring.right) (.constructorOf rootClass)]
        classes := ringProgram.module.classes } }

/-- Backwards the body passes too, and constructs the same object with the same events. -/
theorem relay_backwards :
    relayBody.Reordered relayBackwards ∧
      (relayProgram relayBody).Rearranged (relayProgram relayBackwards) ∧
      relayBackwards.check = .ok () ∧
      (∀ args, (relayProgram relayBody).runBody (fun _ _ => pure .null) 3 relayBackwards args =
        (relayProgram relayBody).runBody (fun _ _ => pure .null) 3 relayBody args) ∧
      ∃ m, (relayProgram relayBody).serve 5 (.construct Catalogue.Ring.left) .start =
          some (.ok (.object ⟨0⟩), m) ∧
        (relayProgram relayBackwards).serve 5 (.construct Catalogue.Ring.left) .start =
          some (.ok (.object ⟨0⟩), m) := by
  have hOrder : relayBody.Reordered relayBackwards :=
    { same := rfl
      perm := (List.reverse_perm relayBody.blocks).symm
      distinct := by decide }
  have hOrders : (relayProgram relayBody).Rearranged (relayProgram relayBackwards) :=
    { types := rfl
      classes := rfl
      bodies := .cons (.inr hOrder) (.cons (.inl rfl) .nil) }
  obtain ⟨_, hBody, hProgram⟩ := check_decides_in_any_order
  obtain ⟨m, hMade⟩ : ∃ m,
      (relayProgram relayBody).serve 5 (.construct Catalogue.Ring.left) .start =
        some (.ok (.object ⟨0⟩), m) := ⟨_, rfl⟩
  refine ⟨hOrder, hOrders, (hBody hOrder).1.2 rfl,
    (hBody hOrder).2 (relayProgram relayBody) _ 3, m, hMade, ?_⟩
  rw [(hProgram hOrders 5).2, hMade]

end Program
end TwoPhase
