import TwoPhase.Proofs.Machine.Session

/-!
# Fuel and the depth limit

Two numbers bound an evaluation from outside: its fuel, and the depth at which calls are refused.
Neither has a say in what is computed.  More fuel never changes an outcome, and a machine that
refuses no call comes to every outcome of a machine that does, except for the refusal itself.

## Strategy

A computation *covers* another one if it comes to every end that the other one comes to, unless
that end is an error outside a set of errors.  This goes through sequences, so the interpreter is
followed once for any two ways of calling of which one covers the other.  Fuel is the case in which
all errors count, and the limit the case in which all but `stackOverflow` do.

What a request does apart from its calls is written down once, with the way of calling as a
parameter (`serveWith`); a machine without a limit differs from the real one in that parameter
alone.

## Main results

* `Eval.Covered.bind` — covering goes through sequences.
* `serve_mono` — more fuel never changes the outcome of a request.
* `serveUnlimited_eq` — nor does the absence of a limit, unless the outcome is a refused call.
-/

namespace TwoPhase

open Ir (Body BlockId Instr)

namespace Eval

variable {α β : Type} {P : RuntimeError → Prop} {x y : Eval α} {f g : α → Eval β}

/-- The second computation comes to every end of the first one that is no error outside `P`. -/
def Covered (P : RuntimeError → Prop) (x y : Eval α) : Prop :=
  ∀ m result m', x m = some (result, m') → (∀ e, result = .error e → P e) →
    y m = some (result, m')

theorem Covered.refl (x : Eval α) : Covered P x x := fun _ _ _ h _ => h

theorem Covered.outOfFuel : Covered P outOfFuel y := by
  intro m result m' h
  cases h

/-- **Sequences are covered part by part.** -/
theorem Covered.bind (hX : Covered P x y) (hF : ∀ a, Covered P (f a) (g a)) :
    Covered P (x >>= f) (y >>= g) := by
  intro m result m' h hCounts
  rcases bind_eq_some_iff.1 h with ⟨e, hError, rfl⟩ | ⟨a, next, hFirst, hRest⟩
  · refine bind_of_error (hX m _ m' hError ?_)
    rintro _ ⟨⟩
    exact hCounts e rfl
  · rw [bind_of_ok (hX m _ next hFirst nofun)]
    exact hF a next result m' hRest hCounts

theorem Covered.nested (h : Covered P x y) : Covered P (nested x) (nested y) := by
  intro m result m' hRun hCounts
  obtain ⟨last, hInside, rfl⟩ := nested_eq_some_iff.1 hRun
  exact nested_eq_some_iff.2 ⟨last, h _ result last hInside hCounts, rfl⟩

end Eval

namespace Program

open Eval (Covered)

variable {p : Program} {P : RuntimeError → Prop} {fuel fuel' : Nat} {m m' : Machine}
  {result : Except RuntimeError Value}

/-! ## The interpreter, whatever calls do -/

/-- What a call does that is not refused, if the calls inside it are made by `call`. -/
def dispatch (p : Program) (call : CallableId → List Value → Eval Value) (fuel : Nat)
    (callable : CallableId) (args : List Value) : Eval Value := do
  announce callable
  if isRootConstructor callable then return .null
  else do
    let body ← Eval.ofOption (.noBody callable) (p.module.body? callable)
    Eval.nested (p.runBody call fuel body args)

theorem invoke_succ (fuel : Nat) (callable : CallableId) (args : List Value) :
    p.invoke (fuel + 1) callable args = (do
      let depth ← Eval.depth
      if Machine.maxDepth ≤ depth then Eval.fail .stackOverflow
      else p.dispatch (p.invoke fuel) fuel callable args) :=
  rfl

/-- What a request does if calls are made by `call`. -/
def serveWith (p : Program) (call : CallableId → List Value → Eval Value) : Request → Eval Value
  | .construct id => do
      let layout ← p.layout id
      let ref ← Eval.allocate ⟨id, Array.replicate layout.slots.size .null⟩
      match layout.constructor with
      | none => return .object ref
      | some constructor => do
          let _ ← call constructor [.object ref]
          return .object ref
  | .call ref name args => do
      let object ← Eval.objectAt ref
      match p.findMethod object.classId name with
      | none => Eval.outOfFuel
      | some none => Eval.fail (.noBody (.member object.classId name))
      | some (some callable) => call callable (.object ref :: args)

theorem serve_eq_serveWith (fuel : Nat) (request : Request) :
    p.serve fuel request = p.serveWith (p.invoke fuel) request := by
  cases request with
  | call ref name args => rfl
  | construct id =>
      rw [serve, construct, serveWith, bind_assoc]
      refine bind_congr fun layout => ?_
      rw [bind_assoc]
      refine bind_congr fun ref => ?_
      cases layout.constructor with
      | none => exact pure_bind _ _
      | some constructor => rw [bind_assoc]; rfl

section Code

variable {call call' : CallableId → List Value → Eval Value}
  (hCall : ∀ callable args, Covered P (call callable args) (call' callable args))

include hCall

theorem covered_step (frame : Frame) (instr : Instr) :
    Covered P (p.step call frame instr) (p.step call' frame instr) := by
  cases instr with
  | assign dest value => cases value <;> exact .refl _
  | initFields this classId => exact .refl _
  | load dest object slot => exact .refl _
  | store object slot value => exact .refl _
  | delegate this target registers =>
      exact .bind (.refl _) fun ref => .bind (.refl _) fun values =>
        .bind (hCall target (.object ref :: values)) fun _ => .refl _

theorem covered_steps (frame : Frame) (instrs : List Instr) :
    Covered P (p.steps call frame instrs) (p.steps call' frame instrs) := by
  induction instrs generalizing frame with
  | nil => exact .refl _
  | cons instr rest ih => exact .bind (covered_step hCall frame instr) fun next => ih next

theorem covered_runFrom (body : Body) (hFuel : fuel ≤ fuel') (id : BlockId) (frame : Frame) :
    Covered P (p.runFrom call body fuel id frame) (p.runFrom call' body fuel' id frame) := by
  induction fuel generalizing fuel' id frame with
  | zero => exact .outOfFuel
  | succ fuel ih =>
      obtain ⟨more, rfl⟩ := Nat.exists_eq_add_of_le' hFuel
      rw [runFrom, ← Nat.add_assoc, runFrom]
      refine .bind (.refl _) fun block => .bind (covered_steps hCall frame block.instrs)
        fun next => ?_
      cases block.terminator with
      | jump target => exact ih (Nat.le_add_left fuel more) target next
      | ret value => cases value <;> exact .refl _
      | unreachable => exact .refl _

theorem covered_runBody (hFuel : fuel ≤ fuel') (body : Body) (args : List Value) :
    Covered P (p.runBody call fuel body args) (p.runBody call' fuel' body args) := by
  rw [runBody, runBody]
  split
  · exact .refl _
  · exact covered_runFrom hCall body hFuel body.entry (.enter body args)

theorem covered_dispatch (hFuel : fuel ≤ fuel') (callable : CallableId) (args : List Value) :
    Covered P (p.dispatch call fuel callable args) (p.dispatch call' fuel' callable args) := by
  refine .bind (.refl _) fun _ => ?_
  split
  · exact .refl _
  · exact .bind (.refl _) fun body => .nested (covered_runBody hCall hFuel body args)

theorem covered_serveWith (request : Request) :
    Covered P (p.serveWith call request) (p.serveWith call' request) := by
  cases request with
  | construct id =>
      refine .bind (.refl _) fun layout => .bind (.refl _) fun ref => ?_
      cases layout.constructor with
      | none => exact .refl _
      | some constructor => exact .bind (hCall constructor [.object ref]) fun _ => .refl _
  | call ref name args =>
      refine .bind (.refl _) fun object => ?_
      rcases p.findMethod object.classId name with _ | _ | callable
      · exact .outOfFuel
      · exact .refl _
      · exact hCall callable (.object ref :: args)

end Code

/-! ## More fuel -/

/-- A call comes to the same end with more fuel. -/
theorem covered_invoke (hFuel : fuel ≤ fuel') (callable : CallableId) (args : List Value) :
    Covered P (p.invoke fuel callable args) (p.invoke fuel' callable args) := by
  induction fuel generalizing fuel' callable args with
  | zero => exact .outOfFuel
  | succ fuel ih =>
      obtain ⟨more, rfl⟩ := Nat.exists_eq_add_of_le' hFuel
      rw [invoke_succ, ← Nat.add_assoc, invoke_succ]
      refine .bind (.refl _) fun depth => ?_
      split
      · exact .refl _
      · have hLe : fuel ≤ more + fuel := Nat.le_add_left fuel more
        exact covered_dispatch (ih hLe) hLe callable args

/-- **More fuel never changes an outcome.** -/
theorem serve_mono {request : Request} (h : p.serve fuel request m = some (result, m'))
    (hFuel : fuel ≤ fuel') : p.serve fuel' request m = some (result, m') := by
  rw [serve_eq_serveWith] at h ⊢
  exact covered_serveWith (P := fun _ => True) (covered_invoke hFuel) request m result m' h
    fun _ _ => trivial

/-! ## No limit -/

/-- A call on a machine that refuses none, however many bodies are running. -/
def invokeUnlimited (p : Program) : Nat → CallableId → List Value → Eval Value
  | 0, _, _ => Eval.outOfFuel
  | fuel + 1, callable, args => p.dispatch (p.invokeUnlimited fuel) fuel callable args

/-- A request to a machine that refuses no call. -/
def serveUnlimited (p : Program) (fuel : Nat) (request : Request) : Eval Value :=
  p.serveWith (p.invokeUnlimited fuel) request

/-- Unless it is refused or a call inside it is, a call comes to the same end without a limit. -/
theorem covered_invokeUnlimited (callable : CallableId) (args : List Value) :
    Covered (· ≠ .stackOverflow) (p.invoke fuel callable args)
      (p.invokeUnlimited fuel callable args) := by
  induction fuel generalizing callable args with
  | zero => exact .outOfFuel
  | succ fuel ih =>
      intro m result m' h hCounts
      have hRead : Eval.depth m = some (.ok m.depth, m) := rfl
      rw [invoke_succ, Eval.bind_of_ok hRead] at h
      by_cases hDepth : Machine.maxDepth ≤ m.depth
      · rw [if_pos hDepth] at h
        cases h
        exact absurd rfl (hCounts _ rfl)
      · rw [if_neg hDepth] at h
        exact covered_dispatch ih (Nat.le_refl fuel) callable args m result m' h hCounts

/-- **Without a limit the outcome is the same**, unless it is a refused call. -/
theorem serveUnlimited_eq {request : Request} (h : p.serve fuel request m = some (result, m'))
    (hResult : result ≠ .error .stackOverflow) :
    p.serveUnlimited fuel request m = some (result, m') := by
  rw [serve_eq_serveWith] at h
  refine covered_serveWith covered_invokeUnlimited request m result m' h ?_
  rintro e rfl rfl
  exact hResult rfl

end Program
end TwoPhase
