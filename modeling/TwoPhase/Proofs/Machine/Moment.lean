import Mathlib.Logic.Relation
import TwoPhase.Proofs.Machine.Control

/-!
# Moments of an evaluation

The machine evaluates a call in one go and answers with what is left at the end.  What is true
while a call lasts is said about its moments: what is about to be done, the bodies that are being
run inside each other, and the machine at that time.

## Strategy

`Goes` leads from one moment to the next, by the functions that run programs: a call is announced
and looked up, an instruction that calls nothing is run by `step`, a delegation leaves its body
waiting among the callers.  Evaluations follow it: whatever a call ends with is where its moments
end (`leads_of_invoke`, by induction on the fuel).  As there is one way to go on
(`Goes.rightUnique`), every moment of an evaluation that ends lies on the way there
(`Leads.leads_end`), and an invariant is proved by looking at single moments.

## Main results

* `step_eq_or_delegates` — what an instruction does apart from calls.
* `leads_of_invoke`, `ending_of_serve` — evaluations and requests are made of their moments.
* `Leads.leads_end`, `During.leads_end` — every moment comes before the end.
-/

namespace TwoPhase

open Ir (Body Block BlockId Instr Register Terminator)
open Relation (ReflTransGen)

/-- A body that is being run: the block where control is, what is left of the block's
instructions, and the registers. -/
structure Activation where
  body : Body
  block : Block
  rest : List Instr
  frame : Frame

/-- What is about to be done in an evaluation. -/
inductive Task where
  | call (callable : CallableId) (args : List Value)
  /-- Control is at a block, given by its number. -/
  | block (body : Body) (id : BlockId) (frame : Frame)
  /-- Control is inside a block. -/
  | code (active : Activation)
  /-- A call has ended. -/
  | done (result : Except RuntimeError Value)

/-- A moment of an evaluation.  The callers are the bodies that wait for a call to end, the
innermost first. -/
structure Moment where
  task : Task
  callers : List Activation
  machine : Machine

/-- The frames of the bodies that are being run, the innermost first. -/
def Moment.frames (now : Moment) : List Frame :=
  let waiting := now.callers.map Activation.frame
  match now.task with
  | .call .. | .done _ => waiting
  | .block _ _ frame => frame :: waiting
  | .code active => active.frame :: waiting

/-- The machine one call deeper. -/
def Machine.deeper (m : Machine) : Machine := { m with depth := m.depth + 1 }

/-- The machine after a body has been left. -/
def Machine.back (m : Machine) : Machine := { m with depth := m.depth - 1 }

/-- What a body ends with at the end of a block, unless control goes on in another block. -/
def Activation.result? (active : Activation) : Option (Except RuntimeError Value) :=
  match active.block.terminator with
  | .jump _ => none
  | .ret (some register) => some (active.frame.read register)
  | .ret none => some (.ok .null)
  | .unreachable => some (.error (.unreachable active.body.callable))

/-- Makes no call. -/
def Eval.noCall : CallableId → List Value → Eval Value := fun _ _ => .outOfFuel

namespace Program

variable {p : Program} {fuel : Nat} {m m' : Machine} {frame : Frame} {body : Body}
  {block : Block}

/-- How an evaluation goes on from one moment to the next. -/
inductive Goes (p : Program) : Moment → Moment → Prop
  | refuse {callable : CallableId} {args : List Value} {callers : List Activation} {m : Machine}
      (hDepth : Machine.maxDepth ≤ m.depth) :
      Goes p ⟨.call callable args, callers, m⟩ ⟨.done (.error .stackOverflow), callers, m⟩
  | root {callable : CallableId} {args : List Value} {callers : List Activation}
      {m next : Machine} (hDepth : m.depth < Machine.maxDepth)
      (hAnnounce : announce callable m = some (.ok (), next))
      (hOwn : isRootConstructor callable = true) :
      Goes p ⟨.call callable args, callers, m⟩ ⟨.done (.ok .null), callers, next⟩
  | absent {callable : CallableId} {args : List Value} {callers : List Activation}
      {m next : Machine} (hDepth : m.depth < Machine.maxDepth)
      (hAnnounce : announce callable m = some (.ok (), next))
      (hOwn : isRootConstructor callable = false) (hBody : p.module.body? callable = none) :
      Goes p ⟨.call callable args, callers, m⟩
        ⟨.done (.error (.noBody callable)), callers, next⟩
  | count {callable : CallableId} {args : List Value} {callers : List Activation}
      {m next : Machine} {body : Body} (hDepth : m.depth < Machine.maxDepth)
      (hAnnounce : announce callable m = some (.ok (), next))
      (hOwn : isRootConstructor callable = false)
      (hBody : p.module.body? callable = some body) (hCount : args.length ≠ body.params.length) :
      Goes p ⟨.call callable args, callers, m⟩
        ⟨.done (.error (.typeError
          (.argumentCount body.callable body.params.length args.length))), callers, next⟩
  | enter {callable : CallableId} {args : List Value} {callers : List Activation}
      {m next : Machine} {body : Body} (hDepth : m.depth < Machine.maxDepth)
      (hAnnounce : announce callable m = some (.ok (), next))
      (hOwn : isRootConstructor callable = false)
      (hBody : p.module.body? callable = some body) (hCount : args.length = body.params.length) :
      Goes p ⟨.call callable args, callers, m⟩
        ⟨.block body body.entry (.enter body args), callers, next.deeper⟩
  | lost {body : Body} {id : BlockId} {frame : Frame} {callers : List Activation} {m : Machine}
      (hBlock : body.block? id = none) :
      Goes p ⟨.block body id frame, callers, m⟩
        ⟨.done (.error (.unreachable body.callable)), callers, m.back⟩
  | begin {body : Body} {id : BlockId} {block : Block} {frame : Frame}
      {callers : List Activation} {m : Machine} (hBlock : body.block? id = some block) :
      Goes p ⟨.block body id frame, callers, m⟩
        ⟨.code ⟨body, block, block.instrs, frame⟩, callers, m⟩
  | step {body : Body} {block : Block} {instr : Instr} {rest : List Instr}
      {frame frame' : Frame} {callers : List Activation} {m m' : Machine}
      (hStep : p.step Eval.noCall frame instr m = some (.ok frame', m')) :
      Goes p ⟨.code ⟨body, block, instr :: rest, frame⟩, callers, m⟩
        ⟨.code ⟨body, block, rest, frame'⟩, callers, m'⟩
  | fail {body : Body} {block : Block} {instr : Instr} {rest : List Instr} {frame : Frame}
      {callers : List Activation} {m m' : Machine} {e : RuntimeError}
      (hStep : p.step Eval.noCall frame instr m = some (.error e, m')) :
      Goes p ⟨.code ⟨body, block, instr :: rest, frame⟩, callers, m⟩
        ⟨.done (.error e), callers, m'.back⟩
  | delegate {body : Body} {block : Block} {rest : List Instr} {frame : Frame} {this : Register}
      {target : CallableId} {registers : List Register} {callers : List Activation} {m : Machine}
      {ref : ObjectRef} {values : List Value} (hThis : frame.readObject this = .ok ref)
      (hValues : registers.mapM frame.read = .ok values) :
      Goes p ⟨.code ⟨body, block, .delegate this target registers :: rest, frame⟩, callers, m⟩
        ⟨.call target (.object ref :: values), ⟨body, block, rest, frame⟩ :: callers, m⟩
  | jump {body : Body} {block : Block} {frame : Frame} {target : BlockId}
      {callers : List Activation} {m : Machine} (hEnd : block.terminator = .jump target) :
      Goes p ⟨.code ⟨body, block, [], frame⟩, callers, m⟩ ⟨.block body target frame, callers, m⟩
  | leave {body : Body} {block : Block} {frame : Frame} {callers : List Activation} {m : Machine}
      {result : Except RuntimeError Value}
      (hEnd : Activation.result? ⟨body, block, [], frame⟩ = some result) :
      Goes p ⟨.code ⟨body, block, [], frame⟩, callers, m⟩ ⟨.done result, callers, m.back⟩
  | resume {value : Value} {caller : Activation} {callers : List Activation} {m : Machine} :
      Goes p ⟨.done (.ok value), caller :: callers, m⟩ ⟨.code caller, callers, m⟩
  | unwind {e : RuntimeError} {caller : Activation} {callers : List Activation} {m : Machine} :
      Goes p ⟨.done (.error e), caller :: callers, m⟩ ⟨.done (.error e), callers, m.back⟩

/-- An evaluation comes from one moment to another. -/
def Leads (p : Program) : Moment → Moment → Prop := ReflTransGen (Goes p)

/-! ## Instructions -/

/-- An instruction does the same whatever calls do, unless it is a delegation that gets as far as
its call. -/
theorem step_eq_or_delegates (call : CallableId → List Value → Eval Value) (frame : Frame)
    (instr : Instr) :
    p.step call frame instr = p.step Eval.noCall frame instr ∨
      ∃ this target registers ref values, instr = .delegate this target registers ∧
        frame.readObject this = .ok ref ∧ registers.mapM frame.read = .ok values := by
  cases instr with
  | assign dest value => exact .inl (by cases value <;> rfl)
  | initFields this classId => exact .inl rfl
  | load dest object slot => exact .inl rfl
  | store object slot value => exact .inl rfl
  | delegate this target registers =>
      cases hThis : frame.readObject this with
      | error e =>
          left
          rw [step, step, hThis]
          rfl
      | ok ref =>
          cases hValues : registers.mapM frame.read with
          | error e =>
              left
              rw [step, step, hThis, hValues]
              rfl
          | ok values => exact .inr ⟨this, target, registers, ref, values, rfl, hThis, hValues⟩

/-- A delegation that gets as far as its call. -/
theorem step_delegate (call : CallableId → List Value → Eval Value) {this : Register}
    {target : CallableId} {registers : List Register} {ref : ObjectRef} {values : List Value}
    (hThis : frame.readObject this = .ok ref) (hValues : registers.mapM frame.read = .ok values) :
    p.step call frame (.delegate this target registers) = (do
      let _ ← call target (.object ref :: values)
      return frame) := by
  have hFirst : Eval.ofExcept (frame.readObject this) = pure ref := by
    rw [hThis]
    rfl
  have hSecond : Eval.ofExcept (registers.mapM frame.read) = pure values := by
    rw [hValues]
    rfl
  rw [step, hFirst, hSecond, pure_bind, pure_bind]

/-- Without calls it goes nowhere. -/
theorem step_noCall_delegate {this : Register} {target : CallableId} {registers : List Register}
    {ref : ObjectRef} {values : List Value} (hThis : frame.readObject this = .ok ref)
    (hValues : registers.mapM frame.read = .ok values) :
    p.step Eval.noCall frame (.delegate this target registers) m = none := by
  rw [step_delegate _ hThis hValues]
  rfl

/-! ## One way to go on -/

/-- The next moment is determined. -/
theorem Goes.rightUnique : Relator.RightUnique (Goes p) := by
  intro now next other hNext hOther
  cases hNext with
  | refuse hDepth =>
      cases hOther with
      | refuse => rfl
      | root hBelow => omega
      | absent hBelow => omega
      | count hBelow => omega
      | enter hBelow => omega
  | root hDepth hAnnounce hOwn =>
      cases hOther with
      | refuse hOver => omega
      | root _ hAnnounce' =>
          cases hAnnounce.symm.trans hAnnounce'
          rfl
      | absent _ _ hOwn' => cases hOwn.symm.trans hOwn'
      | count _ _ hOwn' => cases hOwn.symm.trans hOwn'
      | enter _ _ hOwn' => cases hOwn.symm.trans hOwn'
  | absent hDepth hAnnounce hOwn hBody =>
      cases hOther with
      | refuse hOver => omega
      | root _ _ hOwn' => cases hOwn.symm.trans hOwn'
      | absent _ hAnnounce' =>
          cases hAnnounce.symm.trans hAnnounce'
          rfl
      | count _ _ _ hBody' => cases hBody.symm.trans hBody'
      | enter _ _ _ hBody' => cases hBody.symm.trans hBody'
  | count hDepth hAnnounce hOwn hBody hCount =>
      cases hOther with
      | refuse hOver => omega
      | root _ _ hOwn' => cases hOwn.symm.trans hOwn'
      | absent _ _ _ hBody' => cases hBody.symm.trans hBody'
      | count _ hAnnounce' _ hBody' =>
          cases hAnnounce.symm.trans hAnnounce'
          cases hBody.symm.trans hBody'
          rfl
      | enter _ _ _ hBody' hCount' =>
          cases hBody.symm.trans hBody'
          exact absurd hCount' hCount
  | enter hDepth hAnnounce hOwn hBody hCount =>
      cases hOther with
      | refuse hOver => omega
      | root _ _ hOwn' => cases hOwn.symm.trans hOwn'
      | absent _ _ _ hBody' => cases hBody.symm.trans hBody'
      | count _ _ _ hBody' hCount' =>
          cases hBody.symm.trans hBody'
          exact absurd hCount hCount'
      | enter _ hAnnounce' _ hBody' =>
          cases hAnnounce.symm.trans hAnnounce'
          cases hBody.symm.trans hBody'
          rfl
  | lost hBlock =>
      cases hOther with
      | lost => rfl
      | begin hBlock' => cases hBlock.symm.trans hBlock'
  | begin hBlock =>
      cases hOther with
      | lost hBlock' => cases hBlock.symm.trans hBlock'
      | begin hBlock' =>
          cases hBlock.symm.trans hBlock'
          rfl
  | step hStep =>
      cases hOther with
      | step hStep' =>
          cases hStep.symm.trans hStep'
          rfl
      | fail hStep' => cases hStep.symm.trans hStep'
      | delegate hThis hValues => cases hStep.symm.trans (step_noCall_delegate hThis hValues)
  | fail hStep =>
      cases hOther with
      | step hStep' => cases hStep.symm.trans hStep'
      | fail hStep' =>
          cases hStep.symm.trans hStep'
          rfl
      | delegate hThis hValues => cases hStep.symm.trans (step_noCall_delegate hThis hValues)
  | delegate hThis hValues =>
      cases hOther with
      | step hStep' => cases hStep'.symm.trans (step_noCall_delegate hThis hValues)
      | fail hStep' => cases hStep'.symm.trans (step_noCall_delegate hThis hValues)
      | delegate hThis' hValues' =>
          cases hThis.symm.trans hThis'
          cases hValues.symm.trans hValues'
          rfl
  | @jump _ _ frame _ _ _ hEnd =>
      cases hOther with
      | jump hEnd' =>
          cases hEnd.symm.trans hEnd'
          rfl
      | leave hEnd' =>
          rw [Activation.result?, hEnd] at hEnd'
          cases hEnd'
  | leave hEnd =>
      cases hOther with
      | jump hEnd' =>
          rw [Activation.result?, hEnd'] at hEnd
          cases hEnd
      | leave hEnd' =>
          cases hEnd.symm.trans hEnd'
          rfl
  | resume =>
      cases hOther with
      | resume => rfl
  | unwind =>
      cases hOther with
      | unwind => rfl

/-- Nothing comes after the end. -/
theorem Leads.eq_of_end {result : Except RuntimeError Value} {now : Moment}
    (h : Leads p ⟨.done result, [], m⟩ now) : now = ⟨.done result, [], m⟩ := by
  cases h.cases_head with
  | inl hSame => exact hSame.symm
  | inr hMore =>
      obtain ⟨_, hGoes, _⟩ := hMore
      cases hGoes

/-- **Every moment of an evaluation that ends comes before the end.** -/
theorem Leads.leads_end {start now : Moment} {result : Except RuntimeError Value}
    (h : Leads p start now) (hEnd : Leads p start ⟨.done result, [], m⟩) :
    Leads p now ⟨.done result, [], m⟩ := by
  rcases ReflTransGen.total_of_right_unique Goes.rightUnique h hEnd with hBefore | hAfter
  · exact hBefore
  · rw [Leads.eq_of_end hAfter]
    exact .refl

/-! ## Evaluations go from moment to moment -/

section Adequate

variable {callers : List Activation} {rest : List Instr} {instr : Instr}
  (hCall : ∀ {target args m result m'} (callers : List Activation),
    p.invoke fuel target args m = some (result, m') →
    Leads p ⟨.call target args, callers, m⟩ ⟨.done result, callers, m'⟩)

include hCall

/-- An instruction that succeeds. -/
theorem leads_of_step {frame' : Frame}
    (h : p.step (p.invoke fuel) frame instr m = some (.ok frame', m')) :
    Leads p ⟨.code ⟨body, block, instr :: rest, frame⟩, callers, m⟩
      ⟨.code ⟨body, block, rest, frame'⟩, callers, m'⟩ := by
  rcases step_eq_or_delegates (p := p) (p.invoke fuel) frame instr with hEq |
    ⟨this, target, registers, ref, values, rfl, hThis, hValues⟩
  · rw [hEq] at h
    exact .single (.step h)
  · rw [step_delegate _ hThis hValues] at h
    obtain ⟨value, next, hInvoke, hDone⟩ := Eval.bind_eq_ok_iff.1 h
    cases hDone
    exact .head (.delegate hThis hValues) (.tail (hCall _ hInvoke) .resume)

/-- An instruction that fails. -/
theorem leads_of_step_error {e : RuntimeError}
    (h : p.step (p.invoke fuel) frame instr m = some (.error e, m')) :
    Leads p ⟨.code ⟨body, block, instr :: rest, frame⟩, callers, m⟩
      ⟨.done (.error e), callers, m'.back⟩ := by
  rcases step_eq_or_delegates (p := p) (p.invoke fuel) frame instr with hEq |
    ⟨this, target, registers, ref, values, rfl, hThis, hValues⟩
  · rw [hEq] at h
    exact .single (.fail h)
  · rw [step_delegate _ hThis hValues] at h
    rcases Eval.bind_eq_error_iff.1 h with hInvoke | ⟨_, _, _, hDone⟩
    · exact .head (.delegate hThis hValues) (.tail (hCall _ hInvoke) .unwind)
    · cases hDone

/-- The instructions of a block. -/
theorem leads_of_steps :
    ∀ (instrs : List Instr) {frame : Frame} {m m' : Machine} {result : Except RuntimeError Frame},
      p.steps (p.invoke fuel) frame instrs m = some (result, m') →
      Leads p ⟨.code ⟨body, block, instrs, frame⟩, callers, m⟩
        (match result with
          | .ok frame' => ⟨.code ⟨body, block, [], frame'⟩, callers, m'⟩
          | .error e => ⟨.done (.error e), callers, m'.back⟩) := by
  intro instrs
  induction instrs with
  | nil => intro frame m m' result h; cases h; exact .refl
  | cons instr rest ih =>
      intro frame m m' result h
      rw [steps] at h
      rcases Eval.bind_eq_some_iff.1 h with ⟨e, hFirst, rfl⟩ | ⟨frame', next, hFirst, hRest⟩
      · exact leads_of_step_error hCall hFirst
      · exact (leads_of_step hCall hFirst).trans (ih hRest)

/-- A body, from one of its blocks on. -/
theorem leads_of_runFrom :
    ∀ (steps : Nat) {id : BlockId} {frame : Frame} {m m' : Machine}
      {result : Except RuntimeError Value},
      p.runFrom (p.invoke fuel) body steps id frame m = some (result, m') →
      Leads p ⟨.block body id frame, callers, m⟩ ⟨.done result, callers, m'.back⟩ := by
  intro steps
  induction steps with
  | zero => intro id frame m m' result h; cases h
  | succ steps ih =>
      intro id frame m m' result h
      rw [runFrom] at h
      cases hBlock : body.block? id with
      | none =>
          rw [hBlock] at h
          cases h
          exact .single (.lost hBlock)
      | some block =>
          have hFound : Eval.ofOption (.unreachable body.callable) (some block) =
              (pure block : Eval Block) := rfl
          rw [hBlock, hFound, pure_bind] at h
          refine .head (.begin hBlock) ?_
          rcases Eval.bind_eq_some_iff.1 h with ⟨e, hInstrs, rfl⟩ | ⟨frame', next, hInstrs, hEnd⟩
          · exact leads_of_steps hCall _ hInstrs
          · refine (leads_of_steps hCall _ hInstrs).trans ?_
            cases hTerm : block.terminator with
            | jump target =>
                rw [hTerm] at hEnd
                exact .head (.jump hTerm) (ih hEnd)
            | ret value =>
                rw [hTerm] at hEnd
                refine .single ?_
                cases value with
                | none =>
                    cases hEnd
                    exact .leave (by rw [Activation.result?, hTerm])
                | some register =>
                    have hLeft : Activation.result? ⟨body, block, [], frame'⟩ =
                        some (frame'.read register) := by rw [Activation.result?, hTerm]
                    cases hRead : frame'.read register with
                    | error e =>
                        simp only [hRead] at hEnd hLeft
                        cases hEnd
                        exact .leave hLeft
                    | ok value =>
                        simp only [hRead] at hEnd hLeft
                        cases hEnd
                        exact .leave hLeft
            | unreachable =>
                rw [hTerm] at hEnd
                cases hEnd
                exact .single (.leave (by rw [Activation.result?, hTerm]))

end Adequate

/-- **A call is made of its moments.** -/
theorem leads_of_invoke :
    ∀ (fuel : Nat) {callable : CallableId} {args : List Value} {m m' : Machine}
      {result : Except RuntimeError Value} (callers : List Activation),
      p.invoke fuel callable args m = some (result, m') →
      Leads p ⟨.call callable args, callers, m⟩ ⟨.done result, callers, m'⟩ := by
  intro fuel
  induction fuel with
  | zero => intro callable args m m' result callers h; cases h
  | succ fuel ih =>
      intro callable args m m' result callers h
      cases invocation_of_invoke h with
      | overflow hDepth => exact .single (.refuse hDepth)
      | root hDepth hAnnounce hOwn => exact .single (.root hDepth hAnnounce hOwn)
      | absent hDepth hAnnounce hOwn hBody =>
          exact .single (.absent hDepth hAnnounce hOwn hBody)
      | count hDepth hAnnounce hOwn hBody hCount =>
          exact .single (.count hDepth hAnnounce hOwn hBody hCount)
      | run hDepth hAnnounce hOwn hBody hCount hRun =>
          exact .head (.enter hDepth hAnnounce hOwn hBody hCount) (leads_of_runFrom ih fuel hRun)

/-! ## Requests -/

/-- A moment of the evaluation that a request asks for. -/
def During (p : Program) (m : Machine) (request : Request) (now : Moment) : Prop :=
  ∃ callable args first, Opens p m request (.call callable args first) ∧
    Leads p ⟨.call callable args, [], first⟩ now

theorem Opens.unique {request : Request} {start other : Position} (h : Opens p m request start)
    (hOther : Opens p m request other) : start = other := by
  cases h with
  | construct hLayout hConstructor =>
      cases hOther with
      | construct hLayout' hConstructor' =>
          cases hLayout.symm.trans hLayout'
          cases hConstructor.symm.trans hConstructor'
          rfl
  | call hObject hMethod =>
      cases hOther with
      | call hObject' hMethod' =>
          cases hObject.symm.trans hObject'
          cases hMethod.symm.trans hMethod'
          rfl

/-- Every moment of a request comes before the end of its evaluation. -/
theorem During.leads_end {request : Request} {now : Moment} {outcome : Except RuntimeError Value}
    (h : During p m request now) (hEnd : During p m request ⟨.done outcome, [], m'⟩) :
    Leads p now ⟨.done outcome, [], m'⟩ := by
  obtain ⟨callable, args, first, hOpens, hLeads⟩ := h
  obtain ⟨_, _, _, hOpens', hLeads'⟩ := hEnd
  cases hOpens.unique hOpens'
  exact hLeads.leads_end hLeads'

end Program

/-- What is answered to a request when its evaluation ends with a value. -/
def Request.answer (m : Machine) : Request → Value → Value
  | .construct _, _ => .object ⟨m.heap.size⟩
  | .call .., value => value

namespace Program

variable {p : Program} {fuel : Nat} {m m' : Machine}

/-- How a request ends, seen from the moments of its evaluation. -/
inductive Ending (p : Program) (m : Machine) :
    Request → Except RuntimeError Value → Machine → Prop
  /-- It is refused before there is an evaluation. -/
  | refused {request : Request} {e : RuntimeError}
      (hNone : ∀ start, ¬ Opens p m request start)
      (hDangling : ∀ ref, e = .typeError (.dangling ref) →
        ∃ name args, request = .call ref name args ∧ m.heap[ref.index]? = none) :
      Ending p m request (.error e) m
  /-- It makes an object of a class that has no constructor. -/
  | bare {id : ClassId} {layout : Ir.ClassLayout} (hLayout : p.module.class? id = some layout)
      (hConstructor : layout.constructor = none) :
      Ending p m (.construct id) (.ok (.object ⟨m.heap.size⟩)) (withFresh m layout id)
  | evaluated {request : Request} {outcome : Except RuntimeError Value} {last : Machine}
      (hEnd : During p m request ⟨.done outcome, [], last⟩) :
      Ending p m request (outcome.map (request.answer m)) last

/-- **A request is made of its moments**, apart from what happens before the first call. -/
theorem ending_of_serve {request : Request} {result : Except RuntimeError Value}
    (h : p.serve fuel request m = some (result, m')) : Ending p m request result m' := by
  cases service_of_serve h with
  | unknown hLayout =>
      refine .refused ?_ nofun
      rintro start (⟨hLayout', _⟩ | _)
      cases hLayout.symm.trans hLayout'
  | bare hLayout hConstructor => exact .bare hLayout hConstructor
  | constructed hLayout hConstructor hInvoke =>
      have hEnding := Ending.evaluated
        ⟨_, _, _, .construct hLayout hConstructor, leads_of_invoke fuel [] hInvoke⟩
      exact hEnding
  | abandoned hLayout hConstructor hInvoke =>
      have hEnding := Ending.evaluated
        ⟨_, _, _, .construct hLayout hConstructor, leads_of_invoke fuel [] hInvoke⟩
      exact hEnding
  | @dangling ref name args hObject =>
      refine .refused ?_ ?_
      · rintro start (_ | ⟨hObject', _⟩)
        cases hObject.symm.trans hObject'
      · intro other hOther
        cases hOther
        exact ⟨name, args, rfl, hObject⟩
  | noMethod hObject hMethod =>
      refine .refused ?_ nofun
      rintro start (_ | ⟨hObject', hMethod'⟩)
      cases hObject.symm.trans hObject'
      cases hMethod.symm.trans hMethod'
  | called hObject hMethod hInvoke =>
      have hEnding := Ending.evaluated
        ⟨_, _, _, .call hObject hMethod, leads_of_invoke fuel [] hInvoke⟩
      cases result with
      | ok value => exact hEnding
      | error e => exact hEnding

end Program
end TwoPhase
