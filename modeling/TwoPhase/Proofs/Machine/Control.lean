import Mathlib.Logic.Relation
import TwoPhase.Proofs.Ir.Check
import TwoPhase.Proofs.Lowering.Filling
import TwoPhase.Proofs.Machine.Eval
import TwoPhase.Proofs.Machine.Session
import TwoPhase.Proofs.Provider.Faithful

/-!
# Where control comes

Bodies are checked once, when a program is lowered, and run many times, inside each other and
along any jumps.  That the check suffices is shown in two halves.

## Strategy

`Moves` says how control goes on: from a call into the entry block of a body, from a block along
its jump, and from the middle of a block into the callable it delegates to.  It is defined from
the functions that run programs, so it follows what they do, whatever becomes of the run.

One half is an invariant: in a lowered program every move leads to a block that exists and is
closed (`Moves.sound`).  The other half goes backwards from the error: a run ends in `unreachable`
only if control has come to a block that is missing or open (`exists_stuck_of_invoke`, by
induction on the fuel, which bounds nested calls as well as jumps).

## Main results

* `Moves.sound`, `Comes.sound` — control stays in closed blocks.
* `exists_stuck_of_serve` — what it takes for a run to end in `unreachable`.
* `control_stays_in_blocks` — in every session with a lowered program.
-/

namespace TwoPhase

open Ir (Body Block BlockId Instr Register)

/-- A point at which control may go one way or another: a call about to be made, or a block about
to be run, with the machine at that time. -/
inductive Position where
  | call (callable : CallableId) (args : List Value) (m : Machine)
  | block (body : Body) (id : BlockId) (frame : Frame) (m : Machine)

/-- Control has come to no block, or to an open one, in the body of a callable. -/
def Position.Stuck (callable : CallableId) : Position → Prop
  | call .. => False
  | block body id _ _ => body.callable = callable ∧
      ∀ block, body.block? id = some block → block.terminator = .unreachable

/-- If control is at a block, it is a closed block of a body of the program. -/
def Position.Sound (p : Program) : Position → Prop
  | call .. => True
  | block body id _ _ => body ∈ p.module.bodies ∧
      ∃ block, body.block? id = some block ∧ block.terminator ≠ .unreachable

theorem Position.Stuck.not_sound {p : Program} {callable : CallableId} {there : Position}
    (hStuck : there.Stuck callable) : ¬ there.Sound p := by
  intro hSound
  cases there with
  | call callable args m => exact hStuck
  | block body id frame m =>
      obtain ⟨_, block, hBlock, hClosed⟩ := hSound
      exact hClosed (hStuck.2 block hBlock)

/-- An error that does not say that control has come to a wrong place. -/
def RuntimeError.Benign (e : RuntimeError) : Prop := ∀ callable, e ≠ .unreachable callable

namespace Program

variable {p : Program} {fuel : Nat} {m m' : Machine} {frame : Frame} {callable : CallableId}
  {args : List Value}

/-! ## Moves -/

/-- A run of instructions comes to a delegation and calls its target. -/
inductive Calls (p : Program) (call : CallableId → List Value → Eval Value) (frame : Frame)
    (instrs : List Instr) (m : Machine) : CallableId → List Value → Machine → Prop
  | delegate {before after : List Instr} {this : Register} {target : CallableId}
      {registers : List Register} {frame' : Frame} {m' : Machine} {ref : ObjectRef}
      {values : List Value} (hInstrs : instrs = before ++ .delegate this target registers :: after)
      (hRun : p.steps call frame before m = some (.ok frame', m'))
      (hThis : frame'.readObject this = .ok ref)
      (hValues : registers.mapM frame'.read = .ok values) :
      Calls p call frame instrs m target (.object ref :: values) m'

/-- How control goes on from one position to the next. -/
inductive Moves (p : Program) : Position → Position → Prop
  | enter {callable : CallableId} {args : List Value} {m next : Machine} {body : Body}
      (hDepth : m.depth < Machine.maxDepth) (hOwn : isRootConstructor callable = false)
      (hAnnounce : announce callable m = some (.ok (), next))
      (hBody : p.module.body? callable = some body) (hCount : args.length = body.params.length) :
      Moves p (.call callable args m)
        (.block body body.entry (.enter body args) { next with depth := next.depth + 1 })
  | jump {fuel : Nat} {body : Body} {id target : BlockId} {block : Block} {frame frame' : Frame}
      {m m' : Machine} (hBlock : body.block? id = some block)
      (hRun : p.steps (p.invoke fuel) frame block.instrs m = some (.ok frame', m'))
      (hJump : block.terminator = .jump target) :
      Moves p (.block body id frame m) (.block body target frame' m')
  | delegate {fuel : Nat} {body : Body} {id : BlockId} {block : Block} {frame : Frame}
      {target : CallableId} {args : List Value} {m m' : Machine}
      (hBlock : body.block? id = some block)
      (hCalls : Calls p (p.invoke fuel) frame block.instrs m target args m') :
      Moves p (.block body id frame m) (.call target args m')

/-- Control comes from one position to another. -/
def Comes (p : Program) : Position → Position → Prop := Relation.ReflTransGen (Moves p)

/-- In a program of well-formed bodies, a move leads to a closed block. -/
theorem Moves.sound (hBodies : ∀ body ∈ p.module.bodies, body.WellFormed) {here there : Position}
    (h : Moves p here there) (hSound : here.Sound p) : there.Sound p := by
  cases h with
  | enter _ _ _ hBody _ =>
      obtain ⟨hMem, _⟩ := Ir.Module.mem_of_body? hBody
      obtain ⟨block, hBlock⟩ := (hBodies _ hMem).exists_entry
      exact ⟨hMem, block, hBlock, (hBodies _ hMem).closed_of_block? hBlock⟩
  | jump hBlock _ hJump =>
      have hMem := hSound.1
      obtain ⟨next, hNext⟩ := (hBodies _ hMem).exists_target hBlock hJump
      exact ⟨hMem, next, hNext, (hBodies _ hMem).closed_of_block? hNext⟩
  | delegate _ _ => exact trivial

/-- So do any number of moves. -/
theorem Comes.sound (hBodies : ∀ body ∈ p.module.bodies, body.WellFormed) {here there : Position}
    (h : Comes p here there) (hSound : here.Sound p) : there.Sound p := by
  induction h with
  | refl => exact hSound
  | tail _ hMove ih => exact hMove.sound hBodies ih

/-! ## Instructions -/

theorem benign_of_read {register : Register} {e : RuntimeError}
    (h : frame.read register = .error e) : e.Benign := by
  rw [Frame.error_of_read h]
  nofun

theorem benign_of_readObject {register : Register} {e : RuntimeError}
    (h : frame.readObject register = .error e) : e.Benign := by
  rcases Frame.error_of_readObject h with rfl | ⟨_, rfl⟩
  · nofun
  · nofun

theorem benign_of_readAll {registers : List Register} {e : RuntimeError}
    (h : registers.mapM frame.read = .error e) : e.Benign := by
  obtain ⟨_, _, rfl⟩ := Frame.error_of_readAll h
  nofun

theorem raises_benign_initFields (ref : ObjectRef) (classId : ClassId) :
    Eval.Raises RuntimeError.Benign (p.initFields ref classId) := by
  refine .bind (.ofOption nofun _) fun _ => .bind (.objectAt nofun) fun object =>
    .bind (.ofOption nofun _) fun layout => ?_
  dsimp only
  split
  · exact .pure ()
  · exact .bind (.writeSlots nofun fun _ => nofun) fun _ => nofun

/-- The errors of an instruction other than a delegation are benign. -/
theorem raises_benign_step {call : CallableId → List Value → Eval Value} {instr : Instr}
    (h : ∀ this target registers, instr ≠ .delegate this target registers) :
    Eval.Raises RuntimeError.Benign (p.step call frame instr) := by
  cases instr with
  | assign dest value =>
      cases value with
      | register source => exact .bind (.ofExcept benign_of_read) fun _ => .pure _
      | literal l => exact .pure _
  | delegate this target registers => exact absurd rfl (h this target registers)
  | initFields this classId =>
      exact .bind (.ofExcept benign_of_readObject) fun ref =>
        .bind (raises_benign_initFields ref classId) fun _ => .pure _
  | load dest object slot =>
      exact .bind (.ofExcept benign_of_readObject) fun ref => .bind (.objectAt nofun) fun target =>
        .bind (.ofOption nofun _) fun _ => .pure _
  | store object slot value =>
      exact .bind (.ofExcept benign_of_readObject) fun ref =>
        .bind (.ofExcept benign_of_read) fun value =>
          .bind (.writeSlots nofun fun _ => nofun) fun _ => .pure _

/-- A delegation ends in `unreachable` only if its target does. -/
theorem calls_of_delegate {call : CallableId → List Value → Eval Value} {this : Register}
    {target : CallableId} {registers : List Register}
    (h : p.step call frame (.delegate this target registers) m =
      some (.error (.unreachable callable), m')) :
    ∃ ref values, frame.readObject this = .ok ref ∧ registers.mapM frame.read = .ok values ∧
      call target (.object ref :: values) m = some (.error (.unreachable callable), m') := by
  rw [step] at h
  rcases Eval.bind_eq_error_iff.1 h with hError | ⟨ref, next, hReads, hRest⟩
  · exact absurd rfl (Eval.Raises.ofExcept benign_of_readObject _ _ _ hError callable)
  · obtain ⟨hThis, rfl⟩ := Eval.ofExcept_eq_ok_iff.1 hReads
    rcases Eval.bind_eq_error_iff.1 hRest with hError | ⟨values, next, hReads, hCall⟩
    · exact absurd rfl (Eval.Raises.ofExcept benign_of_readAll _ _ _ hError callable)
    · obtain ⟨hValues, rfl⟩ := Eval.ofExcept_eq_ok_iff.1 hReads
      rcases Eval.bind_eq_error_iff.1 hCall with hError | ⟨_, _, _, hDone⟩
      · exact ⟨ref, values, hThis, hValues, hError⟩
      · cases hDone

/-- Instructions end in `unreachable` only if a callable does to which one of them delegates. -/
theorem calls_of_steps {call : CallableId → List Value → Eval Value} :
    ∀ (instrs : List Instr) {frame : Frame} {m : Machine},
      p.steps call frame instrs m = some (.error (.unreachable callable), m') →
      ∃ target args next, Calls p call frame instrs m target args next ∧
        call target args next = some (.error (.unreachable callable), m') := by
  intro instrs
  induction instrs with
  | nil => intro frame m h; cases h
  | cons instr rest ih =>
      intro frame m h
      rw [steps] at h
      rcases Eval.bind_eq_error_iff.1 h with hFirst | ⟨frame', next, hFirst, hRest⟩
      · by_cases hDelegate : ∃ this target registers, instr = .delegate this target registers
        · obtain ⟨this, target, registers, rfl⟩ := hDelegate
          obtain ⟨ref, values, hThis, hValues, hCall⟩ := calls_of_delegate hFirst
          have hCalls : Calls p call frame (.delegate this target registers :: rest) m target
              (.object ref :: values) m :=
            .delegate (List.nil_append _).symm rfl hThis hValues
          exact ⟨target, _, m, hCalls, hCall⟩
        · have hOther : ∀ this target registers, instr ≠ .delegate this target registers :=
            fun this target registers hEq => hDelegate ⟨this, target, registers, hEq⟩
          exact absurd rfl (raises_benign_step hOther _ _ _ hFirst callable)
      · obtain ⟨target, args, last, hCalls, hError⟩ := ih hRest
        obtain ⟨hInstrs, hRun, hThis, hValues⟩ := hCalls
        refine ⟨_, _, _, .delegate ((congrArg (instr :: ·) hInstrs).trans
          (List.cons_append).symm) ?_ hThis hValues, hError⟩
        exact Eval.bind_eq_ok_iff.2 ⟨frame', next, hFirst, hRun⟩

/-! ## Runs that end in an error -/

/-- Blocks end in `unreachable` only if control comes to be stuck there or in a callable that
they delegate to. -/
theorem exists_stuck_of_runFrom {body : Body}
    (hCall : ∀ {target args m last},
      p.invoke fuel target args m = some (.error (.unreachable callable), last) →
      ∃ there, Comes p (.call target args m) there ∧ there.Stuck callable) :
    ∀ (steps : Nat) {id : BlockId} {frame : Frame} {m : Machine},
      p.runFrom (p.invoke fuel) body steps id frame m =
        some (.error (.unreachable callable), m') →
      ∃ there, Comes p (.block body id frame m) there ∧ there.Stuck callable := by
  intro steps
  induction steps with
  | zero => intro id frame m h; cases h
  | succ steps ih =>
      intro id frame m h
      rw [runFrom] at h
      rcases Eval.bind_eq_error_iff.1 h with hMissing | ⟨block, next, hFound, hInside⟩
      · refine ⟨_, .refl, ?_⟩
        cases hBlock : body.block? id with
        | some block => rw [hBlock] at hMissing; cases hMissing
        | none =>
            rw [hBlock] at hMissing
            cases hMissing
            exact ⟨rfl, fun block h => nomatch hBlock.symm.trans h⟩
      · obtain ⟨hBlock, rfl⟩ := Eval.ofOption_eq_ok_iff.1 hFound
        rcases Eval.bind_eq_error_iff.1 hInside with hInstrs | ⟨frame', next, hRun, hLeave⟩
        · obtain ⟨target, args, next, hCalls, hError⟩ := calls_of_steps _ hInstrs
          obtain ⟨there, hComes, hStuck⟩ := hCall hError
          exact ⟨there, .head (.delegate hBlock hCalls) hComes, hStuck⟩
        · cases hEnd : block.terminator with
          | jump target =>
              rw [hEnd] at hLeave
              obtain ⟨there, hComes, hStuck⟩ := ih hLeave
              exact ⟨there, .head (.jump hBlock hRun hEnd) hComes, hStuck⟩
          | ret value =>
              rw [hEnd] at hLeave
              cases value with
              | none => cases hLeave
              | some register =>
                  exact absurd rfl (Eval.Raises.ofExcept benign_of_read _ _ _ hLeave callable)
          | unreachable =>
              rw [hEnd] at hLeave
              cases hLeave
              refine ⟨_, .refl, rfl, fun other hOther => ?_⟩
              cases hBlock.symm.trans hOther
              exact hEnd

/-- A call ends in `unreachable` only if control comes to be stuck. -/
theorem exists_stuck_of_invoke :
    ∀ (fuel : Nat) {target : CallableId} {args : List Value} {m m' : Machine},
      p.invoke fuel target args m = some (.error (.unreachable callable), m') →
      ∃ there, Comes p (.call target args m) there ∧ there.Stuck callable := by
  intro fuel
  induction fuel with
  | zero => intro target args m m' h; cases h
  | succ fuel ih =>
      intro target args m m' h
      cases invocation_of_invoke h with
      | run hDepth hAnnounce hOwn hBody hCount hRun =>
          obtain ⟨there, hComes, hStuck⟩ := exists_stuck_of_runFrom ih fuel hRun
          exact ⟨there, .head (.enter hDepth hOwn hAnnounce hBody hCount) hComes, hStuck⟩

/-! ## Requests -/

/-- The call with which a request starts, once it is clear that there is one. -/
inductive Opens (p : Program) (m : Machine) : Request → Position → Prop
  | construct {id : ClassId} {layout : Ir.ClassLayout} {constructor : CallableId}
      (hLayout : p.module.class? id = some layout)
      (hConstructor : layout.constructor = some constructor) :
      Opens p m (.construct id)
        (.call constructor [.object ⟨m.heap.size⟩] (withFresh m layout id))
  | call {ref : ObjectRef} {name : Name} {args : List Value} {object : Object}
      {method : CallableId} (hObject : m.heap[ref.index]? = some object)
      (hMethod : p.findMethod object.classId name = some (some method)) :
      Opens p m (.call ref name args) (.call method (.object ref :: args) m)

theorem Opens.sound {request : Request} {start : Position} (h : Opens p m request start) :
    start.Sound p := by
  cases h with
  | construct _ _ => exact trivial
  | call _ _ => exact trivial

/-- A request ends in `unreachable` only if control comes to be stuck. -/
theorem exists_stuck_of_serve {request : Request}
    (h : p.serve fuel request m = some (.error (.unreachable callable), m')) :
    ∃ start there, Opens p m request start ∧ Comes p start there ∧ there.Stuck callable := by
  cases service_of_serve h with
  | abandoned hLayout hConstructor hInvoke =>
      obtain ⟨there, hComes, hStuck⟩ := exists_stuck_of_invoke fuel hInvoke
      exact ⟨_, there, .construct hLayout hConstructor, hComes, hStuck⟩
  | called hObject hMethod hInvoke =>
      obtain ⟨there, hComes, hStuck⟩ := exists_stuck_of_invoke fuel hInvoke
      exact ⟨_, there, .call hObject hMethod, hComes, hStuck⟩

/-! ## Lowered programs -/

/-- Every body of a lowered program has passed the check. -/
theorem wellFormed_of_lower {r : Resolver} (hLower : r.lower = .ok p) :
    ∀ body ∈ p.module.bodies, body.WellFormed := by
  intro body hBody
  have hFilled := (Resolver.lower_eq_ok_iff.1 hLower).bodies
  obtain ⟨_, hSound⟩ := exists_forall₂_iff.1 ⟨_, hFilled.flip⟩ body hBody
  exact Body.check_eq_ok_iff.1 hSound.sound

/-- **Control stays in the blocks of a lowered program.**  Along any session no request ends in
`unreachable`.  Whichever request comes next, and whether or not it comes to an end, control is
always at a block that exists and is closed, in every body that the request runs. -/
theorem control_stays_in_blocks {r : Resolver} (hLower : r.lower = .ok p)
    {first last : Machine} {history : List (Request × Except RuntimeError Value)}
    (hSession : Session p first history last) :
    (∀ entry ∈ history, ∀ callable, entry.2 ≠ .error (.unreachable callable)) ∧
      ∀ {request start body id frame now}, Opens p last request start →
        Comes p start (.block body id frame now) →
        ∃ block, body.block? id = some block ∧ block.terminator ≠ .unreachable := by
  have hBodies := wellFormed_of_lower hLower
  constructor
  · refine Session.forall_outcomes (P := fun result => ∀ callable,
      result ≠ .error (.unreachable callable)) ?_ hSession
    rintro fuel request m _ next hServe callable rfl
    obtain ⟨start, there, hOpens, hComes, hStuck⟩ := exists_stuck_of_serve hServe
    exact hStuck.not_sound (hComes.sound hBodies hOpens.sound)
  · intro request start body id frame now hOpens hComes
    exact (hComes.sound hBodies hOpens.sound).2

/-! ## A sample -/

/-- A body that is entered at block 3, with two blocks of number 1 and one that is never run. -/
def ringBody (callable target : CallableId) : Body where
  callable := callable
  params := [⟨0, ⟨0⟩⟩]
  returns := ⟨0⟩
  blocks :=
    [⟨⟨1⟩, none, [], .ret none⟩, ⟨⟨9⟩, none, [], .jump ⟨9⟩⟩,
      ⟨⟨3⟩, none, [.delegate ⟨0, ⟨0⟩⟩ target []], .jump ⟨1⟩⟩, ⟨⟨1⟩, none, [], .jump ⟨3⟩⟩]
  entry := ⟨3⟩
  span := .synthetic

/-- Constructors that delegate from the left class to the right one and from there to the root
class. -/
def ringBodies : BodyProvider where
  responsible key := key == some Catalogue.Ring.key
  functionBody callable _ _ := .error (.unrecognizedCallable callable.id.text)
  constructorBody callable _ _ :=
    .ok (ringBody callable.id (.constructorOf
      (if callable.id.owner = some Catalogue.Ring.left then Catalogue.Ring.right else rootClass)))

/-- The sample with its members declared. -/
def ringResolver : Resolver :=
  let start := Resolver.start "main" ⟨[Catalogue.ring.provider], [ringBodies]⟩
  let declared := ((start.resolveClass Catalogue.Ring.left).2.resolveClass Catalogue.Ring.right).2
  ((declared.resolveMember Catalogue.Ring.left .init).2.resolveMember
    Catalogue.Ring.right .init).2

/-- What the sample is lowered to. -/
def ringProgram : Program where
  types := ringResolver.types
  symbols := ringResolver.symbols
  module :=
    { name := "main"
      bodies :=
        [ringBody (.constructorOf Catalogue.Ring.left) (.constructorOf Catalogue.Ring.right),
          ringBody (.constructorOf Catalogue.Ring.right) (.constructorOf rootClass)]
      classes := ringResolver.symbols.classes.map ringResolver.symbols.layoutOf }

theorem ringResolver_lower : ringResolver.lower = .ok ringProgram := rfl

/-- A construction runs both bodies of the sample, the second inside the first. -/
theorem ring_control : ∃ last,
    let history : List (Request × Except RuntimeError Value) :=
      [(.construct Catalogue.Ring.left, .ok (.object ⟨0⟩))]
    ringResolver.lower = .ok ringProgram ∧ Session ringProgram Machine.start history last ∧
      (∀ entry ∈ history, ∀ callable, entry.2 ≠ .error (.unreachable callable)) ∧
      ∀ {request start body id frame now}, Opens ringProgram last request start →
        Comes ringProgram start (.block body id frame now) →
        ∃ block, body.block? id = some block ∧ block.terminator ≠ .unreachable := by
  obtain ⟨last, hServe⟩ : ∃ last, ringProgram.serve 5 (.construct Catalogue.Ring.left)
      Machine.start = some (.ok (.object ⟨0⟩), last) := ⟨_, rfl⟩
  have hSession := Session.cons hServe (.nil last)
  exact ⟨last, ringResolver_lower, hSession,
    control_stays_in_blocks ringResolver_lower hSession⟩

end Program
end TwoPhase
