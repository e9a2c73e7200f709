import Mathlib.Algebra.Order.BigOperators.Group.List
import Mathlib.Algebra.Order.Ring.Nat
import Mathlib.Data.Finset.Card
import TwoPhase.Proofs.Machine.Fuel
import TwoPhase.Proofs.Machine.Lookup

/-!
# Which evaluations come to an end

A body may jump in a circle, and superclasses may go round.  Where neither happens, every request
comes to an end, even if constructors delegate to themselves or to each other for ever: calls nest
no deeper than the limit, and a refused call ends the request.

## Strategy

Three things bound an evaluation, one inside the other: the calls that may still be nested, the
blocks that a body may still come to, and the instructions that are left in a block.  `Ends depth`
says of a computation that it comes to an end from every machine on which that many bodies are
running, and that as many are running afterwards.  Calls at the depth limit end, because they are
refused.  From there it goes back to smaller depths, since a body ends if the calls inside it do, by
induction on the rank of the block where it is.

The rank of a block is the number of blocks that can be come to from it.  It is finite as the body
is, and falls with every jump as there is no way back; the same goes for a class and its
superclasses.

## Main results

* `exists_rank`, `exists_rank_from` — a relation that leads nowhere in a circle has a rank.
* `ends_invoke` — a fuel for every call.
* `findMethod_ne_none` — every search for a method ends.
* `ends_without_circles` — every request comes to an end, and if it is an endless delegation, it
  ends in `stackOverflow`.
-/

namespace TwoPhase

open Ir (Block BlockId Body Instr Register)
open Relation (ReflTransGen TransGen)

/-! ## Ranks -/

/-- A relation that leads out of finitely many things only, and from nothing back to itself, falls
in a rank: the number of things that can still be come to and left again. -/
theorem exists_rank {α : Type} {R : α → α → Prop} (sources : List α)
    (hSources : ∀ {a b}, R a b → a ∈ sources) (hAcyclic : ∀ a, ¬ TransGen R a a) :
    ∃ rank : α → Nat, (∀ a, rank a ≤ sources.length) ∧ ∀ {a b}, R a b → rank b < rank a := by
  classical
  refine ⟨fun a => (sources.toFinset.filter (ReflTransGen R a)).card, fun a => ?_, ?_⟩
  · exact (Finset.card_filter_le _ _).trans (List.toFinset_card_le sources)
  · intro a b hStep
    apply Finset.card_lt_card
    refine ⟨fun c hMem => ?_, fun hSubset => ?_⟩
    · obtain ⟨hSource, hFrom⟩ := Finset.mem_filter.1 hMem
      exact Finset.mem_filter.2 ⟨hSource, .head hStep hFrom⟩
    · -- otherwise one could come back to where the step began
      have hSelf : a ∈ sources.toFinset.filter (ReflTransGen R a) :=
        Finset.mem_filter.2 ⟨List.mem_toFinset.2 (hSources hStep), .refl⟩
      exact hAcyclic a (.head' hStep (Finset.mem_filter.1 (hSubset hSelf)).2)

/-- Where only what can be come to from a start is known to lead nowhere in a circle, it falls in a
rank on the way from there. -/
theorem exists_rank_from {α : Type} {R : α → α → Prop} {start : α} (sources : List α)
    (hSources : ∀ {a b}, R a b → a ∈ sources)
    (hAcyclic : ∀ a, ReflTransGen R start a → ¬ TransGen R a a) :
    ∃ rank : α → Nat, (∀ a, rank a ≤ sources.length) ∧
      ∀ {a b}, ReflTransGen R start a → R a b → rank b < rank a := by
  have hOnTheWay : ∀ a, ¬ TransGen (fun a b => ReflTransGen R start a ∧ R a b) a a := by
    intro a hBack
    obtain ⟨_, hFirst, _⟩ := TransGen.head'_iff.1 hBack
    exact hAcyclic a hFirst.1 (TransGen.mono (fun _ _ hStep => hStep.2) _ _ hBack)
  obtain ⟨rank, hBound, hFalls⟩ := exists_rank sources (fun hStep => hSources hStep.2) hOnTheWay
  exact ⟨rank, hBound, fun hFrom hStep => hFalls ⟨hFrom, hStep⟩⟩

namespace Ir.Body

variable {b : Body} {id target : BlockId}

/-- Control may go on from one block to the other. -/
def Jumps (b : Body) (id target : BlockId) : Prop :=
  ∃ block, b.block? id = some block ∧ block.terminator = .jump target

/-- Following jumps from the entry never comes to a block a second time. -/
def Straight (b : Body) : Prop :=
  ∀ id, ReflTransGen b.Jumps b.entry id → ¬ TransGen b.Jumps id id

theorem Jumps.mem (h : b.Jumps id target) : id ∈ b.blocks.map Block.id := by
  obtain ⟨block, hBlock, _⟩ := h
  have hId : block.id = id := by simpa using List.find?_some hBlock
  exact List.mem_map.2 ⟨block, mem_of_block? hBlock, hId⟩

/-- The rank of a block falls with every jump on the way from the entry. -/
theorem Straight.exists_rank (h : b.Straight) :
    ∃ rank : BlockId → Nat, (∀ id, rank id ≤ b.blocks.length) ∧
      ∀ {id target}, ReflTransGen b.Jumps b.entry id → b.Jumps id target →
        rank target < rank id := by
  have hRank := exists_rank_from (b.blocks.map Block.id) Jumps.mem h
  rwa [List.length_map] at hRank

end Ir.Body

/-! ## Computations that end -/

namespace Eval

variable {α β : Type} {x : Eval α} {f : α → Eval β} {depth : Nat} {e : RuntimeError}

/-- From every machine on which this many bodies are running, the computation comes to an end, and
then as many are running. -/
def Ends (depth : Nat) (x : Eval α) : Prop :=
  ∀ m, m.depth = depth → ∃ result m', x m = some (result, m') ∧ m'.depth = depth

theorem Ends.pure (a : α) : Ends depth (pure a : Eval α) := fun m hDepth => ⟨_, m, rfl, hDepth⟩

theorem Ends.fail (e : RuntimeError) : Ends depth (fail e : Eval α) :=
  fun m hDepth => ⟨_, m, rfl, hDepth⟩

/-- **A sequence ends if its parts do.** -/
theorem Ends.bind (hX : Ends depth x) (hF : ∀ a, Ends depth (f a)) : Ends depth (x >>= f) := by
  intro m hDepth
  obtain ⟨result, next, hRun, hNext⟩ := hX m hDepth
  cases result with
  | error e => exact ⟨_, next, bind_of_error hRun, hNext⟩
  | ok a =>
      obtain ⟨result, last, hRest, hLast⟩ := hF a next hNext
      exact ⟨result, last, (bind_of_ok hRun).trans hRest, hLast⟩

theorem Ends.ofOption (answer : Option α) : Ends depth (ofOption e answer) := by
  cases answer with
  | none => exact .fail e
  | some a => exact .pure a

/-- What comes after knows where the answer was found. -/
theorem Ends.bind_ofOption {answer : Option α} (hF : ∀ a, answer = some a → Ends depth (f a)) :
    Ends depth (Eval.ofOption e answer >>= f) := by
  cases answer with
  | none => exact .fail e
  | some a => exact hF a rfl

theorem Ends.ofExcept (answer : Except RuntimeError α) : Ends depth (ofExcept answer) := by
  cases answer with
  | error e => exact .fail e
  | ok a => exact .pure a

theorem Ends.record (event : Event) : Ends depth (record event) :=
  fun _ hDepth => ⟨_, _, rfl, hDepth⟩

theorem Ends.allocate (object : Object) : Ends depth (allocate object) :=
  fun _ hDepth => ⟨_, _, rfl, hDepth⟩

theorem Ends.objectAt (ref : ObjectRef) : Ends depth (objectAt ref) := by
  intro m hDepth
  rw [Eval.objectAt]
  split
  · exact ⟨_, m, rfl, hDepth⟩
  · exact ⟨_, m, rfl, hDepth⟩

theorem Ends.writeSlots (ref : ObjectRef) (values : List (Nat × Value)) :
    Ends depth (writeSlots ref values) := by
  intro m hDepth
  rw [Eval.writeSlots]
  split
  · exact ⟨_, m, rfl, hDepth⟩
  · dsimp only
    split
    · exact ⟨_, _, rfl, hDepth⟩
    · exact ⟨_, _, rfl, hDepth⟩

/-- What ends one call deeper ends here. -/
theorem Ends.nested (h : Ends (depth + 1) x) : Ends depth (nested x) := by
  intro m hDepth
  obtain ⟨result, last, hRun, hLast⟩ :=
    h { m with depth := m.depth + 1 } (congrArg (· + 1) hDepth)
  refine ⟨result, _, nested_eq_some_iff.2 ⟨last, hRun, rfl⟩, ?_⟩
  show last.depth - 1 = depth
  rw [hLast, Nat.add_sub_cancel]

end Eval

namespace Program

open Eval (Ends)

variable {p : Program} {depth fuel : Nat} {id : ClassId} {name : Name}

/-! ## Instructions and blocks -/

theorem ends_initFields (ref : ObjectRef) (classId : ClassId) :
    Ends depth (p.initFields ref classId) := by
  refine .bind (.ofOption _) fun _ => .bind (.objectAt ref) fun object =>
    .bind (.ofOption _) fun layout => ?_
  dsimp only
  split
  · exact .pure ()
  · exact .bind (.writeSlots ref _) fun _ => .record _

section Code

variable {call : CallableId → List Value → Eval Value}
  (hCall : ∀ callable args, Ends depth (call callable args))

include hCall

theorem ends_step (frame : Frame) (instr : Instr) : Ends depth (p.step call frame instr) := by
  cases instr with
  | assign dest value =>
      cases value with
      | register source => exact .bind (.ofExcept _) fun _ => .pure _
      | literal l => exact .pure _
  | delegate this target registers =>
      exact .bind (.ofExcept _) fun ref => .bind (.ofExcept _) fun values =>
        .bind (hCall target (.object ref :: values)) fun _ => .pure frame
  | initFields this classId =>
      exact .bind (.ofExcept _) fun ref => .bind (ends_initFields ref classId) fun _ => .pure frame
  | load dest object slot =>
      exact .bind (.ofExcept _) fun ref => .bind (.objectAt ref) fun target =>
        .bind (.ofOption _) fun _ => .pure _
  | store object slot value =>
      exact .bind (.ofExcept _) fun ref => .bind (.ofExcept _) fun value =>
        .bind (.writeSlots ref _) fun _ => .pure frame

theorem ends_steps (frame : Frame) (instrs : List Instr) :
    Ends depth (p.steps call frame instrs) := by
  induction instrs generalizing frame with
  | nil => exact .pure frame
  | cons instr rest ih => exact .bind (ends_step hCall frame instr) fun next => ih next

/-- A body ends from each block on the way from its entry, if there is fuel for the rank of the
block and the calls inside end. -/
theorem ends_runFrom {body : Body} {rank : BlockId → Nat}
    (hRank : ∀ {id target}, ReflTransGen body.Jumps body.entry id → body.Jumps id target →
      rank target < rank id) {id : BlockId} (hFrom : ReflTransGen body.Jumps body.entry id)
    (hFuel : rank id < fuel) (frame : Frame) :
    Ends depth (p.runFrom call body fuel id frame) := by
  induction fuel generalizing id frame with
  | zero => exact absurd hFuel (Nat.not_lt_zero _)
  | succ fuel ih =>
      refine .bind_ofOption fun block hBlock =>
        .bind (ends_steps hCall frame block.instrs) fun next => ?_
      cases hEnd : block.terminator with
      | jump target =>
          have hJumps : body.Jumps id target := ⟨block, hBlock, hEnd⟩
          have hFalls := hRank hFrom hJumps
          exact ih (hFrom.tail hJumps) (by omega) next
      | ret value =>
          cases value with
          | none => exact .pure _
          | some register => exact .ofExcept _
      | unreachable => exact .fail _

theorem ends_runBody {body : Body} (hStraight : body.Straight) (hFuel : body.blocks.length < fuel)
    (args : List Value) : Ends depth (p.runBody call fuel body args) := by
  rw [runBody]
  split
  · exact .fail _
  · obtain ⟨rank, hBound, hRank⟩ := hStraight.exists_rank
    exact ends_runFrom hCall hRank .refl ((hBound body.entry).trans_lt hFuel) _

end Code

/-! ## Calls -/

/-- The number of blocks in all bodies together. -/
def blockCount (p : Program) : Nat := (p.module.bodies.map fun body => body.blocks.length).sum

theorem length_blocks_le {body : Body} (h : body ∈ p.module.bodies) :
    body.blocks.length ≤ p.blockCount :=
  List.le_sum_of_mem (List.mem_map_of_mem h)

theorem ends_announce (callable : CallableId) : Ends depth (announce callable) := by
  rw [announce]
  split
  · exact .record _
  · exact .pure ()

/-- **A call ends** if there is fuel for the calls that may be nested in it and for the blocks. -/
theorem ends_invoke (hStraight : ∀ body ∈ p.module.bodies, body.Straight)
    (hFuel : Machine.maxDepth - depth + p.blockCount < fuel) (callable : CallableId)
    (args : List Value) : Ends depth (p.invoke fuel callable args) := by
  induction fuel generalizing depth callable args with
  | zero => exact absurd hFuel (Nat.not_lt_zero _)
  | succ fuel ih =>
      intro m hDepth
      have hRead : Eval.depth m = some (.ok depth, m) := by rw [Eval.depth, hDepth]
      rw [invoke_succ, Eval.bind_of_ok hRead]
      by_cases hLimit : Machine.maxDepth ≤ depth
      · rw [if_pos hLimit]
        exact ⟨_, m, rfl, hDepth⟩
      · rw [if_neg hLimit]
        have hInside : Machine.maxDepth - (depth + 1) + p.blockCount < fuel := by omega
        have hDispatch : Ends depth (p.dispatch (p.invoke fuel) fuel callable args) := by
          refine .bind (ends_announce callable) fun _ => ?_
          split
          · exact .pure _
          · refine .bind_ofOption fun body hBody => ?_
            obtain ⟨hMem, _⟩ := Ir.Module.mem_of_body? hBody
            have hBlocks := length_blocks_le hMem
            exact .nested (ends_runBody (ih hInside) (hStraight body hMem) (by omega) args)
        exact hDispatch m hDepth

/-! ## Searches -/

/-- Following superclasses from a class never comes to a class a second time. -/
def Rises (p : Program) (id : ClassId) : Prop :=
  ∀ other, ReflTransGen p.Under id other → ¬ TransGen p.Under other other

/-- Then one comes to a class at the top. -/
theorem Rises.exists_top (h : p.Rises id) : ∃ top, ReflTransGen p.Under id top ∧ p.Top top := by
  obtain ⟨rank, _, hFalls⟩ := exists_rank_from _ mem_classes_of_under h
  suffices hClimbs : ∀ other, ReflTransGen p.Under id other →
      ∃ top, ReflTransGen p.Under id top ∧ p.Top top from hClimbs id .refl
  intro other hFrom
  induction hRank : rank other using Nat.strong_induction_on generalizing other with
  | _ n ih =>
      cases hParent : p.parent? other with
      | none => exact ⟨other, hFrom, hParent⟩
      | some parent =>
          exact ih (rank parent) (hRank ▸ hFalls hFrom hParent) parent (hFrom.tail hParent) rfl

/-- **Every search for a method ends.** -/
theorem findMethod_ne_none (hClasses : ∀ id, ¬ TransGen p.Under id id) :
    p.findMethod id name ≠ none := by
  intro hNever
  have hRises : p.Rises id := fun other _ => hClasses other
  obtain ⟨top, hFrom, hTop⟩ := hRises.exists_top
  exact (findMethod_eq_none_iff.1 hNever top hFrom).2 hTop

/-! ## Requests -/

theorem ends_serve (hStraight : ∀ body ∈ p.module.bodies, body.Straight)
    (hClasses : ∀ id, ¬ TransGen p.Under id id)
    (hFuel : Machine.maxDepth + p.blockCount < fuel) (request : Request) :
    Ends depth (p.serve fuel request) := by
  have hCall : ∀ callable args, Ends depth (p.invoke fuel callable args) :=
    ends_invoke hStraight (by omega)
  rw [serve_eq_serveWith]
  cases request with
  | construct id =>
      refine .bind (.ofOption _) fun layout => .bind (.allocate _) fun ref => ?_
      cases layout.constructor with
      | none => exact .pure _
      | some constructor => exact .bind (hCall constructor [.object ref]) fun _ => .pure _
  | call ref name args =>
      refine .bind (.objectAt ref) fun object => ?_
      cases hMethod : p.findMethod object.classId name with
      | none => exact absurd hMethod (findMethod_ne_none hClasses)
      | some found =>
          cases found with
          | none => exact .fail _
          | some callable => exact hCall callable (.object ref :: args)

/-- On a machine that refuses no call the request would never come to an end. -/
def Endless (p : Program) (request : Request) (m : Machine) : Prop :=
  ∀ fuel, p.serveUnlimited fuel request m = none

/-- **Every request ends where no jumps and no superclasses go round.**  Whatever the state of the
machine and whatever the receiver and the arguments, a request comes to one outcome, a value or an
error, with every fuel above the depth limit and the number of blocks.  Unless it is
`stackOverflow`, it is the outcome that the request has without a depth limit; a delegation that
would go on for ever without the limit ends in `stackOverflow`. -/
theorem ends_without_circles (p : Program) (hStraight : ∀ body ∈ p.module.bodies, body.Straight)
    (hClasses : ∀ id, ¬ TransGen p.Under id id) (request : Request) (m : Machine) :
    ∃ result last,
      (∀ fuel, Machine.maxDepth + p.blockCount < fuel →
        p.serve fuel request m = some (result, last)) ∧
      (result ≠ .error .stackOverflow → ∀ fuel, Machine.maxDepth + p.blockCount < fuel →
        p.serveUnlimited fuel request m = some (result, last)) ∧
      (p.Endless request m → result = .error .stackOverflow) := by
  obtain ⟨result, last, hRun, _⟩ :=
    ends_serve hStraight hClasses (Nat.lt_succ_self _) request m rfl
  have hEnds : ∀ fuel, Machine.maxDepth + p.blockCount < fuel →
      p.serve fuel request m = some (result, last) :=
    fun fuel hFuel => serve_mono hRun hFuel
  refine ⟨result, last, hEnds, fun hResult fuel hFuel =>
    serveUnlimited_eq (hEnds fuel hFuel) hResult, fun hEndless => ?_⟩
  by_contra hResult
  exact nomatch (hEndless _).symm.trans (serveUnlimited_eq hRun hResult)

/-! ## A sample -/

section Divergence

variable {α β : Type} {x : Eval α} {f : α → Eval β} {m : Machine}

theorem bind_of_none (h : x m = none) : (x >>= f) m = none := by
  show Eval.bind x f m = none
  rw [Eval.bind, h]

theorem nested_of_none (h : x { m with depth := m.depth + 1 } = none) :
    Eval.nested x m = none := by
  rw [Eval.nested, h]

end Divergence

/-- The two classes of the ring, but neither of them extends the other one. -/
def mirrors : Catalogue :=
  { Catalogue.ring with
    classes := [Catalogue.Ring.left, Catalogue.Ring.right].map fun id =>
      ⟨id, none, [], some ⟨id, none, [], .generated Catalogue.Ring.key, .synthetic⟩⟩ }

/-- The constructor of the class on the other side. -/
def opposite (callable : CallableId) : CallableId :=
  if callable = .constructorOf Catalogue.Ring.left then .constructorOf Catalogue.Ring.right
  else .constructorOf Catalogue.Ring.left

/-- A body that delegates twice to the opposite constructor.  One of its blocks jumps to itself, but
control never comes there. -/
def mirrorBody (callable : CallableId) : Body where
  callable := callable
  params := [⟨0, ⟨0⟩⟩]
  returns := ⟨0⟩
  blocks :=
    [⟨⟨2⟩, none, List.replicate 2 (.delegate ⟨0, ⟨0⟩⟩ (opposite callable) []), .jump ⟨0⟩⟩,
      ⟨⟨5⟩, none, [], .jump ⟨5⟩⟩, ⟨⟨0⟩, none, [], .ret none⟩]
  entry := ⟨2⟩
  span := .synthetic

/-- The constructors of the two classes delegate to each other. -/
def mirrorBodies : BodyProvider where
  responsible key := key == some Catalogue.Ring.key
  functionBody callable _ _ := .error (.unrecognizedCallable callable.id.text)
  constructorBody callable _ _ := .ok (mirrorBody callable.id)

/-- The sample with its members declared. -/
def mirrorResolver : Resolver :=
  let start := Resolver.start "main" ⟨[mirrors.provider], [mirrorBodies]⟩
  let declared := ((start.resolveClass Catalogue.Ring.left).2.resolveClass Catalogue.Ring.right).2
  ((declared.resolveMember Catalogue.Ring.left .init).2.resolveMember
    Catalogue.Ring.right .init).2

/-- What the sample is lowered to. -/
def mirrorProgram : Program where
  types := mirrorResolver.types
  symbols := mirrorResolver.symbols
  module :=
    { name := "main"
      bodies :=
        [mirrorBody (.constructorOf Catalogue.Ring.left),
          mirrorBody (.constructorOf Catalogue.Ring.right)]
      classes := mirrorResolver.symbols.classes.map mirrorResolver.symbols.layoutOf }

theorem lower_mirrors : mirrorResolver.lower = .ok mirrorProgram := rfl

/-- In a body of the sample no jump leads back. -/
theorem straight_mirrorBody (callable : CallableId) : (mirrorBody callable).Straight := by
  have hEntry : ∀ target, (mirrorBody callable).Jumps ⟨2⟩ target → target = ⟨0⟩ := by
    rintro target ⟨block, hBlock, hJump⟩
    cases hBlock
    cases hJump
    rfl
  have hLast : ∀ target, ¬ TransGen (mirrorBody callable).Jumps ⟨0⟩ target := by
    intro target hOn
    obtain ⟨next, ⟨block, hBlock, hJump⟩, _⟩ := TransGen.head'_iff.1 hOn
    cases hBlock
    cases hJump
  intro id hFrom hBack
  rcases hFrom.cases_head with rfl | ⟨next, hFirst, hRest⟩
  · obtain ⟨next, hFirst, hRest⟩ := TransGen.head'_iff.1 hBack
    rw [hEntry next hFirst] at hRest
    rcases Relation.reflTransGen_iff_eq_or_transGen.1 hRest with hEq | hOn
    · cases hEq
    · exact hLast _ hOn
  · rw [hEntry next hFirst] at hRest
    exact hLast _ (TransGen.trans_right hRest hBack)

/-- Without a limit a body of the sample does not end if the opposite constructor does not. -/
theorem runBody_mirrorBody {call : CallableId → List Value → Eval Value} (callable : CallableId)
    {ref : ObjectRef} (hCall : ∀ m, call (opposite callable) [.object ref] m = none) (fuel : Nat)
    (m : Machine) :
    mirrorProgram.runBody call fuel (mirrorBody callable) [.object ref] m = none := by
  cases fuel with
  | zero => rfl
  | succ fuel =>
      have hDelegates : ∀ frame : Frame, frame.readObject ⟨0, ⟨0⟩⟩ = .ok ref →
          mirrorProgram.step call frame (.delegate ⟨0, ⟨0⟩⟩ (opposite callable) []) m = none := by
        intro frame hFrame
        rw [step, hFrame]
        exact (Eval.bind_of_ok rfl).trans
          ((Eval.bind_of_ok rfl).trans (bind_of_none (hCall m)))
      exact (Eval.bind_of_ok rfl).trans (bind_of_none (bind_of_none (hDelegates _ rfl)))

/-- Without a limit no constructor of the sample comes to an end. -/
theorem invokeUnlimited_mirrors (fuel : Nat) {callable : CallableId} (ref : ObjectRef)
    (hCallable : callable = .constructorOf Catalogue.Ring.left ∨
      callable = .constructorOf Catalogue.Ring.right) (m : Machine) :
    mirrorProgram.invokeUnlimited fuel callable [.object ref] m = none := by
  induction fuel generalizing callable m with
  | zero => rfl
  | succ fuel ih =>
      rcases hCallable with rfl | rfl
      · have hBody := runBody_mirrorBody (.constructorOf Catalogue.Ring.left) (ih (.inr rfl))
        exact nested_of_none (hBody fuel _)
      · have hBody := runBody_mirrorBody (.constructorOf Catalogue.Ring.right) (ih (.inl rfl))
        exact nested_of_none (hBody fuel _)

/-- In the sample only the root class has subclasses. -/
theorem not_circular_mirrors (id : ClassId) : ¬ TransGen mirrorProgram.Under id id := by
  have hParents : ∀ layout ∈ mirrorProgram.module.classes, ∀ parent, layout.parent = some parent →
      parent = rootClass := by decide
  have hUnder : ∀ {id parent}, mirrorProgram.Under id parent → parent = rootClass := by
    intro id parent hUnder
    obtain ⟨layout, hLayout, hParent⟩ := Option.bind_eq_some_iff.1 hUnder
    exact hParents layout (Ir.Module.mem_of_class? hLayout).1 parent hParent
  intro hBack
  obtain ⟨_, _, hLast⟩ := TransGen.tail'_iff.1 hBack
  obtain rfl := hUnder hLast
  obtain ⟨parent, hFirst, _⟩ := TransGen.head'_iff.1 hBack
  cases hFirst

/-- The constructors of the sample delegate to each other for ever, and each of them twice.  So a
construction is refused at the limit. -/
theorem mirrors_overflow :
    mirrorResolver.lower = .ok mirrorProgram ∧
      (∀ body ∈ mirrorProgram.module.bodies, body.Straight) ∧
      (∀ id, ¬ TransGen mirrorProgram.Under id id) ∧
      mirrorProgram.Endless (.construct Catalogue.Ring.left) Machine.start ∧
      ∃ last, ∀ fuel, 262 < fuel →
        mirrorProgram.serve fuel (.construct Catalogue.Ring.left) Machine.start =
          some (.error .stackOverflow, last) := by
  have hStraight : ∀ body ∈ mirrorProgram.module.bodies, body.Straight := by
    intro body hBody
    rcases List.mem_pair.1 hBody with rfl | rfl
    · exact straight_mirrorBody _
    · exact straight_mirrorBody _
  have hEndless : mirrorProgram.Endless (.construct Catalogue.Ring.left) Machine.start := by
    intro fuel
    refine (Eval.bind_of_ok rfl).trans ((Eval.bind_of_ok rfl).trans (bind_of_none ?_))
    exact invokeUnlimited_mirrors fuel ⟨0⟩ (.inl rfl) _
  obtain ⟨result, last, hEnds, _, hOverflow⟩ := ends_without_circles mirrorProgram hStraight
    not_circular_mirrors (.construct Catalogue.Ring.left) Machine.start
  rw [hOverflow hEndless] at hEnds
  exact ⟨lower_mirrors, hStraight, not_circular_mirrors, hEndless, last, hEnds⟩

end Program
end TwoPhase
