import Mathlib.Data.List.Basic
import TwoPhase.Ir.Builder
import TwoPhase.Proofs.Ir.Check

/-!
# What a builder builds

A builder is called to declare parameters, hand out registers, start blocks and write into the block
that is current.  It finds that block by its number, and would write nothing if there were no such
block.  This module says what body comes out, in terms of the calls alone: every write finds its
block, nothing that was written is lost or moved to another block, and blocks and registers are
numbered in the order in which they were asked for.

## Strategy

The log of a builder lists what each call did, together with the block that was current then.  A
body is read off the log block by block (`bodyOf`, `blockOf`): the instructions written while a
block was current, and the last terminator set while it was.  `Follows` says that a builder has
built what its log says, and that its numbers are those of the blocks started so far.  It holds at
the start, one call preserves it (`Follows.perform`), and so do all of them (`Follows.after`).

Numbers are natural numbers here.  No call gives out a number above the number of calls, so with
fewer than `2 ^ 32` calls they fit into 32 bits.

## Main results

* `Follows.perform`, `Follows.after` — a builder follows its log.
* `Follows.block?_current` — the block that is current is always found.
* `register?_log`, `opened?_log` — registers and blocks are numbered in order.
* `builds_what_was_called` — the body, the registers, and when the body can be run.
-/

namespace TwoPhase.Ir

/-! ## Changing one block of a body -/

namespace Body

variable {b : Body} {id : BlockId} {block : Block} {earlier later : List Block}
  {change : Block → Block}

theorem block?_of_split (hBlocks : b.blocks = earlier ++ block :: later) (hId : block.id = id)
    (hEarlier : ∀ other ∈ earlier, other.id ≠ id) : b.block? id = some block := by
  rw [block?, List.find?_eq_some_iff_append]
  exact ⟨by simpa using hId, earlier, later, hBlocks, by simpa using hEarlier⟩

theorem modifyBlock_of_split (hBlocks : b.blocks = earlier ++ block :: later) (hId : block.id = id)
    (hEarlier : ∀ other ∈ earlier, other.id ≠ id) :
    b.modifyBlock id change = { b with blocks := earlier ++ change block :: later } := by
  have hNone : earlier.findIdx? (·.id == id) = none := by
    simpa [List.findIdx?_eq_none_iff] using hEarlier
  have hPlace : b.blocks.findIdx? (·.id == id) = some earlier.length := by
    rw [hBlocks, List.findIdx?_append, hNone, List.findIdx?_cons]
    simp [hId]
  have hFits : earlier.length < b.blocks.length := by
    simp [hBlocks]
  simp only [modifyBlock, hPlace, List.modify_eq_take_cons_drop hFits]
  simp [hBlocks]

/-- Nothing but blocks is changed. -/
theorem modifyBlock_eq :
    b.modifyBlock id change = { b with blocks := (b.modifyBlock id change).blocks } := by
  rw [modifyBlock]
  split <;> rfl

theorem modifyBlock_of_same (hChange : ∀ block, change block = block) :
    b.modifyBlock id change = b := by
  obtain rfl : change = fun block => block := funext hChange
  rw [modifyBlock]
  split
  · rename_i place _
    exact congrArg (fun blocks => { b with blocks }) (List.modify_id place b.blocks)
  · rfl

end Body

namespace Builder

/-! ## Calls -/

/-- A call of a builder. -/
inductive Call where
  | param (type : TypeId)
  | allocate (type : TypeId)
  | constant (value : Literal) (type : TypeId)
  | newBlock (label : String)
  | emit (instr : Instr)
  | terminate (terminator : Terminator)
deriving DecidableEq, Repr

/-- What a call did: the call with what it has answered. -/
inductive Deed where
  | param (register : Register)
  | allocate (register : Register)
  | constant (register : Register) (value : Literal)
  | newBlock (id : BlockId) (label : String)
  | emit (instr : Instr)
  | terminate (terminator : Terminator)
deriving DecidableEq, Repr

namespace Call

/-- Whether a block is to be started. -/
def opens : Call → Bool
  | newBlock _ => true
  | _ => false

/-- The type of the register that is to be handed out. -/
def type? : Call → Option TypeId
  | param type | allocate type | constant _ type => some type
  | _ => none

end Call

namespace Deed

/-- The call that did it. -/
def call : Deed → Call
  | param register => .param register.type
  | allocate register => .allocate register.type
  | constant register value => .constant value register.type
  | newBlock _ label => .newBlock label
  | emit instr => .emit instr
  | terminate terminator => .terminate terminator

/-- The register that was handed out. -/
def register? : Deed → Option Register
  | param register | allocate register | constant register _ => some register
  | _ => none

/-- The register that was declared as a parameter. -/
def param? : Deed → Option Register
  | param register => some register
  | _ => none

/-- The block that was started. -/
def opened? : Deed → Option BlockId
  | newBlock id _ => some id
  | _ => none

/-- The label of the block that was started. -/
def label? : Deed → Option String
  | newBlock _ label => some label
  | _ => none

/-- The instruction that was written. -/
def instr? : Deed → Option Instr
  | constant register value => some (.assign register (.literal value))
  | emit instr => some instr
  | _ => none

/-- The terminator that was set. -/
def terminator? : Deed → Option Terminator
  | terminate terminator => some terminator
  | _ => none

/-- A block after what was done while it was current. -/
def put (deed : Deed) (block : Block) : Block :=
  { block with
    instrs := block.instrs ++ deed.instr?.toList
    terminator := deed.terminator?.getD block.terminator }

end Deed

/-- Makes a call. -/
def perform (b : Builder) : Call → Deed × Builder
  | .param type => (.param (b.param type).1, (b.param type).2)
  | .allocate type => (.allocate (b.allocate type).1, (b.allocate type).2)
  | .constant value type => (.constant (b.constant value type).1 value, (b.constant value type).2)
  | .newBlock label => (.newBlock (b.newBlock label).1 label, (b.newBlock label).2)
  | .emit instr => (.emit instr, b.emit instr)
  | .terminate terminator => (.terminate terminator, b.terminate terminator)

/-- The builder after calls, one after the other. -/
def after (b : Builder) (calls : List Call) : Builder :=
  calls.foldl (fun b call => (b.perform call).2) b

/-- What calls do, one after the other, each with the block that is current when it is made. -/
def log (b : Builder) : List Call → List (BlockId × Deed)
  | [] => []
  | call :: rest => (b.current, (b.perform call).1) :: (b.perform call).2.log rest

variable {b : Builder} {call : Call} {calls : List Call}

theorem log_append (more : List Call) :
    b.log (calls ++ more) = b.log calls ++ (b.after calls).log more := by
  induction calls generalizing b with
  | nil => rfl
  | cons call rest ih => exact congrArg ((b.current, (b.perform call).1) :: ·) ih

theorem perform_call : (b.perform call).1.call = call := by
  cases call <;> rfl

/-- The log is about the calls. -/
theorem call_log : (b.log calls).map (·.2.call) = calls := by
  induction calls generalizing b with
  | nil => rfl
  | cons call rest ih =>
      rw [log, List.map_cons, ih]
      exact congrArg (· :: rest) perform_call

theorem length_log : (b.log calls).length = calls.length := by
  rw [← List.length_map, call_log]

/-! ## Numbers -/

theorem register?_perform :
    (b.perform call).1.register? = call.type?.map fun type => ⟨b.registers, type⟩ := by
  cases call <;> rfl

theorem registers_perform :
    (b.perform call).2.registers = b.registers + call.type?.toList.length := by
  cases call <;> rfl

theorem opened?_perform :
    (b.perform call).1.opened? = if call.opens then some ⟨b.nextBlock⟩ else none := by
  cases call <;> rfl

theorem nextBlock_perform :
    (b.perform call).2.nextBlock = b.nextBlock + if call.opens then 1 else 0 := by
  cases call <;> rfl

/-- Registers are numbered in the order in which they are asked for. -/
theorem register?_log : (b.log calls).filterMap (·.2.register?) =
    (calls.filterMap Call.type?).mapIdx fun i type => ⟨b.registers + i, type⟩ := by
  induction calls generalizing b with
  | nil => rfl
  | cons call rest ih =>
      rw [log, List.filterMap_cons, List.filterMap_cons, ih, register?_perform, registers_perform]
      cases call.type? with
      | none => rfl
      | some type => simp [List.mapIdx_cons, Nat.add_assoc, Nat.add_comm 1]

/-- Blocks are numbered in the order in which they are started. -/
theorem opened?_log : (b.log calls).filterMap (·.2.opened?) =
    (List.range' b.nextBlock (calls.countP Call.opens)).map BlockId.mk := by
  induction calls generalizing b with
  | nil => rfl
  | cons call rest ih =>
      rw [log, List.filterMap_cons, ih, opened?_perform, nextBlock_perform, List.countP_cons]
      cases call.opens with
      | false => rfl
      | true => simp [List.range'_succ]

/-! ## Reading a log -/

/-- What was done while a block was current. -/
def during (log : List (BlockId × Deed)) (n : Nat) : List Deed :=
  (log.filter (·.1 == ⟨n⟩)).map Prod.snd

/-- The last terminator that was set while a block was current. -/
def lastTerminator (log : List (BlockId × Deed)) (n : Nat) : Terminator :=
  ((during log n).filterMap Deed.terminator?).getLast?.getD .unreachable

/-- The labels of the blocks that were started. -/
def labels (log : List (BlockId × Deed)) : List String := log.filterMap (·.2.label?)

/-- A block as it is read off a log. -/
def blockOf (log : List (BlockId × Deed)) (n : Nat) : Block where
  id := ⟨n⟩
  label := ("entry" :: labels log)[n]?
  instrs := (during log n).filterMap Deed.instr?
  terminator := lastTerminator log n

/-- A body as it is read off a log: the entry block, and one block more for each that was
started. -/
def bodyOf (callable : CallableId) (returns : TypeId) (log : List (BlockId × Deed)) : Body where
  callable := callable
  params := log.filterMap (·.2.param?)
  returns := returns
  blocks := (List.range ((labels log).length + 1)).map (blockOf log)
  entry := ⟨0⟩
  span := .synthetic

variable {past : List (BlockId × Deed)} {deed : Deed} {m n : Nat}

theorem during_concat :
    during (past ++ [(⟨m⟩, deed)]) n = during past n ++ if m = n then [deed] else [] := by
  rw [during, List.filter_append, List.map_append]
  split <;> simp_all [during]

theorem isSome_label? : deed.label?.isSome = deed.call.opens := by
  cases deed <;> rfl

theorem labels_concat {id : BlockId} :
    labels (past ++ [(id, deed)]) = labels past ++ deed.label?.toList := by
  rw [labels, List.filterMap_append]
  cases deed <;> rfl

theorem labels_concat_of_none {id : BlockId} (hLabel : deed.label? = none) :
    labels (past ++ [(id, deed)]) = labels past := by
  rw [labels_concat, hLabel]
  exact List.append_nil _

theorem length_labels_concat_newBlock {id opened : BlockId} {label : String} :
    (labels (past ++ [(id, .newBlock opened label)])).length = (labels past).length + 1 := by
  rw [labels_concat, List.length_append]
  rfl

theorem placed_concat {last : Nat} (hPlaced : ∀ entry ∈ past, entry.1.index ≤ m)
    (hLast : m ≤ last) :
    ∀ entry ∈ past ++ [(⟨m⟩, deed)], entry.1.index ≤ last := by
  intro entry hEntry
  rcases List.mem_append.1 hEntry with hPast | hNew
  · exact Nat.le_trans (hPlaced entry hPast) hLast
  · obtain rfl := List.mem_singleton.1 hNew
    exact hLast

/-- One more entry changes only the block that it was made in, and that one as it says. -/
theorem blockOf_concat (hStarted : n ≤ (labels past).length) :
    blockOf (past ++ [(⟨m⟩, deed)]) n =
      if m = n then deed.put (blockOf past n) else blockOf past n := by
  have hLabel : ("entry" :: labels (past ++ [(⟨m⟩, deed)]))[n]? = ("entry" :: labels past)[n]? := by
    rw [labels_concat, ← List.cons_append, List.getElem?_append_left]
    simpa using Nat.lt_succ_of_le hStarted
  rw [blockOf, hLabel]
  split
  · rename_i hSame
    simp only [lastTerminator, during_concat, if_pos hSame, List.filterMap_append]
    cases deed <;> simp [Deed.put, Deed.instr?, Deed.terminator?, blockOf, lastTerminator]
  · rename_i hOther
    simp only [lastTerminator, during_concat, if_neg hOther, List.append_nil]
    rfl

/-! ## A builder follows its log -/

/-- A builder has built what its log says. -/
structure Follows (callable : CallableId) (returns : TypeId) (b : Builder)
    (past : List (BlockId × Deed)) : Prop where
  body : b.body = bodyOf callable returns past
  /-- The block that is current is the one that was started last. -/
  current : b.current = ⟨(labels past).length⟩
  nextBlock : b.nextBlock = (labels past).length + 1
  /-- What was done was done in one of the blocks. -/
  placed : ∀ entry ∈ past, entry.1.index ≤ (labels past).length
  /-- The blocks together hold what was written, in the same order. -/
  instrs : (bodyOf callable returns past).blocks.flatMap Block.instrs =
    past.filterMap (·.2.instr?)

variable {callable : CallableId} {returns : TypeId}

theorem follows_start : (start callable returns).Follows callable returns [] where
  body := rfl
  current := rfl
  nextBlock := rfl
  placed := nofun
  instrs := rfl

/-- The block that was started last is behind the others. -/
theorem blocks_bodyOf : (bodyOf callable returns past).blocks =
    (List.range (labels past).length).map (blockOf past) ++
      [blockOf past (labels past).length] := by
  rw [bodyOf, List.range_succ, List.map_append]
  rfl

theorem id_ne_of_mem {block : Block}
    (hBlock : block ∈ (List.range n).map (blockOf past)) : block.id ≠ ⟨n⟩ := by
  obtain ⟨i, hi, rfl⟩ := List.mem_map.1 hBlock
  intro hSame
  exact absurd (congrArg BlockId.index hSame) (Nat.ne_of_lt (List.mem_range.1 hi))

/-- **The block that is current is always found.** -/
theorem Follows.block?_current (h : b.Follows callable returns past) :
    b.body.block? b.current = some (blockOf past (labels past).length) := by
  rw [h.body, h.current]
  exact Body.block?_of_split blocks_bodyOf rfl fun _ => id_ne_of_mem

/-- A change of the current block changes the block that was started last. -/
theorem Follows.modifyBlock_current (h : b.Follows callable returns past)
    (change : Block → Block) : b.body.modifyBlock b.current change =
      { bodyOf callable returns past with
        blocks := (List.range (labels past).length).map (blockOf past) ++
          [change (blockOf past (labels past).length)] } := by
  rw [h.body, h.current]
  exact Body.modifyBlock_of_split blocks_bodyOf rfl fun _ => id_ne_of_mem

/-! ### One call -/

theorem map_blockOf_concat :
    (List.range ((labels past).length + 1)).map
        (blockOf (past ++ [(⟨(labels past).length⟩, deed)])) =
      (List.range (labels past).length).map (blockOf past) ++
        [deed.put (blockOf past (labels past).length)] := by
  rw [List.range_succ, List.map_append, List.map_singleton, blockOf_concat (Nat.le_refl _),
    if_pos rfl]
  congr 1
  refine List.map_congr_left fun n hn => ?_
  have hBefore : n < (labels past).length := List.mem_range.1 hn
  rw [blockOf_concat (Nat.le_of_lt hBefore), if_neg (Nat.ne_of_gt hBefore)]

theorem put_of_silent {block : Block} (hInstr : deed.instr? = none)
    (hTerminator : deed.terminator? = none) : deed.put block = block := by
  rw [Deed.put, hInstr, hTerminator]
  simp

/-- A call that starts no block writes into the block that is current. -/
theorem body_perform (hOpens : call.opens = false) : (b.perform call).2.body =
    { b.body with
      params := b.body.params ++ (b.perform call).1.param?.toList
      blocks := (b.body.modifyBlock b.current (b.perform call).1.put).blocks } := by
  cases call with
  | param type =>
      have hSame : b.body.modifyBlock b.current (b.perform (.param type)).1.put = b.body :=
        Body.modifyBlock_of_same fun _ => put_of_silent rfl rfl
      rw [hSame]
      rfl
  | allocate type =>
      have hSame : b.body.modifyBlock b.current (b.perform (.allocate type)).1.put = b.body :=
        Body.modifyBlock_of_same fun _ => put_of_silent rfl rfl
      rw [hSame]
      simp [perform, allocate, Deed.param?]
  | constant value type =>
      simp only [perform, Deed.param?, Option.toList_none, List.append_nil]
      exact Body.modifyBlock_eq
  | newBlock label => cases hOpens
  | emit instr =>
      simp only [perform, Deed.param?, Option.toList_none, List.append_nil]
      exact Body.modifyBlock_eq
  | terminate terminator =>
      have hPut : (Deed.terminate terminator).put = (·.close terminator) := by
        funext block
        simp [Deed.put, Deed.instr?, Deed.terminator?, Block.close]
      simp only [perform, Deed.param?, Option.toList_none, List.append_nil, hPut]
      exact Body.modifyBlock_eq

theorem label?_perform (hOpens : call.opens = false) : (b.perform call).1.label? = none := by
  rw [← Option.not_isSome_iff_eq_none, isSome_label?, perform_call, hOpens]
  nofun

theorem current_perform (hOpens : call.opens = false) :
    (b.perform call).2.current = b.current := by
  cases call <;> first | rfl | cases hOpens

/-- An entry about a call that starts no block. -/
theorem bodyOf_concat (hLabel : deed.label? = none) :
    bodyOf callable returns (past ++ [(⟨(labels past).length⟩, deed)]) =
      { bodyOf callable returns past with
        params := (bodyOf callable returns past).params ++ deed.param?.toList
        blocks := (List.range (labels past).length).map (blockOf past) ++
          [deed.put (blockOf past (labels past).length)] } := by
  rw [bodyOf, labels_concat_of_none hLabel, map_blockOf_concat, List.filterMap_append]
  cases deed <;> rfl

theorem Follows.perform_writing (h : b.Follows callable returns past)
    (hOpens : call.opens = false) : (b.perform call).2.Follows callable returns
      (past ++ [(⟨(labels past).length⟩, (b.perform call).1)]) := by
  have hLabel := label?_perform hOpens (b := b)
  have hBody := body_perform hOpens (b := b)
  rw [h.modifyBlock_current, h.body] at hBody
  generalize (b.perform call).1 = deed at hLabel hBody ⊢
  refine ⟨?_, ?_, ?_, ?_, ?_⟩
  · rw [hBody, bodyOf_concat hLabel]
  · rw [labels_concat_of_none hLabel, current_perform hOpens, h.current]
  · rw [labels_concat_of_none hLabel, nextBlock_perform, hOpens, h.nextBlock]
    rfl
  · rw [labels_concat_of_none hLabel]
    exact placed_concat h.placed (Nat.le_refl _)
  · have hInstrs := h.instrs
    rw [blocks_bodyOf, List.flatMap_append, List.flatMap_singleton] at hInstrs
    rw [bodyOf_concat hLabel, List.flatMap_append, List.flatMap_singleton, List.filterMap_append,
      ← hInstrs, List.append_assoc]
    cases deed <;> rfl

/-- Nothing has been done yet in the block that an entry is about. -/
theorem blockOf_started (hPlaced : ∀ entry ∈ past, entry.1.index ≤ (labels past).length)
    {id : BlockId} {label : String} :
    blockOf (past ++ [(⟨(labels past).length⟩, .newBlock id label)]) ((labels past).length + 1) =
      .start ⟨(labels past).length + 1⟩ (some label) := by
  have hDuring : during (past ++ [(⟨(labels past).length⟩, .newBlock id label)])
      ((labels past).length + 1) = [] := by
    rw [during_concat, if_neg (Nat.ne_of_lt (Nat.lt_succ_self _)), List.append_nil, during,
      List.map_eq_nil_iff, List.filter_eq_nil_iff]
    intro entry hEntry hSame
    have hIndex : entry.1.index = (labels past).length + 1 :=
      congrArg BlockId.index (beq_iff_eq.1 hSame)
    have hLe := hPlaced entry hEntry
    omega
  rw [blockOf, lastTerminator, hDuring, labels_concat, List.getElem?_cons_succ,
    List.getElem?_append_right (Nat.le_refl _), Nat.sub_self]
  rfl

/-- An entry about a call that starts a block. -/
theorem bodyOf_concat_newBlock
    (hPlaced : ∀ entry ∈ past, entry.1.index ≤ (labels past).length)
    {id : BlockId} {label : String} :
    bodyOf callable returns (past ++ [(⟨(labels past).length⟩, .newBlock id label)]) =
      (bodyOf callable returns past).addBlock
        (.start ⟨(labels past).length + 1⟩ (some label)) := by
  have hBefore : _ = (bodyOf callable returns past).blocks := blocks_bodyOf.symm
  rw [bodyOf, length_labels_concat_newBlock, List.range_succ, List.map_append, map_blockOf_concat,
    List.map_singleton, put_of_silent rfl rfl, blockOf_started hPlaced, hBefore,
    List.filterMap_append]
  simp [Body.addBlock, bodyOf, Deed.param?]

theorem Follows.perform_newBlock (h : b.Follows callable returns past) (label : String) :
    (b.newBlock label).2.Follows callable returns
      (past ++ [(⟨(labels past).length⟩, .newBlock (b.newBlock label).1 label)]) := by
  refine ⟨?_, ?_, ?_, ?_, ?_⟩
  · rw [bodyOf_concat_newBlock h.placed, ← h.body, ← h.nextBlock]
    rfl
  · rw [length_labels_concat_newBlock, ← h.nextBlock]
    rfl
  · rw [length_labels_concat_newBlock, ← h.nextBlock]
    rfl
  · rw [length_labels_concat_newBlock]
    exact placed_concat h.placed (Nat.le_succ _)
  · rw [bodyOf_concat_newBlock h.placed, Body.addBlock, List.flatMap_append, h.instrs,
      List.filterMap_append]
    rfl

/-- **One call keeps a builder in step with its log.** -/
theorem Follows.perform (h : b.Follows callable returns past) (call : Call) :
    (b.perform call).2.Follows callable returns (past ++ [(b.current, (b.perform call).1)]) := by
  rw [h.current]
  cases hOpens : call.opens with
  | false => exact h.perform_writing hOpens
  | true =>
      cases call with
      | newBlock label => exact h.perform_newBlock label
      | _ => cases hOpens

/-- **Calls keep a builder in step with its log.** -/
theorem Follows.after (h : b.Follows callable returns past) (calls : List Call) :
    (b.after calls).Follows callable returns (past ++ b.log calls) := by
  induction calls generalizing b past with
  | nil =>
      rw [log, List.append_nil]
      exact h
  | cons call rest ih =>
      rw [log, List.append_cons]
      exact ih (h.perform call)

/-! ## The finished body -/

theorem length_labels : (labels (b.log calls)).length = calls.countP Call.opens := by
  calc
    (labels (b.log calls)).length = (b.log calls).countP fun entry => entry.2.call.opens := by
      rw [labels, List.length_filterMap_eq_countP]
      simp only [isSome_label?]
    _ = ((b.log calls).map (·.2.call)).countP Call.opens := by
      rw [List.countP_map]
      rfl
    _ = calls.countP Call.opens := by rw [call_log]

theorem ids_bodyOf : (bodyOf callable returns past).blocks.map Block.id =
    (List.range ((labels past).length + 1)).map BlockId.mk := by
  rw [bodyOf, List.map_map]
  rfl

theorem exists_id_iff {target : BlockId} :
    (∃ block ∈ (bodyOf callable returns past).blocks, block.id = target) ↔
      target.index ≤ (labels past).length := by
  simp only [bodyOf, List.mem_map, List.mem_range, Nat.lt_succ_iff]
  constructor
  · rintro ⟨_, ⟨n, hn, rfl⟩, rfl⟩
    exact hn
  · intro hTarget
    exact ⟨_, ⟨target.index, hTarget, rfl⟩, rfl⟩

/-- When a body that is read off a log can be run. -/
theorem check_bodyOf : (bodyOf callable returns past).check = .ok () ↔
    (∀ block ∈ (bodyOf callable returns past).blocks, block.terminator ≠ .unreachable) ∧
      ∀ block ∈ (bodyOf callable returns past).blocks, ∀ target,
        block.terminator = .jump target → target.index ≤ (labels past).length := by
  rw [Body.check_eq_ok_iff]
  constructor
  · intro h
    exact ⟨h.closed, fun block hBlock target hJump =>
      exists_id_iff.1 (h.jumps block hBlock target hJump)⟩
  · rintro ⟨hClosed, hJumps⟩
    exact ⟨exists_id_iff.2 (Nat.zero_le _), hClosed, fun block hBlock target hJump =>
      exists_id_iff.2 (hJumps block hBlock target hJump)⟩

theorem register?_log_start : ((start callable returns).log calls).filterMap (·.2.register?) =
    (calls.filterMap Call.type?).mapIdx Register.mk := by
  rw [register?_log]
  simp [start]

theorem nodup_numbers {types : List TypeId} :
    ((types.mapIdx Register.mk).map Register.number).Nodup := by
  have hNumbers : (types.mapIdx Register.mk).map Register.number = List.range types.length := by
    apply List.ext_getElem <;> simp
  rw [hNumbers]
  exact List.nodup_range

/-- What a log and a body tell about the calls that made them. -/
structure Account (callable : CallableId) (returns : TypeId) (calls : List Call)
    (log : List (BlockId × Deed)) (body : Body) : Prop where
  /-- The log is about the calls. -/
  about : log.map (·.2.call) = calls
  /-- The block that is current when a call is made is the one that was started last. -/
  current : ∀ before call rest, calls = before ++ call :: rest →
    ∃ deed, log[before.length]? = some (⟨before.countP Call.opens⟩, deed) ∧ deed.call = call
  /-- Blocks are numbered in the order in which they were started, behind the entry block. -/
  opened : log.filterMap (·.2.opened?) = (List.range' 1 (calls.countP Call.opens)).map BlockId.mk
  /-- Registers are numbered in the order in which they were handed out. -/
  registers : log.filterMap (·.2.register?) = (calls.filterMap Call.type?).mapIdx Register.mk
  distinct : ((log.filterMap (·.2.register?)).map Register.number).Nodup
  /-- The body is the one that is read off the log. -/
  read : body = bodyOf callable returns log
  ids : body.blocks.map Block.id = (List.range (calls.countP Call.opens + 1)).map BlockId.mk
  /-- The blocks together hold what was written, once and in the same order. -/
  instrs : body.blocks.flatMap Block.instrs = log.filterMap (·.2.instr?)
  /-- The body can be run if its blocks are closed and no jump leads past the last of them. -/
  check : body.check = .ok () ↔
    (∀ block ∈ body.blocks, block.terminator ≠ .unreachable) ∧
      ∀ block ∈ body.blocks, ∀ target, block.terminator = .jump target →
        target.index ≤ calls.countP Call.opens

/-- **A builder builds what it was called for**, whatever the calls are.  The block that is current
is the last one, and it is found whenever it is written into. -/
theorem builds_what_was_called (callable : CallableId) (returns : TypeId) (calls : List Call) :
    let first := start callable returns
    Account callable returns calls (first.log calls) (first.after calls).finish ∧
      (first.after calls).finish.block? (first.after calls).current =
        some (blockOf (first.log calls) (calls.countP Call.opens)) := by
  intro first
  have hFollows (calls : List Call) :
      (first.after calls).Follows callable returns (first.log calls) := follows_start.after calls
  have hBody := (hFollows calls).body
  constructor
  · constructor
    case about => exact call_log
    case current =>
      rintro before call rest rfl
      refine ⟨((first.after before).perform call).1, ?_, perform_call⟩
      rw [log_append, ← length_log (b := first), List.getElem?_append_right (Nat.le_refl _),
        Nat.sub_self, log, List.getElem?_cons_zero, (hFollows before).current, length_labels]
    case opened => exact opened?_log
    case registers => exact register?_log_start
    case distinct =>
      rw [register?_log_start]
      exact nodup_numbers
    case read => exact hBody
    case ids =>
      rw [finish, hBody, ids_bodyOf, length_labels]
    case instrs =>
      rw [finish, hBody]
      exact (hFollows calls).instrs
    case check =>
      rw [finish, hBody, ← length_labels (b := first)]
      exact check_bodyOf
  · rw [← length_labels (b := first)]
    exact (hFollows calls).block?_current

end Builder
end TwoPhase.Ir
