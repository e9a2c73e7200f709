import TwoPhase.Ir.Block
import TwoPhase.Span

/-!
# Bodies

The code of one callable: parameters, blocks and the block where control enters. Blocks are
looked up by their number; where two blocks share a number, the first one is meant.

`Body.check` decides whether a body can be run without ever leaving the road: the entry block
exists, every block has a terminator, and every jump leads to a block that exists
(`WellFormed`). It reports the first defect it finds, in that order.
-/

namespace TwoPhase.Ir

/-- The code of one callable. -/
structure Body where
  /-- The callable that this code belongs to. -/
  callable : CallableId
  /-- Where the arguments arrive, the receiver first. -/
  params : List Register
  returns : TypeId
  /-- The blocks in the order in which they were added. -/
  blocks : List Block
  entry : BlockId
  span : Span
deriving DecidableEq, Repr

/-- Why a body cannot be run. -/
inductive Defect where
  | noBlocks
  | missingEntry (entry : BlockId)
  | openBlock (block : BlockId)
  | unknownTarget (block target : BlockId)
deriving DecidableEq, Repr

/-- The defect in words. -/
def Defect.message : Defect → String
  | noBlocks => "body has no blocks"
  | missingEntry entry => s!"missing entry {entry.text}"
  | openBlock block => s!"{block.text} has no terminator"
  | unknownTarget block target => s!"{block.text} jumps to unknown {target.text}"

namespace Body

/-- The body without blocks, entered at block 0 and without a source. -/
def start (callable : CallableId) (params : List Register) (returns : TypeId) : Body :=
  ⟨callable, params, returns, [], ⟨0⟩, .synthetic⟩

/-- The name shown for the body. -/
def name (b : Body) : String := b.callable.text

/-- Adds a block behind the others. -/
def addBlock (b : Body) (block : Block) : Body := { b with blocks := b.blocks ++ [block] }

/-- The first block with the given number. -/
def block? (b : Body) (id : BlockId) : Option Block := b.blocks.find? (·.id == id)

/-- Changes the first block with the given number. Where there is no such block, nothing is
changed. -/
def modifyBlock (b : Body) (id : BlockId) (change : Block → Block) : Body :=
  match b.blocks.findIdx? (·.id == id) with
  | some place => { b with blocks := b.blocks.modify place change }
  | none => b

/-- The block where control enters. -/
def entry? (b : Body) : Option Block := b.block? b.entry

/-- The number of instructions in all blocks, terminators not counted. -/
def instructionCount (b : Body) : Nat :=
  b.blocks.foldr (fun block count => block.instrs.length + count) 0

/-- The registers handed back by the blocks, in block order. -/
def returnedRegisters (b : Body) : List Register :=
  b.blocks.filterMap fun block => block.terminator.returned?

/-- The first block that is still open. -/
def openBlock? (b : Body) : Option Block := b.blocks.find? (!·.isTerminated)

/-- The first block that jumps to a block that does not exist, and that jump's target. -/
def strayJump? (b : Body) : Option (BlockId × BlockId) :=
  b.blocks.findSome? fun block =>
    match block.successor? with
    | some target => if (b.block? target).isNone then some (block.id, target) else none
    | none => none

/-- The first defect of the body, if it has one. -/
def check (b : Body) : Except Defect Unit :=
  if b.blocks.isEmpty then .error .noBlocks
  else if b.entry?.isNone then .error (.missingEntry b.entry)
  else
    match b.openBlock? with
    | some block => .error (.openBlock block.id)
    | none =>
        match b.strayJump? with
        | some (block, target) => .error (.unknownTarget block target)
        | none => .ok ()

/-- A body whose control never leaves its blocks: it has its entry block, its blocks are all
closed, and its jumps all lead to blocks. -/
structure WellFormed (b : Body) : Prop where
  entry : ∃ block ∈ b.blocks, block.id = b.entry
  closed : ∀ block ∈ b.blocks, block.terminator ≠ .unreachable
  jumps : ∀ block ∈ b.blocks, ∀ target, block.terminator = .jump target →
    ∃ next ∈ b.blocks, next.id = target

theorem block?_isSome_iff {b : Body} {id : BlockId} :
    (b.block? id).isSome = true ↔ ∃ block ∈ b.blocks, block.id = id := by
  simp [block?]

end Body
end TwoPhase.Ir
