import TwoPhase.Ir.Body

/-!
# Building a body

A builder writes one body from its first block to its last. It knows the block it is writing by
its number, and looks it up whenever it writes. Registers and blocks are numbered in the order in
which they are handed out.
-/

namespace TwoPhase.Ir

/-- A body in the making. -/
structure Builder where
  /-- What has been written so far. -/
  body : Body
  /-- The block that instructions go to. -/
  current : BlockId
  /-- The number of registers handed out so far. -/
  registers : Nat
  /-- The number of the next block. -/
  nextBlock : Nat
deriving DecidableEq, Repr

namespace Builder

/-- Starts a body with an empty entry block. -/
def start (callable : CallableId) (returns : TypeId) : Builder :=
  let entry : BlockId := ⟨0⟩
  let body := (Body.start callable [] returns).addBlock (.start entry (some "entry"))
  ⟨{ body with entry }, entry, 0, 1⟩

/-- Hands out the next register. -/
def allocate (b : Builder) (type : TypeId) : Register × Builder :=
  (⟨b.registers, type⟩, { b with registers := b.registers + 1 })

/-- Hands out a register and declares it as the next parameter. -/
def param (b : Builder) (type : TypeId) : Register × Builder :=
  let (register, b) := b.allocate type
  (register, { b with body := { b.body with params := b.body.params ++ [register] } })

/-- Leaves the current block and starts another one. -/
def newBlock (b : Builder) (label : String) : BlockId × Builder :=
  let id : BlockId := ⟨b.nextBlock⟩
  (id, { b with
    nextBlock := b.nextBlock + 1
    body := b.body.addBlock (.start id (some label))
    current := id })

/-- Changes the current block. -/
def write (b : Builder) (change : Block → Block) : Builder :=
  { b with body := b.body.modifyBlock b.current change }

/-- Puts an instruction into the current block. -/
def emit (b : Builder) (instr : Instr) : Builder := b.write (·.push instr)

/-- Puts a literal into a fresh register. -/
def constant (b : Builder) (value : Literal) (type : TypeId) : Register × Builder :=
  let (register, b) := b.allocate type
  (register, b.emit (.assign register (.literal value)))

/-- Sets the terminator of the current block. -/
def terminate (b : Builder) (terminator : Terminator) : Builder := b.write (·.close terminator)

/-- The finished body. -/
def finish (b : Builder) : Body := b.body

end Builder
end TwoPhase.Ir
