import TwoPhase.Ir.Instr

/-!
# Blocks

A block is a list of instructions and a terminator, which says where control goes next. A
block is open until a terminator other than `unreachable` has been set.
-/

namespace TwoPhase.Ir

/-- Names a block inside its body. -/
structure BlockId where
  index : Nat
deriving DecidableEq, Repr, Inhabited

/-- The block number as a dump writes it. -/
def BlockId.text (id : BlockId) : String := s!"bb{id.index}"

/-- How control leaves a block. -/
inductive Terminator where
  /-- Control goes on in another block. -/
  | jump (target : BlockId)
  /-- The body is left, with the contents of a register if there is one. -/
  | ret (value : Option Register)
  /-- No terminator has been set yet. -/
  | unreachable
deriving DecidableEq, Repr

namespace Terminator

/-- Where a jump leads. -/
def target? : Terminator → Option BlockId
  | jump target => some target
  | _ => none

/-- The register that is handed back, if there is one. -/
def returned? : Terminator → Option Register
  | ret value => value
  | _ => none

/-- The terminator as the last line of a block in a dump. -/
def text : Terminator → String
  | jump target => s!"jump {target.text}"
  | ret (some value) => s!"return {value.text}"
  | ret none => "return"
  | unreachable => "unreachable"

end Terminator

/-- A straight piece of a body. -/
structure Block where
  id : BlockId
  /-- A word for the reader of a dump. -/
  label : Option String
  instrs : List Instr
  terminator : Terminator
deriving DecidableEq, Repr

namespace Block

/-- The open block without instructions. -/
def start (id : BlockId) (label : Option String) : Block := ⟨id, label, [], .unreachable⟩

/-- Puts an instruction behind the others. -/
def push (b : Block) (instr : Instr) : Block := { b with instrs := b.instrs ++ [instr] }

/-- Sets the terminator; one that was set before is replaced. -/
def close (b : Block) (terminator : Terminator) : Block := { b with terminator }

/-- Whether a terminator has been set. -/
def isTerminated (b : Block) : Bool := b.terminator != .unreachable

/-- The block that control may go on to. -/
def successor? (b : Block) : Option BlockId := b.terminator.target?

/-- Equality of blocks, numbers being compared arithmetically. -/
def agrees (a b : Block) : Bool :=
  a.id == b.id && a.label == b.label && a.instrs.length == b.instrs.length &&
    (a.instrs.zip b.instrs).all (fun pair => pair.1.agrees pair.2) && a.terminator == b.terminator

end Block
end TwoPhase.Ir
