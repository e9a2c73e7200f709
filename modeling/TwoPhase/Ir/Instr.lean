import TwoPhase.Ir.Operand

/-!
# Instructions

The steps inside a block. A body gets objects only from its parameters and from fields, and it
calls nothing but constructors: enough to fill the members that extensions declare.
-/

namespace TwoPhase.Ir

/-- One step of a block. -/
inductive Instr where
  /-- Copies a register or a literal into `dest`. -/
  | assign (dest : Register) (value : Operand)
  /-- Runs the constructor `target` on the object in `this`, which exists already. -/
  | delegate (this : Register) (target : CallableId) (args : List Register)
  /-- Resets the fields that `classId` itself declares on the object in `this`. Inherited
  fields are left to the constructor of the superclass. -/
  | initFields (this : Register) (classId : ClassId)
  /-- Copies a slot of an object into `dest`. -/
  | load (dest object : Register) (slot : Nat)
  /-- Copies `value` into a slot of an object. -/
  | store (object : Register) (slot : Nat) (value : Register)
deriving DecidableEq, Repr

namespace Instr

/-- The instruction as a line of a dump. -/
def text : Instr → String
  | assign dest value => s!"{dest.text} = {value.text}"
  | delegate this target args =>
      let list := ", ".intercalate (args.map Register.text)
      s!"delegate {this.text} -> {target.text}({list})"
  | initFields this classId => s!"init_fields {this.text} as {classId.text}"
  | load dest object slot => s!"{dest.text} = {object.text}.field{slot}"
  | store object slot value => s!"{object.text}.field{slot} = {value.text}"

/-- Equality of instructions, numbers being compared arithmetically. -/
def agrees : Instr → Instr → Bool
  | assign dest value, assign dest' value' => dest == dest' && value.agrees value'
  | a, b => a == b

end Instr
end TwoPhase.Ir
