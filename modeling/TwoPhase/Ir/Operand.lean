import TwoPhase.Types
import TwoPhase.Number
import TwoPhase.Text.Quoted

/-!
# Registers and literals

What an instruction can read: a register of the body, or a literal written into it. Each is
shown in a dump by its `text`.
-/

namespace TwoPhase.Ir

/-- A register together with the type of what it holds. The number alone tells registers of
one body apart. -/
structure Register where
  number : Nat
  type : TypeId
deriving DecidableEq, Repr

/-- The register number and the type number. -/
def Register.text (r : Register) : String := s!"r{r.number}:{r.type.index}"

/-- A value written into a body. -/
inductive Literal where
  | number (n : Number)
  | string (s : String)
  | boolean (b : Bool)
  | null
deriving DecidableEq, Repr

namespace Literal

/-- Strings are quoted, so that a dump shows the white space in them. -/
def text : Literal → String
  | number n => n.text
  | string s => Text.quote s
  | boolean b => if b then "true" else "false"
  | null => "null"

/-- Equality of literals, numbers being compared arithmetically. -/
def agrees : Literal → Literal → Bool
  | number a, number b => a.agrees b
  | string a, string b => a == b
  | boolean a, boolean b => a == b
  | null, null => true
  | _, _ => false

end Literal

/-- The source of an assignment. -/
inductive Operand where
  | register (r : Register)
  | literal (l : Literal)
deriving DecidableEq, Repr

namespace Operand

/-- The register or the literal. -/
def text : Operand → String
  | register r => r.text
  | literal l => l.text

/-- Equality of operands, numbers being compared arithmetically. -/
def agrees : Operand → Operand → Bool
  | register a, register b => a == b
  | literal a, literal b => a.agrees b
  | _, _ => false

end Operand
end TwoPhase.Ir
