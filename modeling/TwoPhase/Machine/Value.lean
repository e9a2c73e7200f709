import TwoPhase.Ir.Operand

/-!
# Values

What registers, slots and results hold while a program runs. An object is held by reference:
its position on the heap.
-/

namespace TwoPhase

/-- A position on the heap. -/
structure ObjectRef where
  index : Nat
deriving DecidableEq, Repr

/-- A value of a running program. -/
inductive Value where
  /-- Also the result of a body that returns nothing. -/
  | null
  | boolean (b : Bool)
  | number (n : Number)
  | string (s : String)
  | object (ref : ObjectRef)
deriving DecidableEq, Repr, Inhabited

namespace Value

/-- The text of a value; strings are shown as they are. -/
def text : Value → String
  | null => "null"
  | boolean b => if b then "true" else "false"
  | number n => n.text
  | string s => s
  | object ref => s!"<object #{ref.index}>"

/-- The text held, if the value is a string. -/
def string? : Value → Option String
  | string s => some s
  | _ => none

/-- The value that a literal stands for. -/
def ofLiteral : Ir.Literal → Value
  | .number n => number n
  | .string s => string s
  | .boolean b => boolean b
  | .null => null

/-- The value that a field of the given type starts with. -/
def zeroOf (types : TypeTable) (type : TypeId) : Value :=
  match types.primitive? type with
  | some .number => number .zero
  | some .boolean => boolean false
  | _ => null

end Value
end TwoPhase
