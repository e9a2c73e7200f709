import TwoPhase.Machine.Value

/-!
# Runtime errors

Why a run of a lowered program stops before its end.
-/

namespace TwoPhase

/-- A value that does not suit the operation. -/
inductive TypeFault where
  /-- A reference to no object of the heap. -/
  | dangling (ref : ObjectRef)
  /-- More or fewer arguments than parameters, the receiver included. -/
  | argumentCount (callable : CallableId) (expected got : Nat)
  | notAnObject (register : Ir.Register) (found : Value)
  /-- A slot that the object does not have. -/
  | noSlot (index : Nat)
deriving DecidableEq, Repr

/-- The fault in words. -/
def TypeFault.message : TypeFault → String
  | dangling ref => s!"dangling object reference #{ref.index}"
  | argumentCount callable expected got =>
      s!"'{callable.text}' expects {expected} argument(s), got {got}"
  | notAnObject register found => s!"expected object in {register.text}, found {found.text}"
  | noSlot index => s!"no field {index}"

/-- Why a run stops. -/
inductive RuntimeError where
  /-- The callable has no lowered body. -/
  | noBody (callable : CallableId)
  /-- The class has no lowered layout. -/
  | unknownClass (id : ClassId)
  /-- A register was read before anything was put into it. -/
  | undefinedRegister (register : Ir.Register) (callable : CallableId)
  | typeError (fault : TypeFault)
  /-- Control came to a block without a terminator, or to no block. -/
  | unreachable (callable : CallableId)
  /-- Calls were nested too deeply. -/
  | stackOverflow
deriving DecidableEq, Repr

/-- The error in words. -/
def RuntimeError.message : RuntimeError → String
  | noBody callable => s!"Function '{callable.text}' has no body"
  | unknownClass id => s!"Class '{id.text}' is not defined"
  | undefinedRegister register callable =>
      s!"Register {register.text} read before assignment in '{callable.text}'"
  | typeError fault => s!"Type error: {fault.message}"
  | unreachable callable => s!"Reached unreachable code in '{callable.text}'"
  | stackOverflow => "Call stack exhausted"

end TwoPhase
