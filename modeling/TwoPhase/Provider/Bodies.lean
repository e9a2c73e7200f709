import TwoPhase.Symbol.Root
import TwoPhase.Ir.Body

/-!
# Body providers

The half of an extension that fills bodies. It is asked when all declarations are known, so
it sees the complete types and symbols and changes neither. A provider says by key which
callables are its own to fill; for those it must answer with a body or with a reason.
-/

namespace TwoPhase

/-- Why a body could not be made. The parts of the message are texts chosen by the provider. -/
inductive SynthesisError where
  /-- The provider owns the key and has no body for the callable. -/
  | unrecognizedCallable (callable : String)
  /-- The body would return another type than the declared one. -/
  | returnTypeMismatch (callable expected actual : String)
  /-- A constructor has no constructor of its superclass to delegate to. -/
  | missingSuperConstructor (callable superclass : String)
deriving DecidableEq, Repr

/-- The reason in words. -/
def SynthesisError.message : SynthesisError → String
  | unrecognizedCallable callable =>
      s!"No body synthesis rule for generated callable '{callable}'"
  | returnTypeMismatch callable expected actual =>
      s!"Body of '{callable}' returns {actual}, declared {expected}"
  | missingSuperConstructor callable superclass =>
      s!"Superclass '{superclass}' of '{callable}' has no no-argument constructor"

/-- What a body provider sees of the program. -/
structure Resolved where
  types : TypeTable
  symbols : SymbolTable
deriving DecidableEq, Repr

/-- The questions that a provider of bodies answers. -/
structure BodyProvider where
  /-- Whether the callables with this key are its own to fill. A callable without a key was
  not generated at all. -/
  responsible : Option Key → Bool
  /-- The body of a function. -/
  functionBody : CallableDecl → Key → Resolved → Except SynthesisError Ir.Body
  /-- The body of a constructor. -/
  constructorBody : CallableDecl → Key → Resolved → Except SynthesisError Ir.Body

/-- The body of a callable of either kind. -/
def BodyProvider.body (p : BodyProvider) (callable : CallableDecl) (key : Key)
    (view : Resolved) : Except SynthesisError Ir.Body :=
  if callable.isConstructor then p.constructorBody callable key view
  else p.functionBody callable key view

end TwoPhase
