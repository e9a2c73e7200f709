import TwoPhase.Provider.Bodies

/-!
# Compilation errors

What can go wrong between the first question to a provider and the lowered program.
-/

namespace TwoPhase

/-- Why a supplied body is refused. -/
inductive BodyFlaw where
  /-- It is the code of another callable. -/
  | implements (other : CallableId)
  | defect (found : Ir.Defect)
deriving DecidableEq, Repr

/-- The flaw in words. -/
def BodyFlaw.message : BodyFlaw → String
  | implements other => s!"body implements '{other.text}'"
  | defect found => found.message

/-- Why a compilation fails. -/
inductive CompileError where
  /-- The member is not among the names that the class's provider gave. -/
  | unresolvedMember (owner : ClassId) (name : Name)
  /-- The class has not been declared. -/
  | unresolvedClass (id : ClassId)
  /-- No provider is responsible for the callable's key. -/
  | missingBody (callable : CallableId) (key : Key)
  /-- The responsible provider made no body. -/
  | synthesis (reason : SynthesisError)
  /-- The responsible provider made a body that cannot be used. -/
  | invalidBody (callable : CallableId) (flaw : BodyFlaw)
  /-- The symbol is defined already. -/
  | duplicateSymbol (symbol : Descriptor)
deriving DecidableEq, Repr

/-- The error in words. -/
def CompileError.message : CompileError → String
  | unresolvedMember owner name =>
      s!"Member '{name.text}' of '{owner.text}' was not advertised by its provider"
  | unresolvedClass id => s!"Class '{id.text}' is not resolved"
  | missingBody callable key =>
      s!"No body generator is responsible for generated callable '{callable.text}' " ++
        s!"(key {key.label})"
  | synthesis reason => s!"Body synthesis failed: {reason.message}"
  | invalidBody callable flaw => s!"Invalid IR for '{callable.text}': {flaw.message}"
  | duplicateSymbol symbol => s!"Duplicate symbol '{symbol.text}'"

end TwoPhase
