import TwoPhase.Greeter.Catalog
import TwoPhase.Provider.Bodies
import TwoPhase.Ir.Builder

/-!
# The greeter's bodies

Fills the callables that carry the greeter's key. The function answers the greeting. The
constructor runs the superclass's constructor without arguments and resets the fields of its
own class. A callable with the key that the catalogue does not know is an error, never an
empty body.
-/

namespace TwoPhase.Greeter

/-- Refuses a callable. -/
def unrecognized (id : CallableId) : SynthesisError := .unrecognizedCallable id.text

/-- The catalogue's entry for a callable that carries the greeter's key. -/
def entryOf (own : Key) (callable : CallableDecl) (key : Key) : Except SynthesisError Entry :=
  if key = own ∧ callable.origin.key? = some own then
    match Entry.ofCallable? callable.id with
    | some entry => .ok entry
    | none => .error (unrecognized callable.id)
  else .error (unrecognized callable.id)

/-- The body that answers the greeting; its one parameter is the receiver. -/
def greetingBody (callable : CallableDecl) (view : Resolved) : Ir.Body :=
  let receiver := (view.types.lookupClass? greeterClass).getD TypeTable.unknown
  let builder := Ir.Builder.start callable.id callable.returns
  let (_, builder) := builder.param receiver
  let (value, builder) := builder.constant (.string greeting) Primitive.string.typeId
  (builder.terminate (.ret (some value))).finish

/-- Accepts a body if every register it returns has the declared type. -/
def checkReturns (callable : CallableDecl) (body : Ir.Body) (view : Resolved) :
    Except SynthesisError Ir.Body :=
  match body.returnedRegisters.find? (·.type != callable.returns) with
  | some register =>
      .error (.returnTypeMismatch callable.id.text (view.types.display callable.returns)
        (view.types.display register.type))
  | none => .ok body

/-- The body of a generated function. -/
def functionBody (own : Key) (callable : CallableDecl) (key : Key) (view : Resolved) :
    Except SynthesisError Ir.Body := do
  match ← entryOf own callable key with
  | .function => checkReturns callable (greetingBody callable view) view
  | .greeterClass | .constructor => .error (unrecognized callable.id)

/-- The body that delegates to `superConstructor` and resets the class's own fields. -/
def delegatingBody (callable : CallableDecl) (superConstructor : CallableId) : Ir.Body :=
  let builder := Ir.Builder.start callable.id callable.returns
  let (this, builder) := builder.param callable.returns
  let builder := builder.emit (.delegate this superConstructor [])
  let builder := builder.emit (.initFields this greeterClass)
  (builder.terminate (.ret none)).finish

/-- The body of a generated constructor. -/
def constructorBody (own : Key) (callable : CallableDecl) (key : Key) (view : Resolved) :
    Except SynthesisError Ir.Body := do
  match ← entryOf own callable key with
  | .constructor =>
      match view.symbols.class? greeterClass with
      | none => .error (unrecognized callable.id)
      | some decl =>
          match view.symbols.noArgConstructor? decl.superclass with
          | none => .error (.missingSuperConstructor callable.id.text decl.superclass.text)
          | some superConstructor => .ok (delegatingBody callable superConstructor.id)
  | .greeterClass | .function => .error (unrecognized callable.id)

/-- The half of the greeter that fills bodies. -/
def bodies (own : Key) : BodyProvider where
  responsible key := key == some own
  functionBody := functionBody own
  constructorBody := constructorBody own

end TwoPhase.Greeter
