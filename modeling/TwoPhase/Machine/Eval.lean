import TwoPhase.Machine.RuntimeError

/-!
# The machine's state and its computations

The state of a machine is a heap of objects, the events observed so far and the depth of nested
calls. A computation changes the state and ends with an answer or an error; what it changed
before an error stays changed. Since bodies may jump in circles, a computation may also give up
because its fuel ran out, which is neither an answer nor an error and has no state.
-/

namespace TwoPhase

/-- What an observer of a run can see, in order. -/
inductive Event where
  /-- A constructor was called. -/
  | constructorEntered (callable : CallableId)
  /-- The fields that a class declares got their first values. -/
  | fieldsInitialized (id : ClassId)
deriving DecidableEq, Repr

/-- An object: the class it was made from, and its slots. -/
structure Object where
  classId : ClassId
  slots : Array Value
deriving DecidableEq, Repr

/-- The state of a run. -/
structure Machine where
  heap : Array Object
  events : Array Event
  /-- The number of bodies being run inside each other. -/
  depth : Nat
deriving DecidableEq, Repr

/-- The machine before anything has run. -/
def Machine.start : Machine := ⟨#[], #[], 0⟩

/-- The depth at which a further call is refused. -/
def Machine.maxDepth : Nat := 256

/-- A computation of the machine. `none` says that the fuel ran out. -/
def Eval (α : Type) : Type := Machine → Option (Except RuntimeError α × Machine)

namespace Eval

variable {α β : Type}

/-- Answers without touching the state. -/
protected def pure (a : α) : Eval α := fun m => some (.ok a, m)

/-- Goes on with the answer; an error ends the computation. -/
protected def bind (x : Eval α) (f : α → Eval β) : Eval β := fun m =>
  match x m with
  | none => none
  | some (.error e, m) => some (.error e, m)
  | some (.ok a, m) => f a m

instance : Monad Eval where
  pure := Eval.pure
  bind := Eval.bind

/-- Stops with an error. -/
def fail (e : RuntimeError) : Eval α := fun m => some (.error e, m)

/-- Gives up. -/
def outOfFuel : Eval α := fun _ => none

/-- Answers with a result, or stops with its error. -/
def ofExcept : Except RuntimeError α → Eval α
  | .ok a => Eval.pure a
  | .error e => fail e

/-- Answers with what is there, or stops with an error. -/
def ofOption (e : RuntimeError) : Option α → Eval α
  | some a => Eval.pure a
  | none => fail e

/-- The number of bodies being run. -/
def depth : Eval Nat := fun m => some (.ok m.depth, m)

/-- Records an event. -/
def record (event : Event) : Eval Unit := fun m =>
  some (.ok (), { m with events := m.events.push event })

/-- Runs a computation one call deeper, and comes back also after an error. -/
def nested (x : Eval α) : Eval α := fun m =>
  match x { m with depth := m.depth + 1 } with
  | none => none
  | some (result, m) => some (result, { m with depth := m.depth - 1 })

/-- Puts a new object on the heap. -/
def allocate (object : Object) : Eval ObjectRef := fun m =>
  some (.ok ⟨m.heap.size⟩, { m with heap := m.heap.push object })

/-- The object that a reference stands for. -/
def objectAt (ref : ObjectRef) : Eval Object := fun m =>
  match m.heap[ref.index]? with
  | some object => some (.ok object, m)
  | none => some (.error (.typeError (.dangling ref)), m)

/-- Puts a value into the slots named by number, in order. The first slot that does not exist
stops the run; the values put before that stay. -/
def putSlots (slots : Array Value) : List (Nat × Value) → Except Nat Unit × Array Value
  | [] => (.ok (), slots)
  | (index, value) :: rest =>
      if index < slots.size then putSlots (slots.setIfInBounds index value) rest
      else (.error index, slots)

/-- Puts values into slots of an object. -/
def writeSlots (ref : ObjectRef) (values : List (Nat × Value)) : Eval Unit := fun m =>
  match m.heap[ref.index]? with
  | none => some (.error (.typeError (.dangling ref)), m)
  | some object =>
      let (result, slots) := putSlots object.slots values
      let m := { m with heap := m.heap.setIfInBounds ref.index { object with slots } }
      match result with
      | .ok () => some (.ok (), m)
      | .error index => some (.error (.typeError (.noSlot index)), m)

end Eval
end TwoPhase
