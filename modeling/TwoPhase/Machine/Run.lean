import TwoPhase.Machine.Eval
import TwoPhase.Lowering

/-!
# Running a program

The machine constructs objects and calls their methods. A call looks up the callable's body,
puts receiver and arguments into its parameters and runs its blocks from the entry on. Calls
nest at most `Machine.maxDepth` deep. A constructor that is called is recorded as an event
before anything else is known about it; the root class's constructor does nothing more.

Fuel bounds two things at once: how deep calls nest, and how many blocks one body runs. As
calls are refused at the depth limit anyway, only a body that jumps in a circle can exhaust a
fuel above that limit.
-/

namespace TwoPhase

open Ir (Register Instr Body BlockId)

/-- The registers of one running body, the latest assignment first. -/
structure Frame where
  callable : CallableId
  registers : List (Nat × Value)
deriving DecidableEq, Repr

namespace Frame

/-- Puts a value into a register. -/
def write (frame : Frame) (register : Register) (value : Value) : Frame :=
  { frame with registers := (register.number, value) :: frame.registers }

/-- What a register holds. -/
def read (frame : Frame) (register : Register) : Except RuntimeError Value :=
  match frame.registers.lookup register.number with
  | some value => .ok value
  | none => .error (.undefinedRegister register frame.callable)

/-- The object that a register refers to. -/
def readObject (frame : Frame) (register : Register) : Except RuntimeError ObjectRef :=
  match frame.read register with
  | .ok (.object ref) => .ok ref
  | .ok found => .error (.typeError (.notAnObject register found))
  | .error e => .error e

/-- The frame in which a body starts, its parameters holding the arguments. -/
def enter (body : Body) (args : List Value) : Frame :=
  (body.params.zip args).foldl (fun frame pair => frame.write pair.1 pair.2) ⟨body.callable, []⟩

end Frame

namespace Program

/-- The layout of a class, as an instruction needs it. -/
def layout (p : Program) (id : ClassId) : Eval Ir.ClassLayout :=
  .ofOption (.unknownClass id) (p.module.class? id)

/-- What the fields that `classId` declares start with, by slot number. -/
def initialValues (p : Program) (layout : Ir.ClassLayout) (classId : ClassId) :
    List (Nat × Value) :=
  (layout.declaredBy classId).map fun slot => (slot.index, Value.zeroOf p.types slot.type)

/-- Resets the fields that `classId` declares on an object. The slots are those of the object's
own layout. A class without fields does nothing that could be seen. -/
def initFields (p : Program) (ref : ObjectRef) (classId : ClassId) : Eval Unit := do
  let _ ← p.layout classId
  let object ← Eval.objectAt ref
  let layout ← p.layout object.classId
  let values := p.initialValues layout classId
  if values.isEmpty then return ()
  else do
    Eval.writeSlots ref values
    Eval.record (.fieldsInitialized classId)

/-- Runs one instruction. Calls are made by `call`. -/
def step (p : Program) (call : CallableId → List Value → Eval Value) (frame : Frame) :
    Instr → Eval Frame
  | .assign dest (.register source) => do
      return frame.write dest (← Eval.ofExcept (frame.read source))
  | .assign dest (.literal l) => return frame.write dest (.ofLiteral l)
  | .delegate this target args => do
      let ref ← Eval.ofExcept (frame.readObject this)
      let values ← Eval.ofExcept (args.mapM frame.read)
      let _ ← call target (.object ref :: values)
      return frame
  | .initFields this classId => do
      let ref ← Eval.ofExcept (frame.readObject this)
      p.initFields ref classId
      return frame
  | .load dest object slot => do
      let ref ← Eval.ofExcept (frame.readObject object)
      let target ← Eval.objectAt ref
      let value ← Eval.ofOption (.typeError (.noSlot slot)) target.slots[slot]?
      return frame.write dest value
  | .store object slot value => do
      let ref ← Eval.ofExcept (frame.readObject object)
      let value ← Eval.ofExcept (frame.read value)
      Eval.writeSlots ref [(slot, value)]
      return frame

/-- Runs instructions one after the other. -/
def steps (p : Program) (call : CallableId → List Value → Eval Value) :
    Frame → List Instr → Eval Frame
  | frame, [] => return frame
  | frame, instr :: rest => do
      let frame ← p.step call frame instr
      p.steps call frame rest

/-- Runs a body from one of its blocks on, through at most as many blocks as there is fuel. -/
def runFrom (p : Program) (call : CallableId → List Value → Eval Value) (body : Body) :
    Nat → BlockId → Frame → Eval Value
  | 0, _, _ => Eval.outOfFuel
  | fuel + 1, id, frame => do
      let block ← Eval.ofOption (.unreachable body.callable) (body.block? id)
      let frame ← p.steps call frame block.instrs
      match block.terminator with
      | .jump target => p.runFrom call body fuel target frame
      | .ret (some register) => Eval.ofExcept (frame.read register)
      | .ret none => return .null
      | .unreachable => Eval.fail (.unreachable body.callable)

/-- Runs a body with the given arguments, the receiver first. -/
def runBody (p : Program) (call : CallableId → List Value → Eval Value) (fuel : Nat)
    (body : Body) (args : List Value) : Eval Value :=
  if args.length ≠ body.params.length then
    Eval.fail (.typeError (.argumentCount body.callable body.params.length args.length))
  else p.runFrom call body fuel body.entry (.enter body args)

/-- Whether a callable is the root class's constructor, which has no body. -/
def isRootConstructor (callable : CallableId) : Bool :=
  callable.owner == some rootClass && callable.name.isInit

/-- Records the call of a constructor; other calls leave no trace. -/
def announce (callable : CallableId) : Eval Unit :=
  if callable.name.isInit then Eval.record (.constructorEntered callable) else return ()

/-- Calls a callable with the given arguments, the receiver first. -/
def invoke (p : Program) : Nat → CallableId → List Value → Eval Value
  | 0, _, _ => Eval.outOfFuel
  | fuel + 1, callable, args => do
      let depth ← Eval.depth
      if Machine.maxDepth ≤ depth then Eval.fail .stackOverflow
      else do
        announce callable
        if isRootConstructor callable then return .null
        else do
          let body ← Eval.ofOption (.noBody callable) (p.module.body? callable)
          Eval.nested (p.runBody (p.invoke fuel) fuel body args)

/-- Makes an instance of a class and runs the class's constructor on it, without arguments. All
slots hold the null value until the constructor puts something else there. -/
def construct (p : Program) (fuel : Nat) (id : ClassId) : Eval ObjectRef := do
  let layout ← p.layout id
  let ref ← Eval.allocate ⟨id, Array.replicate layout.slots.size .null⟩
  match layout.constructor with
  | none => return ref
  | some constructor => do
      let _ ← p.invoke fuel constructor [.object ref]
      return ref

/-- Searches a class and its superclasses for a body of the method called `name`, taking at
most the given number of steps. -/
def searchMethod (p : Program) (name : Name) : Nat → ClassId → Option (Option CallableId)
  | 0, _ => none
  | steps + 1, id =>
      if (p.module.body? (.member id name)).isSome then some (some (.member id name))
      else
        match (p.module.class? id).bind (·.parent) with
        | some parent => p.searchMethod name steps parent
        | none => some none

/-- The method called `name` that a class has or inherits. A search through more classes than
the program has goes round for ever, and then there is no answer. -/
def findMethod (p : Program) (id : ClassId) (name : Name) : Option (Option CallableId) :=
  p.searchMethod name (p.module.classes.length + 1) id

/-- Calls a method of an object. -/
def call (p : Program) (fuel : Nat) (ref : ObjectRef) (name : Name) (args : List Value) :
    Eval Value := do
  let object ← Eval.objectAt ref
  match p.findMethod object.classId name with
  | none => Eval.outOfFuel
  | some none => Eval.fail (.noBody (.member object.classId name))
  | some (some callable) => p.invoke fuel callable (.object ref :: args)

/-- A fuel above the depth limit, with room for long chains of jumps. -/
def ampleFuel : Nat := 1000000

end Program
end TwoPhase
