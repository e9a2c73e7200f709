import TwoPhase.Types

/-!
# Class layouts

What the machine needs to know about a class: its slots, inherited ones first, its methods, its
constructor and its superclass. A slot remembers the class that declared it. Slots are numbered
in order; the numbers that instructions can hold end at `Slot.maxIndex`, and every slot beyond
carries that number too.
-/

namespace TwoPhase.Ir

/-- One slot of an object. -/
structure Slot where
  /-- The class whose declaration introduced the slot. -/
  owner : ClassId
  name : Name
  type : TypeId
  index : Nat
deriving DecidableEq, Repr

/-- The greatest slot number: slot numbers are 16 bits wide. -/
def Slot.maxIndex : Nat := 65535

/-- The layout of one class. -/
structure ClassLayout where
  id : ClassId
  /-- The slots, those of the outermost superclass first. -/
  slots : Array Slot
  methods : List CallableId
  constructor : Option CallableId
  /-- The superclass; only the root class has none. -/
  parent : Option ClassId
deriving DecidableEq, Repr

namespace ClassLayout

/-- The layout of a class that has nothing yet. -/
def start (id : ClassId) : ClassLayout := ⟨id, #[], [], none, none⟩

/-- Adds a slot behind the others and answers its number. -/
def addSlot (layout : ClassLayout) (owner : ClassId) (name : Name) (type : TypeId) :
    Nat × ClassLayout :=
  let index := min layout.slots.size Slot.maxIndex
  (index, { layout with slots := layout.slots.push ⟨owner, name, type, index⟩ })

/-- The slots that `owner` declared, in order. -/
def declaredBy (layout : ClassLayout) (owner : ClassId) : List Slot :=
  layout.slots.toList.filter (·.owner == owner)

end ClassLayout
end TwoPhase.Ir
