import TwoPhase.Symbol.Id

/-!
# The greeter's catalogue

What the shipped plugin can generate: one class with a constructor and one function that
answers a greeting. Both halves of the plugin look symbols up here, so they cannot disagree
about what exists.
-/

namespace TwoPhase.Greeter

/-- The package of the generated class. -/
def package : Path := ⟨[⟨"foo"⟩, ⟨"bar"⟩]⟩

/-- The generated class. -/
def greeterClass : ClassId := ⟨package, ⟨"MyClass"⟩⟩

/-- The name of the generated function. -/
def functionName : Name := ⟨"foo"⟩

/-- What the generated function answers. -/
def greeting : String := "Hello world"

/-- A symbol that can be generated. -/
inductive Entry where
  | greeterClass
  | constructor
  | function
deriving DecidableEq, Repr

namespace Entry

/-- Every entry. -/
def all : List Entry := [greeterClass, constructor, function]

/-- The member name of an entry that is a callable. -/
def memberName? : Entry → Option Name
  | greeterClass => none
  | constructor => some .init
  | function => some functionName

/-- The identifier of an entry that is a callable. -/
def callableId? (e : Entry) : Option CallableId :=
  e.memberName?.map (CallableId.member Greeter.greeterClass)

/-- The entry of a class. -/
def ofClass? (id : ClassId) : Option Entry :=
  if id = Greeter.greeterClass then some greeterClass else none

/-- The entry of a callable, told by its owner and its name. -/
def ofCallable? (id : CallableId) : Option Entry :=
  if id.owner = some Greeter.greeterClass then all.find? (·.memberName? == some id.name) else none

/-- The member names of the catalogue. -/
def memberNames : List Name := all.filterMap memberName?

end Entry
end TwoPhase.Greeter
