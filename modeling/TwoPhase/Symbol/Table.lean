import TwoPhase.Symbol.Decl
import TwoPhase.Order.Roster

/-!
# The symbol table

The declarations of one compilation, found by identifier and enumerated in the order of their
definition. A class is defined once. The callables with one identifier are defined once and
together, as a group of overloads. A second definition is refused and leaves the table alone, so
the first one stands for good.
-/

namespace TwoPhase

/-- All callables declared under one identifier. -/
structure CallableGroup where
  id : CallableId
  overloads : List CallableDecl
deriving DecidableEq, Repr

/-- Reports a symbol that is defined already. -/
structure DuplicateSymbol where
  symbol : Descriptor
deriving DecidableEq, Repr

/-- The declarations of one compilation. -/
structure SymbolTable where
  /-- The classes under their identifiers. -/
  classRoster : Order.Roster ClassId ClassDecl
  /-- The overloads under each identifier of callables. -/
  callableRoster : Order.Roster CallableId (List CallableDecl)
  own : ∀ id decl, classRoster.get? id = some decl → decl.id = id
deriving DecidableEq, Repr

namespace SymbolTable

/-- The table without any declaration. -/
def empty : SymbolTable := ⟨.empty, .empty, nofun⟩

instance : Inhabited SymbolTable := ⟨empty⟩

/-- The table of one built-in class with its constructors. -/
def ofBuiltin (decl : ClassDecl) (constructors : List CallableDecl) : SymbolTable where
  classRoster := .single decl.id decl
  callableRoster := .single (.constructorOf decl.id) constructors
  own id found h := by
    rw [Order.Roster.get?_single] at h
    split at h
    · rename_i hId
      cases h
      exact hId.symm
    · cases h

/-- The declaration of a class. -/
def class? (t : SymbolTable) (id : ClassId) : Option ClassDecl := t.classRoster.get? id

/-- The classes in the order of definition. -/
def classes (t : SymbolTable) : List ClassDecl := t.classRoster.values

/-- The number of classes. -/
def classCount (t : SymbolTable) : Nat := t.classRoster.size

/-- The callables declared under an identifier, if it is defined. -/
def group? (t : SymbolTable) (id : CallableId) : Option CallableGroup :=
  (t.callableRoster.get? id).map (⟨id, ·⟩)

/-- The groups of callables in the order of definition. -/
def groups (t : SymbolTable) : List CallableGroup :=
  t.callableRoster.entries.map fun entry => ⟨entry.1, entry.2⟩

/-- Whether callables are defined under an identifier, be it an empty group of them. -/
def hasCallables (t : SymbolTable) (id : CallableId) : Bool := t.callableRoster.contains id

/-- The overloads declared under an identifier; none if it is not defined. -/
def callables (t : SymbolTable) (id : CallableId) : List CallableDecl :=
  (t.callableRoster.get? id).getD []

/-- Every callable, in the order of definition. -/
def allCallables (t : SymbolTable) : List CallableDecl := t.callableRoster.values.flatten

/-- The callables whose identifier names `owner` as their class, in the order of definition. -/
def membersOf (t : SymbolTable) (owner : ClassId) : List CallableDecl :=
  t.allCallables.filter fun c => c.id.owner == some owner

/-- The constructor of a class that takes no arguments. -/
def noArgConstructor? (t : SymbolTable) (id : ClassId) : Option CallableDecl :=
  (t.callables (.constructorOf id)).find? (·.params.isEmpty)

/-- Adds a class, unless its identifier is defined. -/
def defineClass (t : SymbolTable) (decl : ClassDecl) :
    Except DuplicateSymbol Unit × SymbolTable :=
  match h : t.classRoster.contains decl.id with
  | true => (.error ⟨.classLike decl.id⟩, t)
  | false =>
      (.ok (), { t with
        classRoster := t.classRoster.add decl.id decl h
        own := fun id found hFound => by
          rw [Order.Roster.get?_add] at hFound
          split at hFound
          · rename_i hId
            cases hFound
            exact hId.symm
          · exact t.own id found hFound })

/-- Adds the overloads of one identifier, unless the identifier is defined. -/
def defineCallables (t : SymbolTable) (id : CallableId) (overloads : List CallableDecl) :
    Except DuplicateSymbol Unit × SymbolTable :=
  match h : t.callableRoster.contains id with
  | true => (.error ⟨.callable id⟩, t)
  | false => (.ok (), { t with callableRoster := t.callableRoster.add id overloads h })

end SymbolTable
end TwoPhase
