import TwoPhase.Types
import TwoPhase.Key
import TwoPhase.Span

/-!
# Declarations

What is known about a class or a callable once it has been declared: its identifier, its shape
and where it came from. Bodies are no part of a declaration; they are supplied later, to the
holder of the key in the declaration's origin.
-/

namespace TwoPhase

/-- Where a declaration came from. -/
inductive Origin where
  /-- User source, or built in. -/
  | source
  /-- Generated by the extension with this key. -/
  | generated (key : Key)
deriving DecidableEq, Repr

/-- The key of a generated declaration. -/
def Origin.key? : Origin → Option Key
  | source => none
  | generated key => some key

/-- A field that a class declares. -/
structure FieldDecl where
  name : Name
  type : TypeId
deriving DecidableEq, Repr

/-- A declared class. -/
structure ClassDecl where
  id : ClassId
  /-- The superclass; without one the class extends the root class. -/
  supertype : Option ClassId
  /-- The fields this class declares itself, inherited ones excluded. -/
  fields : List FieldDecl
  origin : Origin
  span : Span
deriving DecidableEq, Repr

/-- The two kinds of callable. -/
inductive CallableKind where
  | function
  | constructor
deriving DecidableEq, Repr

/-- A parameter; the receiver is not listed. -/
structure ParamDecl where
  name : Name
  type : TypeId
deriving DecidableEq, Repr

/-- A declared function or constructor. -/
structure CallableDecl where
  /-- The identifier, which overloads share. -/
  id : CallableId
  kind : CallableKind
  params : List ParamDecl
  /-- The result type; a constructor returns its class. -/
  returns : TypeId
  origin : Origin
  span : Span
deriving DecidableEq, Repr

/-- Whether the callable is a constructor. -/
def CallableDecl.isConstructor (c : CallableDecl) : Bool := c.kind == .constructor

end TwoPhase
