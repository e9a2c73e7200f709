import TwoPhase.Resolver
import TwoPhase.Ir.Module

/-!
# Lowering

Turns resolved declarations into a program. Every class gets a layout: the fields of its
superclasses, those of the outermost first, and then its own. Every generated callable gets a
body from the first provider responsible for its key; the body must be for that callable and
must pass the structural check. Callables from source, such as the root class's constructor,
get none.
-/

namespace TwoPhase

/-- A lowered compilation. -/
structure Program where
  types : TypeTable
  symbols : SymbolTable
  module : Ir.Module
deriving DecidableEq, Repr

namespace SymbolTable

/-- Follows superclasses, collecting each declared class in front of those collected before. It
stops at a class that is not declared, and at one that is collected already: supertypes may go
round. -/
def climb (t : SymbolTable) : Nat → List ClassDecl → Option ClassId → List ClassDecl
  | 0, collected, _ => collected
  | _, collected, none => collected
  | steps + 1, collected, some id =>
      match t.class? id with
      | none => collected
      | some parent =>
          if collected.any (·.id == parent.id) then collected
          else t.climb steps (parent :: collected) parent.supertype

/-- A class and its declared superclasses, the outermost first. -/
def lineage (t : SymbolTable) (decl : ClassDecl) : List ClassDecl :=
  t.climb t.classes.length [decl] decl.supertype

/-- Adds the slots that a class declares. -/
def addSlots (layout : Ir.ClassLayout) (decl : ClassDecl) : Ir.ClassLayout :=
  decl.fields.foldl (fun layout field => (layout.addSlot decl.id field.name field.type).2) layout

/-- Records a member. The constructor of a class is the last one recorded. -/
def addMember (layout : Ir.ClassLayout) (member : CallableDecl) : Ir.ClassLayout :=
  if member.isConstructor then { layout with constructor := some member.id }
  else { layout with methods := Order.addNew layout.methods member.id }

/-- The superclass in a layout: only the root class has none. -/
def parentOf (decl : ClassDecl) : Option ClassId :=
  if decl.id = rootClass then none else some decl.superclass

/-- The layout of a class. -/
def layoutOf (t : SymbolTable) (decl : ClassDecl) : Ir.ClassLayout :=
  let slotted := (t.lineage decl).foldl addSlots (.start decl.id)
  (t.membersOf decl.id).foldl addMember { slotted with parent := parentOf decl }

end SymbolTable

namespace Resolver

/-- Accepts a body for a callable if it is meant for it and has no structural defect. -/
def checkBody (callable : CallableDecl) (body : Ir.Body) : Except CompileError Ir.Body :=
  if body.callable ≠ callable.id then
    .error (.invalidBody callable.id (.implements body.callable))
  else
    match body.check with
    | .error defect => .error (.invalidBody callable.id (.defect defect))
    | .ok () => .ok body

/-- The body of a generated callable, from the first provider responsible for its key. -/
def fillBody (providers : List BodyProvider) (view : Resolved) (callable : CallableDecl)
    (key : Key) : Except CompileError Ir.Body :=
  match providers.find? (·.responsible (some key)) with
  | none => .error (.missingBody callable.id key)
  | some provider =>
      match provider.body callable key view with
      | .error reason => .error (.synthesis reason)
      | .ok body => checkBody callable body

/-- The bodies of the generated callables among the given ones, in order, up to the first
failure. -/
def fillBodies (providers : List BodyProvider) (view : Resolved) :
    List CallableDecl → Except CompileError (List Ir.Body)
  | [] => .ok []
  | callable :: rest =>
      match callable.origin.key? with
      | none => fillBodies providers view rest
      | some key => do
          let body ← fillBody providers view callable key
          let bodies ← fillBodies providers view rest
          return body :: bodies

/-- The program that the declarations resolved so far make up. -/
def lower (r : Resolver) : Except CompileError Program := do
  let bodies ← fillBodies r.extensions.bodies ⟨r.types, r.symbols⟩ r.symbols.allCallables
  let layouts := r.symbols.classes.map r.symbols.layoutOf
  return ⟨r.types, r.symbols, .ofLists r.name layouts bodies⟩

end Resolver
end TwoPhase
