import TwoPhase.Provider.Extensions

/-!
# Catalogues

Providers that answer from a fixed table. A catalogue lists classes and members as they are to
be declared, with types named rather than numbered: the numbers are looked up or given out when
a symbol is declared, in the order in which the types are written.
-/

namespace TwoPhase

/-- A type as a catalogue names it. -/
inductive TypeRef where
  | named (ty : Ty)
  /-- A number that is taken as it is, whether or not the table uses it. -/
  | numbered (id : TypeId)
deriving DecidableEq, Repr

namespace TypeRef

/-- The type's number, given out now if the table lacks the type. -/
def intern (types : TypeTable) : TypeRef → TypeId × TypeTable
  | named ty => types.intern ty
  | numbered id => (id, types)

/-- The type's number; the unknown type's if the table lacks the type. -/
def lookup (types : TypeTable) : TypeRef → TypeId
  | named ty => (types.lookup? ty).getD TypeTable.unknown
  | numbered id => id

/-- Numbers types from left to right. -/
def internAll : List TypeRef → TypeTable → List TypeId × TypeTable
  | [], types => ([], types)
  | ref :: rest, types =>
      let (id, types) := ref.intern types
      let (ids, types) := internAll rest types
      (id :: ids, types)

end TypeRef

/-- Names to be declared with one type, as fields or as parameters. The type is numbered even if
there is no name for it. -/
structure Typed where
  names : List Name
  type : TypeRef
deriving DecidableEq, Repr

namespace Typed

/-- Numbers the types from left to right and pairs every name with the number of its type. -/
def internAll (groups : List Typed) (types : TypeTable) : List (Name × TypeId) × TypeTable :=
  let (ids, types) := TypeRef.internAll (groups.map Typed.type) types
  ((groups.zip ids).flatMap fun pair => pair.1.names.map (·, pair.2), types)

end Typed

/-- A class to be declared. -/
structure ClassSpec where
  id : ClassId
  supertype : Option ClassId
  fields : List Typed
  origin : Origin
  span : Span
deriving DecidableEq, Repr

/-- Declares a class; the types of its fields are numbered in order. -/
def ClassSpec.declare (spec : ClassSpec) (types : TypeTable) : ClassDecl × TypeTable :=
  let (typed, types) := Typed.internAll spec.fields types
  let fields := typed.map fun field => ⟨field.1, field.2⟩
  (⟨spec.id, spec.supertype, fields, spec.origin, spec.span⟩, types)

/-- A callable to be declared. -/
structure CallableSpec where
  /-- The identifier; without one, that under which the callable is declared. -/
  id : Option CallableId
  kind : CallableKind
  params : List Typed
  returns : TypeRef
  origin : Origin
  span : Span
deriving DecidableEq, Repr

namespace CallableSpec

/-- Declares a callable under an identifier; its parameter types are numbered in order, and the
return type after them. -/
def declare (spec : CallableSpec) (id : CallableId) (types : TypeTable) :
    CallableDecl × TypeTable :=
  let (typed, types) := Typed.internAll spec.params types
  let (returns, types) := spec.returns.intern types
  let params := typed.map fun param => ⟨param.1, param.2⟩
  (⟨spec.id.getD id, spec.kind, params, returns, spec.origin, spec.span⟩, types)

/-- Declares callables under one identifier, in order. -/
def declareAll (id : CallableId) : List CallableSpec → TypeTable → List CallableDecl × TypeTable
  | [], types => ([], types)
  | spec :: rest, types =>
      let (decl, types) := spec.declare id types
      let (decls, types) := declareAll id rest types
      (decl :: decls, types)

end CallableSpec

/-- What a catalogue answers when a class is asked for. -/
structure ClassEntry where
  /-- The class that is asked for. -/
  id : ClassId
  /-- The entry is passed over once the type of this class is in the table. -/
  unlessType : Option ClassId
  /-- Types that are numbered before the answer. -/
  interns : List TypeRef
  /-- The declaration; without one, the catalogue declines. -/
  answer : Option ClassSpec
deriving DecidableEq, Repr

/-- Whether an entry answers for a class. -/
def ClassEntry.answersFor (entry : ClassEntry) (id : ClassId) (types : TypeTable) : Bool :=
  entry.id == id && !(entry.unlessType.any fun guard => (types.lookupClass? guard).isSome)

/-- A member that a catalogue declares. -/
structure MemberEntry where
  owner : ClassId
  name : Name
  spec : CallableSpec
deriving DecidableEq, Repr

/-- The table that a provider of declarations answers from. -/
structure Catalogue where
  classes : List ClassEntry
  members : List MemberEntry
  /-- The packages it may have; without a list, those around its classes. -/
  namespaces : Option (List Path)
  /-- The symbols it advertises; without a list, its classes. -/
  topLevel : Option (List Descriptor)
  /-- The member names of some classes; those of other classes follow from the members. -/
  names : List (ClassId × List Name)
deriving DecidableEq, Repr

namespace Catalogue

/-- Answers for a class from the first entry that does not pass it over. -/
def declareClass (c : Catalogue) (id : ClassId) (types : TypeTable) :
    Option ClassDecl × TypeTable :=
  match c.classes.find? (·.answersFor id types) with
  | none => (none, types)
  | some entry =>
      let (_, types) := TypeRef.internAll entry.interns types
      match entry.answer with
      | none => (none, types)
      | some spec =>
          let (decl, types) := spec.declare types
          (some decl, types)

/-- The member names of a class. -/
def memberNames (c : Catalogue) (owner : ClassId) : List Name :=
  match c.names.lookup owner with
  | some names => names
  | none => (c.members.filter (·.owner == owner)).map (·.name)

/-- The provider that answers from the table. -/
def provider (c : Catalogue) : DeclarationProvider where
  topLevel := c.topLevel.getD (c.classes.map fun entry => .classLike entry.id)
  hasNamespace path :=
    match c.namespaces with
    | some paths => paths.contains path
    | none => c.classes.any fun entry => path.encloses entry.id.package
  declareClass := c.declareClass
  memberNames owner := c.memberNames owner.id
  declareMembers id owner types :=
    let entries := c.members.filter fun entry => entry.owner == owner.id && entry.name == id.name
    CallableSpec.declareAll id (entries.map MemberEntry.spec) types

end Catalogue

/-- A body that a library of bodies holds, or the reason why it does not. -/
structure BodyEntry where
  callable : CallableId
  /-- The number of parameters that the callable must have, if that matters. -/
  arity : Option Nat
  /-- Makes the body, for a declaration and the types of the program. -/
  make : CallableDecl → TypeTable → Except SynthesisError Ir.Body

/-- Whether an entry is for a callable. -/
def BodyEntry.fits (entry : BodyEntry) (callable : CallableDecl) : Bool :=
  entry.callable == callable.id && entry.arity.all (· == callable.params.length)

/-- The bodies that a provider answers with, and the keys it is responsible for. -/
structure BodyLibrary where
  keys : List Key
  functions : List BodyEntry
  constructors : List BodyEntry

namespace BodyLibrary

/-- Answers from the first entry that fits. -/
def body (entries : List BodyEntry) (callable : CallableDecl) (view : Resolved) :
    Except SynthesisError Ir.Body :=
  match entries.find? (·.fits callable) with
  | some entry => entry.make callable view.types
  | none => .error (.unrecognizedCallable callable.id.text)

/-- The provider that answers from the library. -/
def provider (l : BodyLibrary) : BodyProvider where
  responsible key := key.any (l.keys.contains ·)
  functionBody callable _ view := body l.functions callable view
  constructorBody callable _ view := body l.constructors callable view

end BodyLibrary
end TwoPhase
