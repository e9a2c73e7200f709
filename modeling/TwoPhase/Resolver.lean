import TwoPhase.Provider.Extensions
import TwoPhase.CompileError

/-!
# Lazy resolution

A resolver answers questions about classes and their members, asking the installed providers
the first time and remembering the answer. For a class it asks every provider that may have
the class's package, in order, and the first declaration wins; that no provider declares a
class is remembered as well. The members of a class come from the provider that declared it
and from no other.

The root class is known from the start and belongs to the host.

`resolveAll` declares every advertised class, the superclasses of those, and all their members.
How long that takes depends on the providers, whose superclasses need not come to an end, so it
counts steps; running out of them is told apart from every answer.
-/

namespace TwoPhase

/-- Who declares the members of a class. -/
inductive Owner where
  | host
  /-- The provider at this position. -/
  | provider (index : Nat)
deriving DecidableEq, Repr

/-- A compilation while its declarations are being resolved. -/
structure Resolver where
  /-- The name of the module. -/
  name : String
  types : TypeTable
  symbols : SymbolTable
  extensions : Extensions
  /-- The owner of every class that was answered for, the latest first. -/
  owners : List (ClassId × Owner)
  /-- The classes that no provider declared when they were asked for. -/
  unresolved : List ClassId

namespace Resolver

/-- A compilation that knows the root class only. -/
def start (name : String) (extensions : Extensions) : Resolver :=
  let (rootType, types) := TypeTable.initial.internClass rootClass
  { name, types, extensions
    symbols := .ofBuiltin rootDecl [rootConstructor rootType]
    owners := [(rootClass, .host)]
    unresolved := [] }

/-- The owner of a class, once the class has been answered for. -/
def owner? (r : Resolver) (id : ClassId) : Option Owner := r.owners.lookup id

/-- Whether anything may live in a package or inside it. -/
def hasNamespace (r : Resolver) (path : Path) : Bool :=
  path.encloses rootClass.package || r.extensions.declarations.any (·.hasNamespace path)

/-- The classes advertised by the providers, as often as they are. -/
def advertised (r : Resolver) : List ClassId :=
  (r.extensions.declarations.flatMap DeclarationProvider.topLevel).filterMap Descriptor.class?

/-- The classes advertised directly in a package, sorted. -/
def topLevelClasses (r : Resolver) (package : Path) : List ClassId :=
  let inPackage := r.advertised.filter (·.package == package)
  Order.sortDistinct (if rootClass.package = package then rootClass :: inPackage else inPackage)

/-! ## Classes -/

/-- Asks the providers for a class, the first of them being at position `index`. All that may
have the package are asked; the first declaration counts. -/
def askClass (id : ClassId) :
    List DeclarationProvider → Nat → TypeTable → Option (Nat × ClassDecl) × TypeTable
  | [], _, types => (none, types)
  | provider :: rest, index, types =>
      if provider.hasNamespace id.package then
        let (answer, types) := provider.declareClass id types
        let (later, types) := askClass id rest (index + 1) types
        match answer with
        | some decl => (some (index, decl), types)
        | none => (later, types)
      else askClass id rest (index + 1) types

/-- The declaration of a class, asked for the first time it is wanted. A declaration whose own
identifier is defined already is refused, and nothing is remembered of it. -/
def resolveClass (r : Resolver) (id : ClassId) : Option ClassDecl × Resolver :=
  if (r.owner? id).isSome then (r.symbols.class? id, r)
  else if id ∈ r.unresolved then (none, r)
  else
    match askClass id r.extensions.declarations 0 r.types with
    | (none, types) => (none, { r with types, unresolved := id :: r.unresolved })
    | (some (index, decl), types) =>
        match r.symbols.defineClass decl with
        | (.error _, symbols) => (none, { r with types, symbols })
        | (.ok (), symbols) =>
            (symbols.class? id,
              { r with types, symbols, owners := (id, .provider index) :: r.owners })

/-! ## Members -/

/-- The declaration of a class whose members are wanted. -/
def classOf (r : Resolver) (id : ClassId) : Except CompileError ClassDecl :=
  match r.symbols.class? id with
  | some decl => .ok decl
  | none => .error (.unresolvedClass id)

/-- The names of the members that a class may have, sorted. -/
def memberNames (r : Resolver) (owner : ClassId) : Except CompileError (List Name) :=
  match r.owner? owner with
  | none => .error (.unresolvedClass owner)
  | some .host => .ok (Order.sortDistinct ((r.symbols.membersOf owner).map (·.id.name)))
  | some (.provider index) => do
      let decl ← r.classOf owner
      match r.extensions.declarations[index]? with
      | some provider => .ok (Order.sortDistinct (provider.memberNames decl))
      | none => .error (.unresolvedClass owner)

/-- The callables of one name on a class, asked for the first time they are wanted. -/
def resolveMember (r : Resolver) (owner : ClassId) (name : Name) :
    Except CompileError (List CallableDecl) × Resolver :=
  let id := CallableId.member owner name
  if r.symbols.hasCallables id then (.ok (r.symbols.callables id), r)
  else
    match r.owner? owner with
    | none => (.error (.unresolvedClass owner), r)
    | some .host => (.error (.unresolvedMember owner name), r)
    | some (.provider index) =>
        match r.classOf owner, r.extensions.declarations[index]? with
        | .error e, _ => (.error e, r)
        | .ok _, none => (.error (.unresolvedClass owner), r)
        | .ok decl, some provider =>
            if name ∈ provider.memberNames decl then
              let (members, types) := provider.declareMembers id decl r.types
              match r.symbols.defineCallables id members with
              | (.error e, symbols) =>
                  (.error (.duplicateSymbol e.symbol), { r with types, symbols })
              | (.ok (), symbols) => (.ok (symbols.callables id), { r with types, symbols })
            else (.error (.unresolvedMember owner name), r)

/-- Resolves members one after the other, up to the first failure. -/
def resolveMembers (r : Resolver) (owner : ClassId) :
    List Name → Except CompileError Unit × Resolver
  | [] => (.ok (), r)
  | name :: rest =>
      match r.resolveMember owner name with
      | (.ok _, r) => r.resolveMembers owner rest
      | (.error e, r) => (.error e, r)

/-! ## Everything at once -/

/-- Resolves one class with all its members and answers the superclass it names. -/
def resolveWhole (r : Resolver) (id : ClassId) :
    Except CompileError (Option ClassId) × Resolver :=
  match r.resolveClass id with
  | (none, r) => (.error (.unresolvedClass id), r)
  | (some decl, r) =>
      match r.memberNames id with
      | .error e => (.error e, r)
      | .ok names =>
          match r.resolveMembers id names with
          | (.error e, r) => (.error e, r)
          | (.ok (), r) => (.ok decl.supertype, r)

/-- Works off a stack of classes. A superclass goes on top, and no class is worked off twice.
Answers nothing when the steps run out. -/
def resolveStack : Nat → Resolver → List ClassId → List ClassId →
    Option (Except CompileError Unit × Resolver)
  | _, r, [], _ => some (.ok (), r)
  | 0, _, _ :: _, _ => none
  | steps + 1, r, id :: rest, visited =>
      if id ∈ visited then resolveStack steps r rest visited
      else
        match r.resolveWhole id with
        | (.error e, r) => some (.error e, r)
        | (.ok supertype, r) => resolveStack steps r (supertype.toList ++ rest) (id :: visited)

/-- Declares every advertised class, every superclass of one and all their members, from the
greatest identifier down. -/
def resolveAll (steps : Nat) (r : Resolver) : Option (Except CompileError Unit × Resolver) :=
  resolveStack steps r (Order.sortDistinct r.advertised).reverse []

/-- More steps than any catalogue that can be written down takes. -/
def patience : Nat := 1000000

end Resolver
end TwoPhase
