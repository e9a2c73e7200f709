import TwoPhase.Greeter.Catalog
import TwoPhase.Provider.Declarations

/-!
# The greeter's declarations

Declares the catalogue's class and its members, all with the greeter's key. Members are only
declared on a class that carries this key: a class of the same name from somewhere else is not
the greeter's.
-/

namespace TwoPhase.Greeter

/-- Whether a class is the one that the greeter with this key declared. -/
def owns (key : Key) (decl : ClassDecl) : Bool :=
  decl.origin.key? == some key && (Entry.ofClass? decl.id).isSome

/-- The declaration of the greeter's class. -/
def classDecl (key : Key) : ClassDecl :=
  ⟨greeterClass, none, [], .generated key, .synthetic⟩

/-- A declaration without parameters. -/
def memberDecl (key : Key) (id : CallableId) (kind : CallableKind) (returns : TypeId) :
    CallableDecl :=
  ⟨id, kind, [], returns, .generated key, .synthetic⟩

/-- Declares the callables with the given identifier on the greeter's class. -/
def declareMembers (key : Key) (id : CallableId) (owner : ClassDecl) (types : TypeTable) :
    List CallableDecl × TypeTable :=
  if owns key owner && id.owner == some owner.id then
    match Entry.ofCallable? id with
    | some .constructor =>
        let (classType, types) := types.internClass owner.id
        ([memberDecl key id .constructor classType], types)
    | some .function => ([memberDecl key id .function Primitive.string.typeId], types)
    | some .greeterClass | none => ([], types)
  else ([], types)

/-- The half of the greeter that declares. -/
def declarations (key : Key) : DeclarationProvider where
  topLevel := [.classLike greeterClass]
  hasNamespace path := path.encloses package
  declareClass id types :=
    (if (Entry.ofClass? id).isSome then some (classDecl key) else none, types)
  memberNames owner := if owns key owner then Entry.memberNames else []
  declareMembers := declareMembers key

end TwoPhase.Greeter
