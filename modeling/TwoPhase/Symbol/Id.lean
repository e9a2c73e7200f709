import TwoPhase.Path

/-!
# Symbol identifiers

How classes and callables are named. A class lives in a package. A callable is a member of a
class or stands alone in a package; members of one class that share a name are overloads and
share an identifier. A descriptor names either kind of symbol.

Identifiers are ordered field by field, and classes come before callables. The orders agree
with equality, so a sorted list of identifiers without repetition is determined by its
members.
-/

namespace TwoPhase

/-- Names a class: its package and its short name. -/
structure ClassId where
  package : Path
  name : Name
deriving DecidableEq, Repr, Inhabited

namespace ClassId

/-- Reads a dotted class name, the last segment being the short name. A text without any
segment names no class. -/
def parse? (s : String) : Option ClassId :=
  (Path.parse s).shortName?.map fun name => ⟨(Path.parse s).parent, name⟩

/-- The segments that are read are those of the package with the short name behind them. -/
theorem parse?_eq_some_iff {s : String} {id : ClassId} :
    parse? s = some id ↔ (Path.parse s).segments = id.package.segments ++ [id.name] := by
  obtain ⟨⟨package⟩, name⟩ := id
  rw [parse?, Path.shortName?, Path.parent]
  rcases List.eq_nil_or_concat (Path.parse s).segments with hNone | ⟨front, last, hSegments⟩
  · simp [hNone]
  · simp [hSegments, and_comm]

/-- The qualified name; in the root package, the short name alone. -/
def text (id : ClassId) : String :=
  if id.package.isRoot then id.name.text else s!"{id.package.text}.{id.name.text}"

instance : Ord ClassId := ⟨compareLex (compareOn package) (compareOn name)⟩

instance : Std.TransOrd ClassId :=
  inferInstanceAs (Std.TransCmp (compareLex (compareOn package) (compareOn name)))

theorem compare_eq_iff {a b : ClassId} :
    compare a b = .eq ↔ compare a.package b.package = .eq ∧ compare a.name b.name = .eq := by
  simp [compare, compareLex, compareOn, Ordering.then_eq_eq]

instance : Std.LawfulEqOrd ClassId where
  eq_of_compare {a b} h := by
    obtain ⟨hPackage, hName⟩ := compare_eq_iff.1 h
    cases a; cases b
    simp_all

end ClassId

/-- Names a callable. -/
structure CallableId where
  package : Path
  /-- The class it is a member of; a function of the package has none. -/
  owner : Option ClassId
  name : Name
deriving DecidableEq, Repr, Inhabited

namespace CallableId

/-- The member of `owner` called `name`. -/
def member (owner : ClassId) (name : Name) : CallableId := ⟨owner.package, some owner, name⟩

/-- Members are told apart by their class and their name. -/
theorem member_inj {owner owner' : ClassId} {name name' : Name} :
    member owner name = member owner' name' ↔ owner = owner' ∧ name = name' := by
  constructor
  · intro h
    injection h with _ hOwner hName
    exact ⟨Option.some.inj hOwner, hName⟩
  · rintro ⟨rfl, rfl⟩
    rfl

/-- The constructors of `owner`. -/
def constructorOf (owner : ClassId) : CallableId := member owner .init

/-- The function of `package` called `name`. -/
def topLevel (package : Path) (name : Name) : CallableId := ⟨package, none, name⟩

/-- The qualified name: behind the owner if there is one, else behind the package. -/
def text (id : CallableId) : String :=
  match id.owner with
  | some owner => s!"{owner.text}.{id.name.text}"
  | none => if id.package.isRoot then id.name.text else s!"{id.package.text}.{id.name.text}"

instance : Ord CallableId :=
  ⟨compareLex (compareOn package) (compareLex (compareOn owner) (compareOn name))⟩

instance : Std.TransOrd CallableId :=
  inferInstanceAs
    (Std.TransCmp (compareLex (compareOn package) (compareLex (compareOn owner) (compareOn name))))

theorem compare_eq_iff {a b : CallableId} :
    compare a b = .eq ↔ compare a.package b.package = .eq ∧
      compare a.owner b.owner = .eq ∧ compare a.name b.name = .eq := by
  simp [compare, compareLex, compareOn, Ordering.then_eq_eq]

instance : Std.LawfulEqOrd CallableId where
  eq_of_compare {a b} h := by
    obtain ⟨hPackage, hOwner, hName⟩ := compare_eq_iff.1 h
    cases a; cases b
    simp_all

end CallableId

/-- Names a symbol of either kind. -/
inductive Descriptor where
  | classLike (id : ClassId)
  | callable (id : CallableId)
deriving DecidableEq, Repr

namespace Descriptor

/-- The package the symbol lives in. -/
def package : Descriptor → Path
  | classLike id => id.package
  | callable id => id.package

/-- The class named, if it is a class. -/
def class? : Descriptor → Option ClassId
  | classLike id => some id
  | callable _ => none

/-- The kind of symbol and its qualified name. -/
def text : Descriptor → String
  | classLike id => s!"class {id.text}"
  | callable id => s!"fun {id.text}"

instance : Ord Descriptor where
  compare
    | classLike a, classLike b => compare a b
    | classLike _, callable _ => .lt
    | callable _, classLike _ => .gt
    | callable a, callable b => compare a b

instance : Std.TransOrd Descriptor where
  eq_swap {a b} := by
    cases a <;> cases b
    · exact @Std.OrientedCmp.eq_swap ClassId compare _ _ _
    · rfl
    · rfl
    · exact @Std.OrientedCmp.eq_swap CallableId compare _ _ _
  isLE_trans {a b c} hab hbc := by
    cases a <;> cases b <;> cases c
    case classLike.classLike.classLike =>
      exact @Std.TransCmp.isLE_trans ClassId compare _ _ _ _ hab hbc
    case callable.callable.callable =>
      exact @Std.TransCmp.isLE_trans CallableId compare _ _ _ _ hab hbc
    case classLike.classLike.callable => rfl
    case classLike.callable.callable => rfl
    case classLike.callable.classLike => cases hbc
    case callable.classLike.classLike => cases hab
    case callable.classLike.callable => cases hab
    case callable.callable.classLike => cases hbc

instance : Std.LawfulEqOrd Descriptor where
  eq_of_compare {a b} h := by
    cases a <;> cases b
    · exact congrArg classLike (Std.LawfulEqOrd.eq_of_compare (α := ClassId) h)
    · cases h
    · cases h
    · exact congrArg callable (Std.LawfulEqOrd.eq_of_compare (α := CallableId) h)

end Descriptor
end TwoPhase
