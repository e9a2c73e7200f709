import TwoPhase.Symbol.Id
import TwoPhase.Order.Distinct
import TwoPhase.Order.Places

/-!
# Types

Every type has one small number, given out by a table the first time the type is seen. A table
lists its types by number, and holds under each type its number and under each name of a primitive
type the number of that type. The primitive types and the unknown type are in every table from the
start, so their numbers are fixed.

`TypeStore` is what is kept, `TypeTable` a store that was filled with the built-in types first. The
index of numbers fits the list in every store, and a table has the names of every other table.
-/

namespace TwoPhase

/-- The built-in value types, in the order of their type numbers. -/
inductive Primitive where
  | number
  | string
  | boolean
  /-- The type of the null value alone. -/
  | null
  /-- What a callable without a result returns. -/
  | void
deriving DecidableEq, Repr

namespace Primitive

/-- Every primitive type, in the order of the type numbers. -/
def all : List Primitive := [number, string, boolean, null, void]

/-- The name of the type in source text. -/
def text : Primitive → String
  | number => "number"
  | string => "string"
  | boolean => "boolean"
  | null => "null"
  | void => "void"

theorem mem_all (p : Primitive) : p ∈ all := by cases p <;> decide

end Primitive

/-- A type. -/
inductive Ty where
  | primitive (p : Primitive)
  | classLike (id : ClassId)
  /-- Stands for a type that could not be resolved. -/
  | unknown
deriving DecidableEq, Repr

/-- How diagnostics write a type. -/
def Ty.text : Ty → String
  | primitive p => p.text
  | classLike id => id.text
  | unknown => "unknown"

/-- The number of a type in a table. Any number is one, whether or not a table uses it. -/
structure TypeId where
  index : Nat
deriving DecidableEq, Repr, Inhabited

/-- The type number as diagnostics and dumps write it. -/
def TypeId.text (id : TypeId) : String := s!"type{id.index}"

/-- The fixed number of a primitive type. -/
def Primitive.typeId (p : Primitive) : TypeId := ⟨all.idxOf p⟩

/-- The types that are in every table, in the order of their numbers. -/
def Ty.builtin : List Ty := Primitive.all.map primitive ++ [unknown]

/-- Types by number and numbers by type, with names for some of them. -/
structure TypeStore where
  /-- The types in the order of their numbers. -/
  types : List Ty
  /-- Under each type its number. -/
  ids : Order.Places Ty
  /-- Under each name the number of a type. -/
  byName : Order.Map String TypeId
  nodup : types.Nodup
  ids_eq : ids = .of types
deriving DecidableEq, Repr

namespace TypeStore

/-- The store without types. -/
def empty : TypeStore where
  types := []
  ids := .empty
  byName := .empty
  nodup := List.nodup_nil
  ids_eq := rfl

/-- Numbers a new type. -/
def push (s : TypeStore) (ty : Ty) (h : s.ids.get? ty = none) : TypeStore :=
  { s with
    types := s.types ++ [ty]
    ids := s.ids.insert ty s.types.length
    nodup := Order.nodup_concat s.nodup (Order.Places.get?_of_eq_none_iff.1 (s.ids_eq ▸ h))
    ids_eq := by rw [Order.Places.of_concat, s.ids_eq] }

/-- The number of a type, given out now if the type has none. -/
def intern (s : TypeStore) (ty : Ty) : TypeId × TypeStore :=
  match h : s.ids.get? ty with
  | some n => (⟨n⟩, s)
  | none => (⟨s.types.length⟩, s.push ty h)

/-- Numbers a primitive type and makes it known by its name. -/
def addPrimitive (s : TypeStore) (p : Primitive) : TypeStore :=
  let (id, s) := s.intern (.primitive p)
  { s with byName := s.byName.insert p.text id }

/-- The store that is filled with the primitive types and, behind them, the unknown type. -/
def initial : TypeStore := ((Primitive.all.foldl addPrimitive empty).intern .unknown).2

/-- What is in the store already is not touched. -/
theorem prefix_intern (s : TypeStore) (ty : Ty) : s.types <+: (s.intern ty).2.types := by
  rw [intern]
  split
  · exact List.prefix_rfl
  · exact List.prefix_append _ _

/-- To number a type makes no names. -/
theorem byName_intern (s : TypeStore) (ty : Ty) : (s.intern ty).2.byName = s.byName := by
  rw [intern]
  split <;> rfl

/-- The index follows from the list. -/
theorem eq_of_types {s s' : TypeStore} (hTypes : s.types = s'.types)
    (hNames : s.byName = s'.byName) : s = s' := by
  obtain ⟨_, _, _, _, rfl⟩ := s
  obtain ⟨_, _, _, _, rfl⟩ := s'
  cases hTypes
  cases hNames
  rfl

theorem initial_types : initial.types = Ty.builtin := by rfl

end TypeStore

/-- The types of one compilation: a store that goes on from the initial one. -/
structure TypeTable extends TypeStore where
  builtin : Ty.builtin <+: types
  byName_eq : byName = TypeStore.initial.byName
deriving DecidableEq, Repr

namespace TypeTable

/-- The table with no class type. -/
def initial : TypeTable where
  toTypeStore := .initial
  builtin := TypeStore.initial_types ▸ List.prefix_rfl
  byName_eq := rfl

instance : Inhabited TypeTable := ⟨initial⟩

/-- The type with the given number. -/
def get? (t : TypeTable) (id : TypeId) : Option Ty := t.types[id.index]?

/-- The fixed number of the unknown type, behind the primitive types. -/
def unknown : TypeId := ⟨5⟩

/-- The number of a type, if the table has it. -/
def lookup? (t : TypeTable) (ty : Ty) : Option TypeId := (t.ids.get? ty).map TypeId.mk

/-- The number of the type of `c`, if the table has it. -/
def lookupClass? (t : TypeTable) (c : ClassId) : Option TypeId := t.lookup? (.classLike c)

/-- The number of the primitive type with the given name. -/
def lookupNamed? (t : TypeTable) (s : String) : Option TypeId := t.byName.get? s

/-- The number of a type, given out now if the table lacks it. -/
def intern (t : TypeTable) (ty : Ty) : TypeId × TypeTable :=
  ((t.toTypeStore.intern ty).1,
    { toTypeStore := (t.toTypeStore.intern ty).2
      builtin := t.builtin.trans (t.prefix_intern ty)
      byName_eq := (t.byName_intern ty).trans t.byName_eq })

/-- The number of the type of `c`, given out now if the table lacks it. -/
def internClass (t : TypeTable) (c : ClassId) : TypeId × TypeTable := t.intern (.classLike c)

/-- The primitive type with the given number. -/
def primitive? (t : TypeTable) (id : TypeId) : Option Primitive :=
  match t.get? id with
  | some (.primitive p) => some p
  | _ => none

/-- How diagnostics write the type with the given number. -/
def display (t : TypeTable) (id : TypeId) : String :=
  match t.get? id with
  | some ty => ty.text
  | none => s!"<invalid {id.text}>"

/-- A table is known by its types. -/
theorem eq_of_types {t t' : TypeTable} (h : t.types = t'.types) : t = t' := by
  obtain ⟨s, _, hNames⟩ := t
  obtain ⟨s', _, hNames'⟩ := t'
  obtain rfl : s = s' := TypeStore.eq_of_types h (hNames.trans hNames'.symm)
  rfl

/-- A built-in type has its number in every table. -/
theorem get?_of_builtin (t : TypeTable) {id : TypeId} {ty : Ty}
    (h : Ty.builtin[id.index]? = some ty) : t.get? id = some ty := by
  obtain ⟨rest, hTypes⟩ := t.builtin
  obtain ⟨hLt, _⟩ := List.getElem?_eq_some_iff.1 h
  rw [get?, ← hTypes, List.getElem?_append_left hLt, h]

theorem get?_typeId (t : TypeTable) (p : Primitive) : t.get? p.typeId = some (.primitive p) :=
  t.get?_of_builtin (by cases p <;> rfl)

theorem get?_unknown (t : TypeTable) : t.get? unknown = some .unknown := t.get?_of_builtin rfl

end TypeTable
end TwoPhase
