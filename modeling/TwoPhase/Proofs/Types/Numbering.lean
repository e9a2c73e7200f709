import Mathlib.Data.List.Induction
import TwoPhase.Proofs.Types.Interning

/-!
# Numbers and types

In every type table numbers and types correspond one to one, and the correspondence only grows.  A
list is read by number, one map by type and another one by name, and the numbers of the built-in
types are told without a look at any of them.  All these answers agree after every run of calls.

## Strategy

To number a type is to put it at the end of the list of types, unless it is there (`types_intern`).
So a run of calls puts the types of the calls, in this order and without repetition, behind the
built-in ones (`types_after`).  The index and the list stay inverse, since every step enters one
place in both.  The names are entered in the beginning only, while the built-in types are numbered,
and by then each of these has the place that it has among all primitive types.

Numbers are natural numbers here.  All that are in use are below the number of types, so up to
`2 ^ 32` types they fit into 32 bits.

## Main results

* `exists_after` — every table comes about by a run of calls from the initial one.
* `lookupNamed?_eq_some_iff` — names stand for the primitive types, with the numbers that the list
  gives them.
* `numbers_and_types_correspond` — the correspondence after any run of calls.
-/

namespace TwoPhase.TypeTable

/-! ## Calls -/

/-- A call by which a type may get a number. -/
inductive Call where
  | intern (ty : Ty)
  | internClass (id : ClassId)
deriving DecidableEq, Repr

/-- The type that gets a number. -/
def Call.type : Call → Ty
  | intern ty => ty
  | internClass id => .classLike id

/-- Answers a call. -/
def serve (t : TypeTable) : Call → TypeId × TypeTable
  | .intern ty => t.intern ty
  | .internClass id => t.internClass id

/-- The table after calls, one after the other. -/
def after (t : TypeTable) (calls : List Call) : TypeTable :=
  calls.foldl (fun t call => (t.serve call).2) t

variable (t : TypeTable)

theorem serve_eq_intern (call : Call) : t.serve call = t.intern call.type := by
  cases call <;> rfl

theorem after_append (calls more : List Call) :
    t.after (calls ++ more) = (t.after calls).after more :=
  List.foldl_append

/-- A run of calls changes no number that is in use. -/
theorem keeps_after (calls : List Call) : t.Keeps (t.after calls) := by
  induction calls generalizing t with
  | nil => exact .refl t
  | cons call rest ih =>
      have hFirst : t.Keeps (t.serve call).2 := by
        rw [serve_eq_intern]
        exact t.keeps_intern call.type
      exact hFirst.trans (ih (t.serve call).2)

/-- The number that a call gives out stands for the type of the call, whatever is called later. -/
theorem get?_after_serve (call : Call) (later : List Call) :
    ((t.serve call).2.after later).get? (t.serve call).1 = some call.type := by
  apply keeps_after
  rw [serve_eq_intern]
  exact t.get?_intern call.type

/-! ## The list of types -/

/-- **To number a type is to put it at the end**, unless it is there. -/
theorem types_intern (ty : Ty) : (t.intern ty).2.types = Order.addNew t.types ty := by
  by_cases hMem : ty ∈ t.types
  · obtain ⟨n, hHere⟩ := List.mem_iff_getElem?.1 hMem
    have hFound : t.lookup? ty = some ⟨n⟩ := lookup?_eq_some_iff.2 hHere
    rw [intern_of_lookup? hFound, Order.addNew_of_mem hMem]
  · rw [(intern_of_new hMem).2, Order.addNew_of_not_mem hMem]

/-- Behind the built-in types a table holds those of the calls, by first occurrence. -/
theorem types_after (calls : List Call) :
    (initial.after calls).types = Order.distinct (Ty.builtin ++ calls.map Call.type) := by
  induction calls using List.reverseRecOn with
  | nil => exact TypeStore.initial_types
  | append_singleton calls call ih =>
      rw [after_append, List.map_append, ← List.append_assoc, List.map_singleton,
        Order.distinct_concat, ← ih, ← types_intern, ← serve_eq_intern]
      rfl

/-- Every table comes about by a run of calls, one for each type that is not built in. -/
theorem exists_after : ∃ calls, initial.after calls = t := by
  obtain ⟨more, hMore⟩ := t.builtin
  refine ⟨more.map .intern, eq_of_types ?_⟩
  have hTypes : (more.map Call.intern).map Call.type = more := by
    rw [List.map_map]
    exact List.map_id more
  rw [types_after, hTypes, hMore, Order.distinct_eq_self t.nodup]

variable {t} {id id' : TypeId} {ty : Ty} {c : ClassId}

theorem get?_isSome_iff : (t.get? id).isSome = true ↔ id.index < t.types.length := by
  rw [get?, isSome_getElem?]

/-- A type has one number. -/
theorem get?_inj (h : t.get? id = some ty) (h' : t.get? id' = some ty) : id = id' := by
  rw [← lookup?_eq_some_iff] at h h'
  exact Option.some.inj (h.symm.trans h')

/-! ## Built-in types -/

/-- The names are those of the primitive types, each with its number. -/
theorem lookupNamed?_eq_some_iff {s : String} :
    t.lookupNamed? s = some id ↔ ∃ p : Primitive, p.text = s ∧ p.typeId = id := by
  have hEntries : TypeStore.initial.byName.entries =
      Primitive.all.reverse.map fun p => (p.text, p.typeId) := by rfl
  rw [lookupNamed?, t.byName_eq, Order.Map.get?_eq_some_iff, hEntries, List.mem_map]
  refine exists_congr fun p => ?_
  simp [p.mem_all]

/-- No class type has the number of a built-in type. -/
theorem lookupClass?_ne (h : t.lookupClass? c = some id) :
    id ≠ unknown ∧ ∀ p : Primitive, id ≠ p.typeId := by
  have hGet : t.get? id = some (.classLike c) := lookup?_eq_some_iff.1 h
  constructor
  · rintro rfl
    rw [t.get?_unknown] at hGet
    cases hGet
  · rintro p rfl
    rw [t.get?_typeId p] at hGet
    cases hGet

/-! ## The correspondence -/

/-- The numbers and the types of a table correspond, if these types were numbered, in this order. -/
structure Corresponds (t : TypeTable) (numbered : List Ty) : Prop where
  /-- The built-in types come first, then all others, each where it occurs first. -/
  types : t.types = Order.distinct (Ty.builtin ++ numbered)
  /-- The index of numbers holds the places of the list, and nothing else. -/
  index : ∀ ty n, t.ids.get? ty = some n ↔ t.types[n]? = some ty
  inverse : ∀ ty id, t.lookup? ty = some id ↔ t.get? id = some ty
  /-- The numbers in use are those below the number of types. -/
  inUse : ∀ id, (t.get? id).isSome = true ↔ id.index < t.types.length
  unique : ∀ id id' ty, t.get? id = some ty → t.get? id' = some ty → id = id'
  /-- The number of a primitive type, in three ways. -/
  primitive : ∀ p : Primitive, t.get? p.typeId = some (.primitive p) ∧
    t.lookup? (.primitive p) = some p.typeId ∧ t.lookupNamed? p.text = some p.typeId
  /-- Names stand for primitive types only. -/
  named : ∀ s id, t.lookupNamed? s = some id → ∃ p : Primitive, p.text = s ∧ p.typeId = id
  unknown : t.get? unknown = some .unknown
  /-- A class has the number of its type, and none if this type has none. -/
  classes : ∀ c id, t.lookupClass? c = some id ↔ t.get? id = some (.classLike c)
  classLike : ∀ c id, t.lookupClass? c = some id →
    id ≠ TypeTable.unknown ∧ ∀ p : Primitive, id ≠ p.typeId

theorem corresponds_after (calls : List Call) :
    (initial.after calls).Corresponds (calls.map Call.type) where
  types := types_after calls
  index _ _ := TypeStore.ids_eq_some_iff
  inverse _ _ := lookup?_eq_some_iff
  inUse _ := get?_isSome_iff
  unique _ _ _ := get?_inj
  primitive p := ⟨get?_typeId _ p, lookup?_eq_some_iff.2 (get?_typeId _ p),
    lookupNamed?_eq_some_iff.2 ⟨p, rfl, rfl⟩⟩
  named _ _ := lookupNamed?_eq_some_iff.1
  unknown := get?_unknown _
  classes _ _ := lookup?_eq_some_iff
  classLike _ _ := lookupClass?_ne

/-- **Numbers and types correspond after any run of calls**, and no number that is in use is ever
given another type.  The number that one more call gives out stands for the type of that call,
whatever is called later; a type that has a number keeps it, and to ask for it again changes
nothing. -/
theorem numbers_and_types_correspond (calls : List Call) :
    (initial.after calls).Corresponds (calls.map Call.type) ∧
      (∀ later, (initial.after calls).Keeps (initial.after (calls ++ later))) ∧
      (∀ call later, (initial.after (calls ++ call :: later)).get?
        ((initial.after calls).serve call).1 = some call.type) ∧
      ∀ call id, (initial.after calls).lookup? call.type = some id →
        (initial.after calls).serve call = (id, initial.after calls) := by
  refine ⟨corresponds_after calls, fun later => ?_, fun call later => ?_, fun call id hKnown => ?_⟩
  · rw [after_append]
    exact keeps_after _ later
  · rw [after_append]
    exact get?_after_serve _ call later
  · rw [serve_eq_intern]
    exact intern_of_lookup? hKnown

end TwoPhase.TypeTable
