import TwoPhase.Proofs.Order.Growth
import TwoPhase.Types

/-!
# Numbering types

A type table gives out numbers and takes none back.  So a number that was given out once can be
kept, in a declaration for instance, while others go on numbering types.

A table reads the number of a type from an index and the type of a number from a list.  The index
holds the places of the list, and in the list no type occurs twice; so the two readings are inverse,
and to number a type either finds the place where it stands or puts it at the end.

## Main results

* `lookup?_eq_some_iff` — the number of a type and the type of a number are read inversely.
* `intern_of_lookup?`, `intern_of_new` — a type that has a number, and one that has none.
* `get?_intern` — the number that is given out for a type stands for that type.
* `keeps_intern` — numbering a type changes no number that was given out before.
-/

namespace TwoPhase

namespace TypeStore

variable {s : TypeStore} {ty : Ty} {n : Nat}

/-- **The index and the list are inverse.** -/
theorem ids_eq_some_iff : s.ids.get? ty = some n ↔ s.types[n]? = some ty := by
  rw [s.ids_eq, Order.Places.get?_of_eq_some_iff_of_nodup s.nodup]

theorem ids_eq_none_iff : s.ids.get? ty = none ↔ ty ∉ s.types := by
  rw [s.ids_eq, Order.Places.get?_of_eq_none_iff]

/-- A type that has a number is not numbered again. -/
theorem intern_of_some (h : s.ids.get? ty = some n) : s.intern ty = (⟨n⟩, s) := by
  rw [intern]
  split
  · rename_i hFound
    rw [h] at hFound
    cases hFound
    rfl
  · rename_i hNew
    rw [h] at hNew
    cases hNew

/-- A new type is put at the end. -/
theorem intern_of_none (h : s.ids.get? ty = none) :
    s.intern ty = (⟨s.types.length⟩, s.push ty h) := by
  rw [intern]
  split
  · rename_i hFound
    rw [h] at hFound
    cases hFound
  · rfl

end TypeStore

namespace TypeTable

/-- Every number that the first table uses stands for the same type in the second one. -/
def Keeps (t t' : TypeTable) : Prop :=
  ∀ ⦃id ty⦄, t.get? id = some ty → t'.get? id = some ty

theorem Keeps.refl (t : TypeTable) : t.Keeps t := fun _ _ h => h

theorem Keeps.trans {t t' t'' : TypeTable} (h : t.Keeps t') (h' : t'.Keeps t'') : t.Keeps t'' :=
  fun _ _ hId => h' (h hId)

/-- Types behind those that are there change no number. -/
theorem keeps_of_prefix {t t' : TypeTable} (h : t.types <+: t'.types) : t.Keeps t' := by
  intro id ty hId
  obtain ⟨more, hTypes⟩ := h
  obtain ⟨hLt, _⟩ := List.getElem?_eq_some_iff.1 hId
  rw [get?, ← hTypes, List.getElem?_append_left hLt]
  exact hId

/-- The initial table is at the front of every other one. -/
theorem keeps_initial (t : TypeTable) : initial.Keeps t :=
  keeps_of_prefix (TypeStore.initial_types ▸ t.builtin)

variable {t : TypeTable} {ty : Ty} {id : TypeId}

/-- **The search for a type finds the number that stands for it**, and no other one. -/
theorem lookup?_eq_some_iff : t.lookup? ty = some id ↔ t.get? id = some ty := by
  rw [lookup?, Option.map_eq_some_iff, get?, ← TypeStore.ids_eq_some_iff]
  constructor
  · rintro ⟨n, hFound, rfl⟩
    exact hFound
  · exact fun hFound => ⟨id.index, hFound, rfl⟩

/-- To number a type again gives the same number and changes nothing. -/
theorem intern_of_lookup? (h : t.lookup? ty = some id) : t.intern ty = (id, t) := by
  obtain ⟨n, hFound, rfl⟩ := Option.map_eq_some_iff.1 h
  have hSame := TypeStore.intern_of_some hFound
  have hNumber : (t.intern ty).1 = ⟨n⟩ := congrArg Prod.fst hSame
  have hTypes : (t.intern ty).2.types = t.types := congrArg (·.2.types) hSame
  exact Prod.ext hNumber (eq_of_types hTypes)

/-- A new type is put at the end and gets the number of that place. -/
theorem intern_of_new (h : ty ∉ t.types) :
    (t.intern ty).1 = ⟨t.types.length⟩ ∧ (t.intern ty).2.types = t.types ++ [ty] := by
  have hPushed := TypeStore.intern_of_none (TypeStore.ids_eq_none_iff.2 h)
  exact ⟨congrArg Prod.fst hPushed, congrArg (·.2.types) hPushed⟩

variable (t ty) (c : ClassId)

/-- The number of a type stands for it. -/
theorem get?_intern : (t.intern ty).2.get? (t.intern ty).1 = some ty := by
  by_cases hMem : ty ∈ t.types
  · obtain ⟨n, hHere⟩ := List.mem_iff_getElem?.1 hMem
    have hFound : t.lookup? ty = some ⟨n⟩ := lookup?_eq_some_iff.2 hHere
    rw [intern_of_lookup? hFound]
    exact hHere
  · obtain ⟨hNumber, hTypes⟩ := intern_of_new hMem
    rw [hNumber, get?, hTypes, List.getElem?_concat_length]

/-- Numbering a type changes no number that is in use. -/
theorem keeps_intern : t.Keeps (t.intern ty).2 := keeps_of_prefix (t.prefix_intern ty)

theorem get?_internClass :
    (t.internClass c).2.get? (t.internClass c).1 = some (.classLike c) :=
  t.get?_intern (.classLike c)

theorem keeps_internClass : t.Keeps (t.internClass c).2 := t.keeps_intern (.classLike c)

end TypeTable
end TwoPhase
