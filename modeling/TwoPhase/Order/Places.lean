import TwoPhase.Order.Map

/-!
# Places by key

An index into a list that grows at its end.  Under each key it holds the place of the element that
was put into the list last with that key, so that the element is reached without a search.  To
reach it through the index comes to the same as to search the list from its end.
-/

namespace TwoPhase.Order

/-- Places under keys. -/
abbrev Places (κ : Type) : Type := Map κ Nat

namespace Places

variable {α κ : Type} [DecidableEq κ]

/-- The places in a list with the given keys, entered from its front to its end. -/
def of (keys : List κ) : Places κ :=
  keys.zipIdx.foldl (fun p entry => p.insert entry.1 entry.2) .empty

theorem of_concat (keys : List κ) (k : κ) : of (keys ++ [k]) = (of keys).insert k keys.length := by
  rw [of, List.zipIdx_append, List.foldl_append, Nat.zero_add]
  rfl

/-- Of several places under one key the last one counts. -/
theorem get?_of (keys : List κ) (k : κ) : (of keys).get? k = keys.zipIdx.reverse.lookup k := by
  have hEntered : ∀ (entries : List (κ × Nat)) (p : Places κ),
      (entries.foldl (fun p entry => p.insert entry.1 entry.2) p).get? k =
        (entries.reverse.lookup k).or (p.get? k) := by
    intro entries
    induction entries with
    | nil => exact fun _ => rfl
    | cons entry rest ih =>
        intro p
        rw [List.foldl_cons, ih, Map.get?_insert, List.reverse_cons, List.lookup_append,
          Option.or_assoc, List.lookup_cons]
        by_cases h : k = entry.1
        · rw [if_pos h, beq_iff_eq.2 h]
          rfl
        · rw [if_neg h, beq_false_of_ne h]
          rfl
  rw [of, hEntered, Map.get?_empty, Option.or_none]

/-- A key has a place if it occurs. -/
theorem get?_of_eq_none_iff {keys : List κ} {k : κ} : (of keys).get? k = none ↔ k ∉ keys := by
  rw [get?_of, List.lookup_eq_none_iff]
  constructor
  · intro h hMem
    obtain ⟨place, hPlace⟩ := List.mem_iff_getElem?.1 hMem
    have hEntry := h (k, place) (List.mem_reverse.2 (List.mk_mem_zipIdx_iff_getElem?.2 hPlace))
    exact bne_iff_ne.1 hEntry rfl
  · intro h entry hEntry
    refine bne_iff_ne.2 fun hKey => h ?_
    have hPlace := List.mk_mem_zipIdx_iff_getElem?.1 (List.mem_reverse.1 hEntry)
    exact hKey ▸ List.mem_of_getElem? hPlace

/-- **Through the index the last element with a key is reached.** -/
theorem getElem?_get?_of (key : α → κ) (items : List α) (k : κ) :
    ((of (items.map key)).get? k).bind (items[·]?) = items.reverse.find? (key · == k) := by
  have hLookup : ∀ entries : List (α × Nat), (∀ entry ∈ entries, items[entry.2]? = some entry.1) →
      ((entries.map (Prod.map key id)).lookup k).bind (items[·]?) =
        (entries.map Prod.fst).find? (key · == k) := by
    intro entries hEntries
    induction entries with
    | nil => rfl
    | cons entry rest ih =>
        obtain ⟨hHere, hRest⟩ := List.forall_mem_cons.1 hEntries
        rw [List.map_cons, List.map_cons, Prod.map, List.lookup_cons, List.find?_cons,
          Bool.beq_comm]
        cases key entry.1 == k with
        | true => exact hHere
        | false => exact ih hRest
  have hPlaces : ∀ entry ∈ items.zipIdx.reverse, items[entry.2]? = some entry.1 :=
    fun entry hEntry => List.mk_mem_zipIdx_iff_getElem?.1 (List.mem_reverse.1 hEntry)
  rw [get?_of, List.zipIdx_map, ← List.map_reverse, hLookup _ hPlaces, List.map_reverse,
    List.zipIdx_map_fst]

end Places
end TwoPhase.Order
