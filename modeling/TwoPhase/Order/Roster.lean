import TwoPhase.Order.Map

/-!
# Rosters

A map beside a list of its keys in the order in which they came.  A key is entered once and stays,
with the value that it was entered with.  The values are enumerated by walking through the list and
looking each key up; a key without a value would be passed over, but there is none.

The entries of a roster are the single thing that it is known by: all readings are told by them
(`get?_eq_some_iff`, `order_eq`, `values_eq`), and a new key puts one entry at their end
(`entries_add`).
-/

namespace TwoPhase.Order

/-- Values under keys, with the keys by arrival. -/
structure Roster (κ ν : Type) where
  map : Map κ ν
  /-- The keys in the order in which they were entered. -/
  order : List κ
  /-- The map has exactly these keys.  What was entered last is foremost in it. -/
  keys_eq : map.keys = order.reverse
deriving DecidableEq, Repr

namespace Roster

variable {κ ν : Type}

/-- No keys. -/
def empty : Roster κ ν := ⟨.empty, [], rfl⟩

/-- The number of keys. -/
def size (r : Roster κ ν) : Nat := r.map.size

theorem nodup_order (r : Roster κ ν) : r.order.Nodup := by
  have hKeys : r.order.reverse.Nodup := r.keys_eq ▸ r.map.nodup
  exact (List.reverse_perm r.order).nodup_iff.1 hKeys

variable [DecidableEq κ]

/-- The value under a key. -/
def get? (r : Roster κ ν) (k : κ) : Option ν := r.map.get? k

/-- Whether a key was entered. -/
def contains (r : Roster κ ν) (k : κ) : Bool := r.map.contains k

/-- The values in the order in which their keys were entered. -/
def values (r : Roster κ ν) : List ν := r.order.filterMap r.map.get?

/-- The keys and values in the order in which the keys were entered. -/
def entries (r : Roster κ ν) : List (κ × ν) := r.order.filterMap fun k => (r.map.get? k).map (k, ·)

/-- Enters a new key. -/
def add (r : Roster κ ν) (k : κ) (v : ν) (h : r.contains k = false) : Roster κ ν where
  map := r.map.insert k v
  order := r.order ++ [k]
  keys_eq := by
    rw [Map.keys, Map.entries_insert_of_new h, List.map_cons, List.reverse_append]
    exact congrArg (k :: ·) r.keys_eq

theorem contains_empty (k : κ) : (empty : Roster κ ν).contains k = false := rfl

/-- The roster of one key. -/
def single (k : κ) (v : ν) : Roster κ ν := empty.add k v (contains_empty k)

variable {r : Roster κ ν} {k : κ} {v : ν}

/-- No entry of the map is lost in an enumeration, and none comes twice. -/
theorem entries_eq (r : Roster κ ν) : r.entries = r.map.entries.reverse := by
  have hFound : ∀ part : List (κ × ν), (∀ entry ∈ part, entry ∈ r.map.entries) →
      (part.map Prod.fst).filterMap (fun k => (r.map.get? k).map (k, ·)) = part := by
    intro part hPart
    induction part with
    | nil => rfl
    | cons entry rest ih =>
        obtain ⟨hHere, hRest⟩ := List.forall_mem_cons.1 hPart
        have hValue : r.map.get? entry.1 = some entry.2 := Map.get?_eq_some_iff.2 hHere
        rw [List.map_cons, List.filterMap_cons, hValue, ih hRest]
        rfl
  have hOrder : r.order = (r.map.entries.reverse).map Prod.fst := by
    rw [List.map_reverse, ← List.reverse_reverse r.order, ← r.keys_eq]
    rfl
  rw [entries, hOrder]
  exact hFound _ fun entry => List.mem_reverse.1

theorem order_eq (r : Roster κ ν) : r.order = r.entries.map Prod.fst := by
  rw [entries_eq, List.map_reverse, ← List.reverse_reverse r.order, ← r.keys_eq]
  rfl

theorem values_eq (r : Roster κ ν) : r.values = r.entries.map Prod.snd := by
  rw [entries, List.map_filterMap]
  refine congrArg (r.order.filterMap ·) (funext fun k => ?_)
  cases r.map.get? k <;> rfl

/-- There are as many values as keys. -/
theorem size_eq (r : Roster κ ν) : r.size = r.values.length := by
  rw [values_eq, List.length_map, entries_eq, List.length_reverse]
  rfl

theorem get?_eq_some_iff : r.get? k = some v ↔ (k, v) ∈ r.entries := by
  rw [entries_eq, List.mem_reverse]
  exact Map.get?_eq_some_iff

theorem contains_iff : r.contains k = true ↔ k ∈ r.order := by
  rw [contains, Map.contains_iff, r.keys_eq, List.mem_reverse]

/-- A roster is known by its entries. -/
theorem eq_of_entries {r r' : Roster κ ν} (h : r.entries = r'.entries) : r = r' := by
  have hOrder : r.order = r'.order := by rw [order_eq, order_eq, h]
  have hMap : r.map = r'.map :=
    Map.eq_of_entries (by simpa [entries_eq] using h)
  obtain ⟨map, order, _⟩ := r
  cases hOrder
  cases hMap
  rfl

/-- What is new is entered last. -/
theorem entries_add (h : r.contains k = false) (v : ν) :
    (r.add k v h).entries = r.entries ++ [(k, v)] := by
  rw [entries_eq, entries_eq, add]
  dsimp only
  rw [Map.entries_insert_of_new h, List.reverse_cons]

/-- Reading after entering. -/
theorem get?_add (h : r.contains k = false) (v : ν) (k' : κ) :
    (r.add k v h).get? k' = if k' = k then some v else r.get? k' :=
  Map.get?_insert _ _ _ k'

theorem get?_single (k : κ) (v : ν) (k' : κ) :
    (single k v).get? k' = if k' = k then some v else none :=
  get?_add (contains_empty k) v k'

end Roster
end TwoPhase.Order
