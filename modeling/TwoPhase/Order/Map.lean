/-!
# Maps

Under each of finitely many keys a map holds one value.  A value that is put under a key replaces
the one that was there, and every other key keeps what it has (`get?_insert`).  A map of lists is
also filled one element at a time: `push` puts an element behind those under its key, and makes the
list if there is none yet.
-/

namespace TwoPhase.Order

/-- Values under keys, each key once.  The key that was written last comes first. -/
structure Map (κ ν : Type) where
  entries : List (κ × ν)
  nodup : (entries.map Prod.fst).Nodup
deriving DecidableEq, Repr

namespace Map

variable {κ ν : Type}

/-- No values. -/
def empty : Map κ ν := ⟨[], List.nodup_nil⟩

/-- The keys that have a value. -/
def keys (m : Map κ ν) : List κ := m.entries.map Prod.fst

/-- The number of keys that have a value. -/
def size (m : Map κ ν) : Nat := m.entries.length

theorem eq_of_entries {m m' : Map κ ν} (h : m.entries = m'.entries) : m = m' := by
  obtain ⟨entries, _⟩ := m
  cases h
  rfl

variable [DecidableEq κ]

/-- The value under a key. -/
def get? (m : Map κ ν) (k : κ) : Option ν := m.entries.lookup k

/-- Whether a key has a value. -/
def contains (m : Map κ ν) (k : κ) : Bool := (m.get? k).isSome

/-- Puts a value under a key.  It replaces the one that was there. -/
def insert (m : Map κ ν) (k : κ) (v : ν) : Map κ ν where
  entries := (k, v) :: m.entries.filter (·.1 ≠ k)
  nodup := by
    rw [List.map_cons, List.nodup_cons]
    refine ⟨fun hMem => ?_, (List.filter_sublist.map Prod.fst).nodup m.nodup⟩
    obtain ⟨entry, hEntry, hKey⟩ := List.mem_map.1 hMem
    exact of_decide_eq_true (List.mem_filter.1 hEntry).2 hKey

variable {m : Map κ ν} {k : κ} {v : ν}

theorem get?_empty (k : κ) : (empty : Map κ ν).get? k = none := rfl

/-- A search for one key does not meet the entries of another. -/
theorem lookup_filter_ne {entries : List (κ × ν)} {k k' : κ} (h : k' ≠ k) :
    (entries.filter (·.1 ≠ k)).lookup k' = entries.lookup k' := by
  induction entries with
  | nil => rfl
  | cons entry rest ih =>
      by_cases hEntry : entry.1 = k
      · have hOther : (k' == entry.1) = false := beq_false_of_ne (hEntry ▸ h)
        rw [List.filter_cons_of_neg (by simpa using hEntry), List.lookup_cons, hOther]
        exact ih
      · rw [List.filter_cons_of_pos (by simpa using hEntry), List.lookup_cons, List.lookup_cons, ih]

/-- Reading after writing. -/
theorem get?_insert (m : Map κ ν) (k : κ) (v : ν) (k' : κ) :
    (m.insert k v).get? k' = if k' = k then some v else m.get? k' := by
  rw [insert, get?, List.lookup_cons]
  by_cases h : k' = k
  · rw [if_pos h, beq_iff_eq.2 h]
  · rw [if_neg h, beq_false_of_ne h]
    exact lookup_filter_ne h

/-- A map holds its entries. -/
theorem get?_eq_some_iff : m.get? k = some v ↔ (k, v) ∈ m.entries := by
  obtain ⟨entries, hNodup⟩ := m
  rw [get?]
  dsimp only
  induction entries with
  | nil => exact ⟨nofun, nofun⟩
  | cons entry rest ih =>
      obtain ⟨hNew, hRest⟩ := List.nodup_cons.1 hNodup
      rw [List.lookup_cons, List.mem_cons]
      by_cases h : k = entry.1
      · have hAbsent : (k, v) ∉ rest := fun hMem => hNew (h ▸ List.mem_map_of_mem hMem)
        rw [beq_iff_eq.2 h, or_iff_left hAbsent]
        simp [Prod.ext_iff, h, eq_comm]
      · have hOther : (k, v) ≠ entry := fun hEq => h (congrArg Prod.fst hEq)
        rw [beq_false_of_ne h, or_iff_right hOther]
        exact ih hRest

theorem contains_iff : m.contains k = true ↔ k ∈ m.keys := by
  rw [contains, Option.isSome_iff_exists, keys, List.mem_map]
  simp only [get?_eq_some_iff]
  exact ⟨fun ⟨v, hMem⟩ => ⟨(k, v), hMem, rfl⟩, fun ⟨entry, hMem, hKey⟩ => ⟨entry.2, hKey ▸ hMem⟩⟩

/-- A new key comes before those that are there. -/
theorem entries_insert_of_new (h : m.contains k = false) (v : ν) :
    (m.insert k v).entries = (k, v) :: m.entries := by
  refine congrArg ((k, v) :: ·) (List.filter_eq_self.2 fun entry hEntry => ?_)
  refine decide_eq_true fun hKey => ?_
  rw [← Bool.not_eq_true, contains_iff] at h
  exact h (hKey ▸ List.mem_map_of_mem hEntry)

/-! ## Maps of lists -/

variable {α : Type}

/-- The elements under a key, none if the key has no list. -/
def listed (m : Map κ (List α)) (k : κ) : List α := (m.get? k).getD []

/-- Puts an element behind those under a key. -/
def push (m : Map κ (List α)) (k : κ) (a : α) : Map κ (List α) := m.insert k (m.listed k ++ [a])

/-- An element is listed under its key, behind all others, and under no other key. -/
theorem listed_push (m : Map κ (List α)) (k : κ) (a : α) (k' : κ) :
    (m.push k a).listed k' = if k = k' then m.listed k' ++ [a] else m.listed k' := by
  rw [push, listed, get?_insert]
  by_cases h : k' = k
  · subst h
    rw [if_pos rfl, if_pos rfl]
    rfl
  · rw [if_neg h, if_neg (Ne.symm h)]
    rfl

end Map
end TwoPhase.Order
