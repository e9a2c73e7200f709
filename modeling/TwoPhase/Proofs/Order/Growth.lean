import Mathlib.Data.List.Induction
import TwoPhase.Order.Distinct
import TwoPhase.Order.Places

/-!
# Lists that grow at their end

Two records of what was put at the end of a list, each told from the list as it stands: the distinct
elements, which are the elements by arrival, and the index of places, which knows where a key was
met last.  Both are proved by induction from the end of the list, one arrival after the other.

## Main results

* `byArrival_distinct` — the distinct elements stand in order of arrival.
* `Places.get?_of_eq_some_iff` — under a key the index holds the place of its last occurrence.
* `Places.get?_of_eq_some_iff_of_nodup` — so an index of distinct keys is the inverse of their list.
-/

namespace TwoPhase.Order

/-! ## Arrival -/

section Arrival

variable {α : Type} [DecidableEq α]

/-- The second list enumerates the elements of the first one in the order in which each of them
first occurs there. -/
structure ByArrival (items listed : List α) : Prop where
  mem : ∀ a, a ∈ listed ↔ a ∈ items
  order : listed.Pairwise fun a b => items.idxOf a < items.idxOf b

/-- **The distinct elements stand in order of arrival.** -/
theorem byArrival_distinct (items : List α) : ByArrival items (distinct items) := by
  refine ⟨fun _ => mem_distinct, ?_⟩
  induction items using List.reverseRecOn with
  | nil => exact .nil
  | append_singleton before last ih =>
      rw [distinct_concat]
      -- what has arrived keeps its place
      have hOld : (distinct before).Pairwise fun a b =>
          (before ++ [last]).idxOf a < (before ++ [last]).idxOf b := by
        refine ih.imp_of_mem fun ha hb hBefore => ?_
        rwa [List.idxOf_append, if_pos (mem_distinct.1 ha), List.idxOf_append,
          if_pos (mem_distinct.1 hb)]
      by_cases hMem : last ∈ distinct before
      · rwa [addNew_of_mem hMem]
      · rw [addNew_of_not_mem hMem, List.pairwise_append]
        refine ⟨hOld, List.pairwise_singleton _ _, fun a ha b hb => ?_⟩
        obtain rfl := List.mem_singleton.1 hb
        have hNew : b ∉ before := mt mem_distinct.2 hMem
        rw [List.idxOf_append, if_pos (mem_distinct.1 ha), List.idxOf_append, if_neg hNew]
        exact Nat.lt_add_left _ (List.idxOf_lt_length_of_mem (mem_distinct.1 ha))

end Arrival

/-! ## Places -/

namespace Places

variable {κ : Type} [DecidableEq κ] {keys : List κ} {k : κ} {place : Nat}

/-- **Under a key stands the place of its last occurrence.** -/
theorem get?_of_eq_some_iff : (of keys).get? k = some place ↔
    keys[place]? = some k ∧ ∀ later, place < later → keys[later]? ≠ some k := by
  induction keys using List.reverseRecOn with
  | nil => exact ⟨nofun, nofun⟩
  | append_singleton before last ih =>
      rw [of_concat, Map.get?_insert]
      by_cases hKey : k = last
      · -- the new occurrence is behind all others
        subst hKey
        rw [if_pos rfl, Option.some_inj]
        constructor
        · rintro rfl
          refine ⟨List.getElem?_concat_length, fun later hLater => ?_⟩
          rw [List.getElem?_eq_none (by simpa using Nat.succ_le_of_lt hLater)]
          nofun
        · rintro ⟨hHere, hLast⟩
          obtain ⟨hLt, _⟩ := List.getElem?_eq_some_iff.1 hHere
          rw [List.length_append, List.length_singleton] at hLt
          refine Nat.le_antisymm (Nat.le_of_not_lt fun hBefore => ?_) (Nat.le_of_lt_succ hLt)
          exact hLast before.length hBefore List.getElem?_concat_length
      · have hOld : ∀ n : Nat, (before ++ [last])[n]? = some k ↔ before[n]? = some k := by
          intro n
          rw [List.getElem?_append]
          split
          · rfl
          · rename_i hBehind
            rw [List.getElem?_eq_none (Nat.le_of_not_lt hBehind), List.getElem?_singleton]
            split <;> simp [Ne.symm hKey]
        simp only [if_neg hKey, ih, ne_eq, hOld]

/-- Where no key occurs twice, to look up a key and to read a place are inverse. -/
theorem get?_of_eq_some_iff_of_nodup (hNodup : keys.Nodup) :
    (of keys).get? k = some place ↔ keys[place]? = some k := by
  rw [get?_of_eq_some_iff, and_iff_left_iff_imp]
  intro hHere later hLater hAgain
  obtain ⟨hLt, _⟩ := List.getElem?_eq_some_iff.1 hHere
  exact Nat.ne_of_lt hLater ((List.getElem?_inj hLt hNodup).1 (hHere.trans hAgain.symm))

end Places
end TwoPhase.Order
