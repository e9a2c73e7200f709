/-!
# Lists in order of first occurrence

A list without repetition that grows at its end serves as a set that remembers the order in
which its members arrived. Adding a member that is there already changes nothing.
-/

namespace TwoPhase.Order

variable {α : Type}

/-- A list without repetition stays one when a new element is put at its end. -/
theorem nodup_concat {items : List α} {a : α} (hItems : items.Nodup) (ha : a ∉ items) :
    (items ++ [a]).Nodup :=
  List.nodup_append.2 ⟨hItems, List.nodup_cons.2 ⟨List.not_mem_nil, List.nodup_nil⟩,
    fun _ hx _ hy hxy => ha (List.mem_singleton.1 hy ▸ hxy ▸ hx)⟩

variable [DecidableEq α]

/-- Puts an element at the end unless it occurs already. -/
def addNew (items : List α) (a : α) : List α := if a ∈ items then items else items ++ [a]

/-- The elements of a list in order of first occurrence, each once. -/
def distinct (items : List α) : List α := items.foldl addNew []

theorem addNew_of_mem {items : List α} {a : α} (h : a ∈ items) : addNew items a = items :=
  if_pos h

theorem addNew_of_not_mem {items : List α} {a : α} (h : a ∉ items) :
    addNew items a = items ++ [a] :=
  if_neg h

theorem mem_addNew {items : List α} {a x : α} : x ∈ addNew items a ↔ x ∈ items ∨ x = a := by
  by_cases h : a ∈ items
  · rw [addNew_of_mem h]
    exact ⟨Or.inl, fun hx => hx.elim id fun hEq => hEq ▸ h⟩
  · rw [addNew_of_not_mem h]
    simp

theorem nodup_addNew {items : List α} {a : α} (h : items.Nodup) : (addNew items a).Nodup := by
  by_cases ha : a ∈ items
  · rwa [addNew_of_mem ha]
  · rw [addNew_of_not_mem ha]
    exact nodup_concat h ha

/-- One element more is put at the end unless it has occurred. -/
theorem distinct_concat (items : List α) (a : α) :
    distinct (items ++ [a]) = addNew (distinct items) a := by
  rw [distinct, List.foldl_append]
  rfl

/-- The first element comes first, and what is equal to it is left out of the rest. -/
theorem distinct_cons (a : α) (items : List α) :
    distinct (a :: items) = a :: distinct (items.filter (· ≠ a)) := by
  have hGrow : ∀ (rest acc : List α),
      rest.foldl addNew (a :: acc) = a :: (rest.filter (· ≠ a)).foldl addNew acc := by
    intro rest
    induction rest with
    | nil => exact fun _ => rfl
    | cons b rest ih =>
        intro acc
        by_cases hSame : b = a
        · subst hSame
          rw [List.foldl_cons, addNew_of_mem List.mem_cons_self, ih,
            List.filter_cons_of_neg (by simp)]
        · have hStep : addNew (a :: acc) b = a :: addNew acc b := by
            by_cases hMem : b ∈ acc
            · rw [addNew_of_mem hMem, addNew_of_mem (List.mem_cons_of_mem a hMem)]
            · rw [addNew_of_not_mem hMem, addNew_of_not_mem (by simp [hSame, hMem])]
              rfl
          rw [List.foldl_cons, hStep, ih, List.filter_cons_of_pos (by simpa using hSame),
            List.foldl_cons]
  exact hGrow items []

/-- Where nothing occurs twice, nothing is left out. -/
theorem distinct_eq_self {items : List α} (h : items.Nodup) : distinct items = items := by
  induction items with
  | nil => rfl
  | cons a rest ih =>
      obtain ⟨hNew, hRest⟩ := List.nodup_cons.1 h
      have hAll : rest.filter (· ≠ a) = rest :=
        List.filter_eq_self.2 fun b hb => decide_eq_true fun hSame => hNew (hSame ▸ hb)
      rw [distinct_cons, hAll, ih hRest]

/-- The distinct elements are what is left when later repetitions are dropped. -/
theorem distinct_eq_eraseDups (items : List α) : distinct items = items.eraseDups := by
  induction hLength : items.length using Nat.strongRecOn generalizing items with
  | ind n ih =>
      cases items with
      | nil => rfl
      | cons a rest =>
          have hShorter : (rest.filter (· ≠ a)).length < n := by
            rw [← hLength, List.length_cons]
            exact Nat.lt_succ_of_le (List.length_filter_le _ rest)
          have hFilter : rest.filter (fun b => !b == a) = rest.filter (· ≠ a) :=
            List.filter_congr fun _ _ => decide_not.symm
          rw [distinct_cons, List.eraseDups_cons, ih _ hShorter _ rfl, hFilter]

/-- Nothing occurs twice among the distinct elements. -/
theorem nodup_distinct (items : List α) : (distinct items).Nodup := by
  have hGrow : ∀ (rest acc : List α), acc.Nodup → (rest.foldl addNew acc).Nodup := by
    intro rest
    induction rest with
    | nil => exact fun _ h => h
    | cons a rest ih => exact fun acc h => ih _ (nodup_addNew h)
  exact hGrow items [] List.nodup_nil

/-- The distinct elements are exactly the elements. -/
theorem mem_distinct {x : α} {items : List α} : x ∈ distinct items ↔ x ∈ items := by
  rw [distinct_eq_eraseDups, List.mem_eraseDups]

end TwoPhase.Order
