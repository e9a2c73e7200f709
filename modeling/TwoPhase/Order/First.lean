/-!
# The first and the last element with a property

A search reports the first element it is after.  `First` says which one that is by cutting the list
at it: the element has the property, and nothing in front of it has.  A search from the end reports
the last one; nothing behind it has the property (`Last`).
-/

namespace TwoPhase.Order

variable {α : Type} {P Q : α → Prop} {items : List α} {a : α}

/-- The first element of a list that has the property `P`. -/
def First (P : α → Prop) (items : List α) (a : α) : Prop :=
  ∃ before after, items = before ++ a :: after ∧ P a ∧ ∀ b ∈ before, ¬ P b

theorem First.mem (h : First P items a) : a ∈ items := by
  obtain ⟨before, after, rfl, _, _⟩ := h
  exact List.mem_append_right before List.mem_cons_self

theorem First.prop (h : First P items a) : P a := by
  obtain ⟨_, _, _, hProp, _⟩ := h
  exact hProp

theorem first_congr (h : ∀ x, P x ↔ Q x) : First P items a ↔ First Q items a := by
  simp only [First, h]

theorem find?_eq_some_iff_first {p : α → Bool} :
    items.find? p = some a ↔ First (p · = true) items a := by
  rw [List.find?_eq_some_iff_append]
  constructor
  · rintro ⟨hHere, before, after, hItems, hBefore⟩
    exact ⟨before, after, hItems, hHere, fun b hb => by simpa using hBefore b hb⟩
  · rintro ⟨before, after, hItems, hHere, hBefore⟩
    exact ⟨hHere, before, after, hItems, fun b hb => by simpa using hBefore b hb⟩

/-- The last element of a list that has the property `P`. -/
def Last (P : α → Prop) (items : List α) (a : α) : Prop :=
  ∃ before after, items = before ++ a :: after ∧ P a ∧ ∀ b ∈ after, ¬ P b

theorem Last.mem (h : Last P items a) : a ∈ items := by
  obtain ⟨before, after, rfl, _, _⟩ := h
  exact List.mem_append_right before List.mem_cons_self

theorem Last.prop (h : Last P items a) : P a := by
  obtain ⟨_, _, _, hProp, _⟩ := h
  exact hProp

theorem first_reverse_iff : First P items.reverse a ↔ Last P items a := by
  constructor
  · rintro ⟨after, before, hItems, hHere, hAfter⟩
    refine ⟨before.reverse, after.reverse, ?_, hHere, fun b hb => hAfter b (List.mem_reverse.1 hb)⟩
    rw [← List.reverse_reverse items, hItems, List.reverse_append, List.reverse_cons,
      List.append_assoc, List.singleton_append]
  · rintro ⟨before, after, rfl, hHere, hAfter⟩
    refine ⟨after.reverse, before.reverse, ?_, hHere, fun b hb => hAfter b (List.mem_reverse.1 hb)⟩
    rw [List.reverse_append, List.reverse_cons, List.append_assoc, List.singleton_append]

/-- A search from the end finds the last element with the property. -/
theorem find?_reverse_eq_some_iff_last {p : α → Bool} :
    items.reverse.find? p = some a ↔ Last (p · = true) items a :=
  find?_eq_some_iff_first.trans first_reverse_iff

/-- Where some element has the property, there is a first one that has it. -/
theorem exists_first (h : ∃ x ∈ items, P x) : ∃ x, First P items x := by
  induction items with
  | nil => exact absurd h (by simp)
  | cons x rest ih =>
      by_cases hHere : P x
      · exact ⟨x, [], rest, rfl, hHere, nofun⟩
      · obtain ⟨y, before, after, rfl, hProp, hBefore⟩ := ih (by simpa [hHere] using h)
        exact ⟨y, x :: before, after, rfl, hProp, List.forall_mem_cons.2 ⟨hHere, hBefore⟩⟩

end TwoPhase.Order
