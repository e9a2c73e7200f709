/-!
# Sorting without repetition

`sortDistinct` lists the members of a list in increasing order, each once. The result depends
only on which elements occur: it has the same members (`mem_sortDistinct`) and is strictly
increasing (`pairwise_sortDistinct`), and two strictly increasing lists with the same members
are equal (`eq_of_pairwise`).
-/

namespace TwoPhase.Order

variable {α : Type} [Ord α]

/-- Inserts into an increasing list, unless an equal element is there already. -/
def insertDistinct (a : α) : List α → List α
  | [] => [a]
  | b :: rest =>
      match compare a b with
      | .lt => a :: b :: rest
      | .eq => b :: rest
      | .gt => b :: insertDistinct a rest

/-- The members of a list in increasing order, each once. -/
def sortDistinct (items : List α) : List α := items.foldr insertDistinct []

section Laws

variable [Std.LawfulEqOrd α]

theorem mem_insertDistinct {a x : α} {items : List α} :
    x ∈ insertDistinct a items ↔ x = a ∨ x ∈ items := by
  induction items with
  | nil => simp [insertDistinct]
  | cons b rest ih =>
      rw [insertDistinct]
      split
      · simp
      · rename_i h
        have hEq : a = b := Std.LawfulEqOrd.eq_of_compare h
        simp [hEq]
      · simp only [List.mem_cons, ih]
        exact or_left_comm

/-- Sorting keeps exactly the members. -/
theorem mem_sortDistinct {x : α} {items : List α} : x ∈ sortDistinct items ↔ x ∈ items := by
  induction items with
  | nil => simp [sortDistinct]
  | cons a rest ih =>
      rw [sortDistinct, List.foldr_cons, mem_insertDistinct, List.mem_cons]
      exact or_congr_right ih

variable [Std.TransOrd α]

theorem pairwise_insertDistinct {a : α} {items : List α}
    (h : items.Pairwise (compare · · = .lt)) :
    (insertDistinct a items).Pairwise (compare · · = .lt) := by
  induction items with
  | nil => simp [insertDistinct]
  | cons b rest ih =>
      rw [List.pairwise_cons] at h
      rw [insertDistinct]
      split
      · rename_i hLt
        refine List.pairwise_cons.2 ⟨?_, List.pairwise_cons.2 h⟩
        intro x hx
        rcases List.mem_cons.1 hx with rfl | hx
        · exact hLt
        · exact Std.TransCmp.lt_trans hLt (h.1 x hx)
      · exact List.pairwise_cons.2 h
      · rename_i hGt
        refine List.pairwise_cons.2 ⟨?_, ih h.2⟩
        intro x hx
        rcases mem_insertDistinct.1 hx with rfl | hx
        · exact Std.OrientedCmp.lt_of_gt hGt
        · exact h.1 x hx

/-- The sorted list is strictly increasing, so nothing occurs twice in it. -/
theorem pairwise_sortDistinct (items : List α) :
    (sortDistinct items).Pairwise (compare · · = .lt) := by
  induction items with
  | nil => simp [sortDistinct]
  | cons a rest ih => exact pairwise_insertDistinct ih

/-- Strictly increasing lists with the same members are equal. -/
theorem eq_of_pairwise {a b : List α} (ha : a.Pairwise (compare · · = .lt))
    (hb : b.Pairwise (compare · · = .lt)) (h : ∀ x, x ∈ a ↔ x ∈ b) : a = b := by
  have irrefl : ∀ x : α, compare x x ≠ .lt := fun x hx =>
    absurd (Std.ReflOrd.compare_self.symm.trans hx) (by decide)
  induction a generalizing b with
  | nil =>
      cases b with
      | nil => rfl
      | cons y ys => exact absurd ((h y).2 List.mem_cons_self) List.not_mem_nil
  | cons x xs ih =>
      cases b with
      | nil => exact absurd ((h x).1 List.mem_cons_self) List.not_mem_nil
      | cons y ys =>
          rw [List.pairwise_cons] at ha hb
          have hxy : x = y := by
            rcases List.mem_cons.1 ((h x).1 List.mem_cons_self) with hEq | hx
            · exact hEq
            · rcases List.mem_cons.1 ((h y).2 List.mem_cons_self) with hEq | hy
              · exact hEq.symm
              · exact absurd (Std.TransCmp.lt_trans (hb.1 x hx) (ha.1 y hy)) (irrefl y)
          subst hxy
          refine congrArg (x :: ·) (ih ha.2 hb.2 fun z => ⟨fun hz => ?_, fun hz => ?_⟩)
          · refine (List.mem_cons.1 ((h z).1 (List.mem_cons_of_mem x hz))).resolve_left ?_
            exact fun hEq => irrefl x (hEq ▸ ha.1 z hz)
          · refine (List.mem_cons.1 ((h z).2 (List.mem_cons_of_mem x hz))).resolve_left ?_
            exact fun hEq => irrefl x (hEq ▸ hb.1 z hz)

/-- **Sorting forgets order and repetition**, and nothing else. -/
theorem sortDistinct_eq_iff {a b : List α} :
    sortDistinct a = sortDistinct b ↔ ∀ x, x ∈ a ↔ x ∈ b := by
  constructor
  · intro h x
    rw [← mem_sortDistinct, h, mem_sortDistinct]
  · intro h
    refine eq_of_pairwise (pairwise_sortDistinct a) (pairwise_sortDistinct b) fun x => ?_
    rw [mem_sortDistinct, mem_sortDistinct, h]

end Laws
end TwoPhase.Order
