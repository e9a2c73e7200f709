/-!
# Cutting a text in two at a separator

`cutFirst` splits at the first occurrence of a separator, `cutLast` at the last. The
separator itself is dropped, and a text without one is not cut. Each function is pinned
down by the decomposition it finds: the part on the near side of the cut is free of the
separator (`cutFirst_eq_some_iff`, `cutLast_eq_some_iff`).
-/

namespace TwoPhase.Text

/-- The parts before and after the first `sep`. -/
def cutFirst (sep : Char) : List Char → Option (List Char × List Char)
  | [] => none
  | c :: rest =>
      if c = sep then some ([], rest)
      else (cutFirst sep rest).map fun parts => (c :: parts.1, parts.2)

/-- The parts before and after the last `sep`: the first cut of the reversed text. -/
def cutLast (sep : Char) (s : List Char) : Option (List Char × List Char) :=
  (cutFirst sep s.reverse).map fun parts => (parts.2.reverse, parts.1.reverse)

/-- **First cut**: what precedes it is free of the separator. -/
theorem cutFirst_eq_some_iff {sep : Char} {s before after : List Char} :
    cutFirst sep s = some (before, after) ↔ s = before ++ sep :: after ∧ sep ∉ before := by
  induction s generalizing before with
  | nil => simp [cutFirst]
  | cons c rest ih =>
      by_cases h : c = sep
      · subst h
        cases before with
        | nil => simp [cutFirst]
        | cons b bs => simp +contextual [cutFirst]
      · cases before with
        | nil => simp [cutFirst, h]
        | cons b bs =>
            have hStep : cutFirst sep (c :: rest) = some (b :: bs, after) ↔
                c = b ∧ cutFirst sep rest = some (bs, after) := by
              simp only [cutFirst, if_neg h, Option.map_eq_some_iff, Prod.exists]
              constructor
              · rintro ⟨x, y, hxy, hEq⟩
                simp only [Prod.mk.injEq, List.cons.injEq] at hEq
                obtain ⟨⟨rfl, rfl⟩, rfl⟩ := hEq
                exact ⟨rfl, hxy⟩
              · rintro ⟨rfl, hxy⟩
                exact ⟨bs, after, hxy, rfl⟩
            rw [hStep, ih]
            constructor
            · rintro ⟨rfl, rfl, hMem⟩
              exact ⟨rfl, by simp [hMem, Ne.symm h]⟩
            · rintro ⟨hEq, hMem⟩
              simp only [List.cons_append, List.cons.injEq] at hEq
              simp only [List.mem_cons, not_or] at hMem
              exact ⟨hEq.1, hEq.2, hMem.2⟩

/-- A text is left uncut exactly when it has no separator. -/
theorem cutFirst_eq_none_iff {sep : Char} {s : List Char} :
    cutFirst sep s = none ↔ sep ∉ s := by
  induction s with
  | nil => simp [cutFirst]
  | cons c rest ih =>
      by_cases h : c = sep
      · simp [cutFirst, h]
      · simp [cutFirst, h, Ne.symm h, ih]

/-- **Last cut**: what follows it is free of the separator. -/
theorem cutLast_eq_some_iff {sep : Char} {s before after : List Char} :
    cutLast sep s = some (before, after) ↔ s = before ++ sep :: after ∧ sep ∉ after := by
  have hReverse : cutLast sep s = some (before, after) ↔
      cutFirst sep s.reverse = some (after.reverse, before.reverse) := by
    simp only [cutLast, Option.map_eq_some_iff, Prod.exists, Prod.mk.injEq]
    constructor
    · rintro ⟨x, y, hxy, rfl, rfl⟩
      simpa using hxy
    · intro h
      exact ⟨_, _, h, by simp, by simp⟩
  rw [hReverse, cutFirst_eq_some_iff, List.mem_reverse, List.reverse_eq_iff]
  simp

/-- A text is left uncut exactly when it has no separator. -/
theorem cutLast_eq_none_iff {sep : Char} {s : List Char} :
    cutLast sep s = none ↔ sep ∉ s := by
  simp [cutLast, cutFirst_eq_none_iff]

end TwoPhase.Text
