import Mathlib.Data.List.Chain
import Mathlib.Data.List.Induction
import Mathlib.Data.List.Nodup
import Mathlib.Logic.Function.Iterate
import TwoPhase.Greeter.Declarations
import TwoPhase.Proofs.Path.Reading
import TwoPhase.Resolver

/-!
# The packages around a package

Which packages lie around a package is asked in four ways.  Segments are compared (`encloses`), the
packages are listed from the root down (`enclosing`), one goes up from a package step by step
(`parent`), and identifiers are sorted by their packages.  The resolver and the greeter ask in the
first two ways whether anything may live in a package.

## Strategy

A path is the root or a child (`childInduction`).  One segment more puts one package at the end of
the list (`enclosing_child`), adds this package to those that enclose (`encloses_child_iff`), and is
what `parent` takes off again.  So what the list looks like, and that the ways agree, is shown by
going down from the root.  For the order it is enough that equal segments in front have no say
(`compare_append_left`).

## Main results

* `enclosing_nodup`, `head?_enclosing`, `getLast?_enclosing`, `enclosing_isChain` — the list.
* `encloses_iff_iterate` — going up comes to all packages that enclose, and to no others.
* `compare_isLE_of_encloses` — what encloses is sorted in front.
* `enclosing_ways_agree` — all of it, and what the tests for a package mean.
-/

namespace TwoPhase

namespace Path

variable {p q r : Path} {n : Name}

/-! ## Down from the root -/

/-- What holds of the root, and of the children of what it holds of, holds of every package. -/
theorem childInduction {motive : Path → Prop} (root : motive root)
    (child : ∀ p n, motive p → motive (p.child n)) (p : Path) : motive p := by
  obtain ⟨segments⟩ := p
  induction segments using List.reverseRecOn with
  | nil => exact root
  | append_singleton segments n ih => exact child ⟨segments⟩ n ih

@[simp]
theorem parent_child (p : Path) (n : Name) : (p.child n).parent = p :=
  segments_inj.1 List.dropLast_concat

@[simp]
theorem parent_root : root.parent = root := rfl

/-- One more package stands at the end of the list for a child. -/
theorem enclosing_child (p : Path) (n : Name) :
    (p.child n).enclosing = p.enclosing ++ [p.child n] := by
  obtain ⟨segments⟩ := p
  have hInner : ∀ k ∈ List.range (segments.length + 1),
      (⟨(segments ++ [n]).take k⟩ : Path) = ⟨segments.take k⟩ := by
    intro k hk
    have hShort : k ≤ segments.length := Nat.le_of_lt_succ (List.mem_range.1 hk)
    rw [List.take_append_of_le_length hShort]
  have hWhole : (segments ++ [n]).take (segments.length + 1) = segments ++ [n] :=
    List.take_of_length_le (by simp)
  rw [enclosing, child, enclosing, List.length_append, List.length_singleton, List.range_succ,
    List.map_append, List.map_congr_left hInner, List.map_singleton, hWhole]

/-! ## Enclosing is an order -/

theorem encloses_refl (p : Path) : p.encloses p = true :=
  encloses_iff.2 (List.prefix_refl p.segments)

theorem encloses_trans (h : p.encloses q = true) (h' : q.encloses r = true) :
    p.encloses r = true :=
  encloses_iff.2 ((encloses_iff.1 h).trans (encloses_iff.1 h'))

theorem encloses_antisymm (h : p.encloses q = true) (h' : q.encloses p = true) : p = q :=
  segments_inj.1 ((encloses_iff.1 h).eq_of_length_le (encloses_iff.1 h').length_le)

/-- Of two packages around one, the outer one encloses the other. -/
theorem encloses_or_encloses (h : p.encloses r = true) (h' : q.encloses r = true) :
    p.encloses q = true ∨ q.encloses p = true := by
  rw [encloses_iff, encloses_iff]
  exact List.prefix_or_prefix_of_prefix (encloses_iff.1 h) (encloses_iff.1 h')

theorem encloses_root_iff : p.encloses root = true ↔ p = root := by
  rw [encloses_iff, root, List.prefix_nil, ← segments_inj]

/-- A child is enclosed by itself, and by what encloses its parent. -/
theorem encloses_child_iff :
    p.encloses (q.child n) = true ↔ p = q.child n ∨ p.encloses q = true := by
  rw [encloses_iff, encloses_iff, child, List.prefix_concat_iff, ← segments_inj]

/-- No package encloses its parent. -/
theorem not_encloses_parent (p : Path) (n : Name) : ¬ (p.child n).encloses p = true := by
  intro h
  have hLength := (encloses_iff.1 h).length_le
  rw [child, List.length_append, List.length_singleton] at hLength
  omega

/-! ## The list -/

/-- No package is listed twice. -/
theorem enclosing_nodup (q : Path) : q.enclosing.Nodup := by
  induction q using childInduction with
  | root => exact List.nodup_singleton root
  | child p n ih =>
      rw [enclosing_child]
      refine Order.nodup_concat ih fun hMem => ?_
      exact not_encloses_parent p n (mem_enclosing_iff.1 hMem)

/-- The list starts at the root. -/
theorem head?_enclosing (q : Path) : q.enclosing.head? = some root := by
  induction q using childInduction with
  | root => rfl
  | child p n ih => rw [enclosing_child, List.head?_append, ih, Option.some_or]

/-- The list ends with the package itself. -/
theorem getLast?_enclosing (q : Path) : q.enclosing.getLast? = some q := by
  rw [enclosing, List.range_succ, List.map_append, List.map_singleton, List.getLast?_concat,
    List.take_length]

/-- Each package in the list is the parent of the next one. -/
theorem enclosing_isChain (q : Path) :
    q.enclosing.IsChain fun outer inner => outer = inner.parent := by
  induction q using childInduction with
  | root => exact List.isChain_singleton root
  | child p n ih =>
      rw [enclosing_child, List.isChain_append]
      refine ⟨ih, List.isChain_singleton _, ?_⟩
      intro outer hOuter inner hInner
      rw [getLast?_enclosing, Option.mem_some_iff] at hOuter
      rw [List.head?_singleton, Option.mem_some_iff] at hInner
      rw [← hOuter, ← hInner, parent_child]

/-! ## Going up -/

/-- **Going up from a package** comes to those that enclose it, and to no others. -/
theorem encloses_iff_iterate : p.encloses q = true ↔ ∃ steps, parent^[steps] q = p := by
  induction q using childInduction with
  | root =>
      have hStay : ∀ steps, parent^[steps] root = root := Function.iterate_fixed parent_root
      rw [encloses_root_iff]
      constructor
      · rintro rfl
        exact ⟨0, rfl⟩
      · rintro ⟨steps, rfl⟩
        exact hStay steps
  | child q n ih =>
      have hUp : ∀ steps, parent^[steps + 1] (q.child n) = parent^[steps] q := by
        intro steps
        rw [Function.iterate_succ_apply, parent_child]
      rw [encloses_child_iff, ih]
      constructor
      · rintro (rfl | ⟨steps, hSteps⟩)
        · exact ⟨0, rfl⟩
        · exact ⟨steps + 1, (hUp steps).trans hSteps⟩
      · rintro ⟨_ | steps, hSteps⟩
        · exact .inl hSteps.symm
        · exact .inr ⟨steps, (hUp steps).symm.trans hSteps⟩

/-! ## Sorting -/

/-- What two lists have in common in front has no say in how they compare. -/
theorem compare_append_left (front a b : List Name) :
    compare (front ++ a) (front ++ b) = compare a b := by
  induction front with
  | nil => rfl
  | cons first front ih =>
      rw [List.cons_append, List.cons_append, List.compare_cons_cons, Std.ReflOrd.compare_self, ih]
      rfl

/-- **What encloses a package is not sorted behind it.** -/
theorem compare_isLE_of_encloses (h : p.encloses q = true) : (compare p q).isLE = true := by
  obtain ⟨behind, hSegments⟩ := encloses_iff.1 h
  have hCompare : compare p q = compare [] behind := by
    show compare p.segments q.segments = compare [] behind
    rw [← hSegments, ← compare_append_left p.segments [] behind, List.append_nil]
  rw [hCompare]
  cases behind with
  | nil => rfl
  | cons first rest => rfl

end Path

/-- **The ways to ask for the packages around a package agree.**  The list holds exactly those that
enclose it.  It has no repetitions, starts at the root and ends with the package, and each one in it
is the parent of the next.  Enclosing is a partial order in which any two packages around one can be
compared.  It is what one comes to by going up, and what encloses is not sorted behind.  So the
resolver and the greeter look for a package in such lists when they are asked whether anything may
live in it. -/
theorem enclosing_ways_agree :
    (∀ p q : Path, p ∈ q.enclosing ↔ p.encloses q = true) ∧
    (∀ q : Path, q.enclosing.Nodup ∧ q.enclosing.head? = some .root ∧
      q.enclosing.getLast? = some q ∧
      q.enclosing.IsChain fun outer inner => outer = inner.parent) ∧
    ((∀ p : Path, p.encloses p = true) ∧
      (∀ p q : Path, p.encloses q = true → q.encloses p = true → p = q) ∧
      ∀ p q r : Path, p.encloses q = true → q.encloses r = true → p.encloses r = true) ∧
    (∀ p q r : Path, p.encloses r = true → q.encloses r = true →
      p.encloses q = true ∨ q.encloses p = true) ∧
    (∀ p q : Path, p.encloses q = true ↔ ∃ steps, Path.parent^[steps] q = p) ∧
    (∀ p q : Path, p.encloses q = true → (compare p q).isLE = true) ∧
    (∀ key p, (Greeter.declarations key).hasNamespace p = true ↔ p ∈ Greeter.package.enclosing) ∧
    ∀ (r : Resolver) p, r.hasNamespace p = true ↔ p ∈ rootClass.package.enclosing ∨
      ∃ provider ∈ r.extensions.declarations, provider.hasNamespace p = true := by
  refine ⟨fun _ _ => Path.mem_enclosing_iff, fun q => ?_, ?_,
    fun _ _ _ => Path.encloses_or_encloses, fun _ _ => Path.encloses_iff_iterate,
    fun _ _ => Path.compare_isLE_of_encloses, fun _ _ => Path.mem_enclosing_iff.symm,
    fun r p => ?_⟩
  · exact ⟨q.enclosing_nodup, q.head?_enclosing, q.getLast?_enclosing, q.enclosing_isChain⟩
  · exact ⟨Path.encloses_refl, fun _ _ => Path.encloses_antisymm, fun _ _ _ => Path.encloses_trans⟩
  · rw [Path.mem_enclosing_iff, Resolver.hasNamespace, Bool.or_eq_true, List.any_eq_true]

/-- The greeter's package and the one around it, both around a package inside. -/
theorem greeter_package_around :
    let outer := Path.root.child ⟨"foo"⟩
    let inner := Greeter.package.child ⟨"baz"⟩
    outer.encloses inner = true ∧ Greeter.package.encloses inner = true ∧
      (outer.encloses Greeter.package = true ∨ Greeter.package.encloses outer = true) ∧
      Greeter.package ∈ inner.enclosing ∧ (∃ steps, Path.parent^[steps] inner = outer) ∧
      (compare outer inner).isLE = true ∧
      ∀ key, (Greeter.declarations key).hasNamespace outer = true ∧
        (Greeter.declarations key).hasNamespace inner = false := by
  intro outer inner
  have hOuter : outer.encloses inner = true := by decide
  have hPackage : Greeter.package.encloses inner = true := by decide
  have hListed : outer ∈ Greeter.package.enclosing := by decide
  have hInside : inner ∉ Greeter.package.enclosing := by decide
  obtain ⟨hList, _, _, hCompare, hUp, hSorted, hGreeter, _⟩ := enclosing_ways_agree
  refine ⟨hOuter, hPackage, hCompare outer _ inner hOuter hPackage, (hList _ _).2 hPackage,
    (hUp _ _).1 hOuter, hSorted _ _ hOuter, fun key => ⟨(hGreeter key outer).2 hListed, ?_⟩⟩
  rw [← Bool.not_eq_true, hGreeter]
  exact hInside

end TwoPhase
