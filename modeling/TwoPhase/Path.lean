import TwoPhase.Name

/-!
# Dotted paths

A path names a package: a list of simple names, the outermost first, written with dots
between them. The path without segments is the root package.

Reading drops empty segments, so `parse` is a left inverse of `text` only on paths whose
segments are plain: neither empty nor with a dot inside (`parse_text`).
-/

namespace TwoPhase

/-- A package, as the names from the root down to it. -/
structure Path where
  segments : List Name
deriving DecidableEq, Repr, Inhabited

namespace Path

/-- The root package. -/
def root : Path := ⟨[]⟩

/-- Reads a dotted path; empty segments are dropped. -/
def parse (s : String) : Path :=
  ⟨((s.toList.splitOn '.').filter (!·.isEmpty)).map fun segment => ⟨String.ofList segment⟩⟩

/-- The segments with dots between them. -/
def text (p : Path) : String := ".".intercalate (p.segments.map Name.text)

/-- Whether this is the root package. -/
def isRoot (p : Path) : Bool := p.segments.isEmpty

/-- The innermost segment; the root has none. -/
def shortName? (p : Path) : Option Name := p.segments.getLast?

/-- The enclosing package. The root is its own parent. -/
def parent (p : Path) : Path := ⟨p.segments.dropLast⟩

/-- The package called `name` inside `p`. -/
def child (p : Path) (name : Name) : Path := ⟨p.segments ++ [name]⟩

/-- Whether `p` is `q` or encloses it. -/
def encloses (p q : Path) : Bool := p.segments.isPrefixOf q.segments

/-- Every package around `p`, from the root down to `p` itself. -/
def enclosing (p : Path) : List Path :=
  (List.range (p.segments.length + 1)).map fun n => ⟨p.segments.take n⟩

instance : Ord Path := ⟨compareOn Path.segments⟩

instance : Std.TransOrd Path := inferInstanceAs (Std.TransCmp (compareOn Path.segments))

instance : Std.LawfulEqOrd Path where
  eq_of_compare {a b} h := by
    cases a; cases b
    exact congrArg Path.mk (Std.LawfulEqOrd.eq_of_compare (α := List Name) h)

theorem encloses_iff {p q : Path} : p.encloses q = true ↔ p.segments <+: q.segments := by
  simp [encloses]

/-- The packages around `q` are exactly those that enclose it. -/
theorem mem_enclosing_iff {p q : Path} : p ∈ q.enclosing ↔ p.encloses q = true := by
  rw [encloses_iff, enclosing, List.mem_map]
  constructor
  · rintro ⟨n, _, rfl⟩
    exact List.take_prefix n q.segments
  · intro h
    refine ⟨p.segments.length, ?_, ?_⟩
    · rw [List.mem_range]
      have := h.length_le
      omega
    · rw [← List.prefix_iff_eq_take.1 h]

/-- A segment that survives reading: neither empty nor with a dot inside. -/
def Plain (n : Name) : Prop := n.text.toList ≠ [] ∧ '.' ∉ n.text.toList

/-- **Round trip**: a path of plain segments is read back from its text. -/
theorem parse_text {p : Path} (h : ∀ n ∈ p.segments, Plain n) : parse p.text = p := by
  obtain ⟨segments⟩ := p
  cases hSegments : segments with
  | nil => decide
  | cons first rest =>
      rw [← hSegments]
      have hText : (Path.text ⟨segments⟩).toList =
          ['.'].intercalate (segments.map fun n => n.text.toList) := by
        simp [text, String.toList_intercalate, Function.comp_def]
      have hSplit : (Path.text ⟨segments⟩).toList.splitOn '.' =
          segments.map fun n => n.text.toList := by
        rw [hText]
        apply List.splitOn_intercalate
        · intro l hl
          obtain ⟨n, hn, rfl⟩ := List.mem_map.1 hl
          exact (h n hn).2
        · simp [hSegments]
      have hKeep : (segments.map fun n => n.text.toList).filter (!·.isEmpty) =
          segments.map fun n => n.text.toList := by
        rw [List.filter_eq_self]
        intro l hl
        obtain ⟨n, hn, rfl⟩ := List.mem_map.1 hl
        simpa using (h n hn).1
      simp [parse, hSplit, hKeep, Function.comp_def]

end Path
end TwoPhase
