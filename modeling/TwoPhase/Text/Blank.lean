/-!
# Blank characters

The characters with the Unicode property White_Space, and trimming by it. The class holds
the line ends, tabs, the non-breaking spaces and the typographic spaces; it does not hold
the zero-width characters.
-/

namespace TwoPhase.Text

/-- Ranges of code points with the property White_Space. -/
def blankRanges : List (Nat × Nat) :=
  [(0x09, 0x0D), (0x20, 0x20), (0x85, 0x85), (0xA0, 0xA0), (0x1680, 0x1680),
   (0x2000, 0x200A), (0x2028, 0x2029), (0x202F, 0x202F), (0x205F, 0x205F), (0x3000, 0x3000)]

/-- Whether `c` is white space. -/
def isBlank (c : Char) : Bool :=
  blankRanges.any fun range => range.1 ≤ c.toNat && c.toNat ≤ range.2

/-- Drops the blank characters at both ends. -/
def trim (s : List Char) : List Char :=
  ((s.dropWhile isBlank).reverse.dropWhile isBlank).reverse

/-- A text without blank characters at its ends is left alone by `trim`. -/
theorem trim_eq_self {s : List Char} (hHead : ∀ c ∈ s.head?, isBlank c = false)
    (hLast : ∀ c ∈ s.getLast?, isBlank c = false) : trim s = s := by
  have keep : ∀ t : List Char, (∀ c ∈ t.head?, isBlank c = false) → t.dropWhile isBlank = t := by
    intro t ht
    cases t with
    | nil => rfl
    | cons c rest => simp [ht c (by simp)]
  rw [trim, keep s hHead, keep s.reverse (by simpa using hLast), List.reverse_reverse]

/-- Blanks at the start are trimmed away. -/
theorem trim_blanks_append {blanks : List Char} (h : ∀ c ∈ blanks, isBlank c = true)
    (s : List Char) : trim (blanks ++ s) = trim s := by
  rw [trim, trim, List.dropWhile_append_of_pos h]

/-- Blanks at the end are trimmed away. -/
theorem trim_append_blanks {blanks : List Char} (h : ∀ c ∈ blanks, isBlank c = true)
    (s : List Char) : trim (s ++ blanks) = trim s := by
  rw [trim, trim, List.dropWhile_append]
  split
  · rename_i hEmpty
    have hNone : blanks.dropWhile isBlank = [] := by
      rw [← List.append_nil blanks, List.dropWhile_append_of_pos h]
      rfl
    rw [hNone, List.isEmpty_iff.1 hEmpty]
  · rw [List.reverse_append, List.dropWhile_append_of_pos fun c hc => h c (List.mem_reverse.1 hc)]

end TwoPhase.Text
