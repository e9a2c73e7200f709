/-!
# Source positions

A region of user source. Generated and built-in declarations have no source; they carry the
synthetic span, whose line number 0 never occurs in a real file.
-/

namespace TwoPhase

/-- A region of source text. -/
structure Span where
  /-- The offset of the first byte. -/
  start : Nat
  /-- The offset behind the last byte. -/
  stop : Nat
  /-- The line of the first byte, counted from 1. -/
  line : Nat
  /-- The column of the first byte, counted from 1. -/
  column : Nat
deriving DecidableEq, Repr

namespace Span

/-- The span of everything that has no source. -/
def synthetic : Span := ⟨0, 0, 0, 0⟩

instance : Inhabited Span := ⟨synthetic⟩

/-- Whether the span points at no source. -/
def isSynthetic (s : Span) : Bool := s == synthetic

/-- Line and column, where there is source. -/
def text (s : Span) : String :=
  if s.isSynthetic then "<no source>" else s!"{s.line}:{s.column}"

end Span
end TwoPhase
