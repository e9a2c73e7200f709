import TwoPhase.Order.SortDistinct

/-!
# Simple names

An identifier without any structure of its own. One name is reserved: `<init>` names the
constructors of a class. Names are ordered by their code points.
-/

namespace TwoPhase

/-- A simple, unqualified identifier. Any text is one, the empty text included. -/
structure Name where
  text : String
deriving DecidableEq, Repr, Inhabited

namespace Name

/-- The name that every constructor has. -/
def init : Name := ⟨"<init>"⟩

/-- Whether the name is the constructors' one. -/
def isInit (n : Name) : Bool := n == init

instance : Ord Name := ⟨compareOn Name.text⟩

instance : Std.TransOrd Name := inferInstanceAs (Std.TransCmp (compareOn Name.text))

instance : Std.LawfulEqOrd Name where
  eq_of_compare {a b} h := by
    cases a; cases b
    exact congrArg Name.mk (Std.LawfulEqOrd.eq_of_compare (α := String) h)

end Name
end TwoPhase
