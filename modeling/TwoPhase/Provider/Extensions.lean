import TwoPhase.Provider.Declarations
import TwoPhase.Provider.Bodies

/-!
# Extensions

The providers installed in one compilation, in the order of their installation: the order in
which they are asked.
-/

namespace TwoPhase

/-- The installed providers of both kinds. -/
structure Extensions where
  declarations : List DeclarationProvider
  bodies : List BodyProvider

namespace Extensions

/-- No provider at all. -/
def none : Extensions := ⟨[], []⟩

instance : Inhabited Extensions := ⟨none⟩

/-- One provider of declarations. -/
def ofDeclarations (provider : DeclarationProvider) : Extensions := ⟨[provider], []⟩

/-- One provider of bodies. -/
def ofBodies (provider : BodyProvider) : Extensions := ⟨[], [provider]⟩

/-- Installs more providers behind those that are there. -/
def append (a b : Extensions) : Extensions :=
  ⟨a.declarations ++ b.declarations, a.bodies ++ b.bodies⟩

instance : Append Extensions := ⟨append⟩

/-- Whether nothing is installed. -/
def isEmpty (e : Extensions) : Bool := e.declarations.isEmpty && e.bodies.isEmpty

/-- How many providers of declarations and of bodies are installed. -/
def counts (e : Extensions) : Nat × Nat := (e.declarations.length, e.bodies.length)

/-- Takes out what was installed behind the given numbers of providers. -/
def truncate (e : Extensions) (counts : Nat × Nat) : Extensions :=
  ⟨e.declarations.take counts.1, e.bodies.take counts.2⟩

theorem counts_append (a b : Extensions) :
    (a ++ b).counts = (a.counts.1 + b.counts.1, a.counts.2 + b.counts.2) :=
  Prod.ext List.length_append List.length_append

/-- What was installed later can be taken out again. -/
theorem truncate_append (a b : Extensions) : (a ++ b).truncate a.counts = a := by
  show Extensions.mk ((a.declarations ++ b.declarations).take a.declarations.length)
    ((a.bodies ++ b.bodies).take a.bodies.length) = a
  rw [List.take_left, List.take_left]

end Extensions
end TwoPhase
