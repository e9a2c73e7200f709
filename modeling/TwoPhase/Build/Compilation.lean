import TwoPhase.Order.Distinct

/-!
# Compilations of a build

What a build knows about one compilation: the artifacts it depends on and the plugins it asks
the compiler to attach. Both are listed in the order in which they were first added; adding
one again changes nothing. One artifact in two scopes is two dependencies.
-/

namespace TwoPhase.Build

/-- Where an artifact is published. -/
structure Coordinates where
  group : String
  artifact : String
  version : String
deriving DecidableEq, Repr

/-- The three parts with colons between them. -/
def Coordinates.text (c : Coordinates) : String := s!"{c.group}:{c.artifact}:{c.version}"

/-- What a dependency is needed for. -/
inductive Scope where
  /-- To compile and to run. -/
  | implementation
  /-- To compile only. -/
  | compileOnly
  /-- To run only. -/
  | runtime
deriving DecidableEq, Repr

/-- A dependency on an artifact. -/
structure Dependency where
  coordinates : Coordinates
  scope : Scope
deriving DecidableEq, Repr

/-- One compilation of a build. -/
structure Compilation where
  name : String
  dependencies : List Dependency
  /-- The ids of the plugins to attach. -/
  requestedPlugins : List String
deriving DecidableEq, Repr

namespace Compilation

/-- The compilation without dependencies and plugins. -/
def start (name : String) : Compilation := ⟨name, [], []⟩

/-- Whether the compilation depends on an artifact with these coordinates, in this scope. -/
def hasDependency (c : Compilation) (dependency : Dependency) : Bool :=
  c.dependencies.any fun d =>
    d.coordinates == dependency.coordinates && d.scope == dependency.scope

/-- Adds a dependency; answers whether it is a new one. -/
def addDependency (c : Compilation) (dependency : Dependency) : Bool × Compilation :=
  if c.dependencies.contains dependency then (false, c)
  else (true, { c with dependencies := c.dependencies ++ [dependency] })

/-- Asks for a plugin. -/
def requestPlugin (c : Compilation) (id : String) : Compilation :=
  { c with requestedPlugins := Order.addNew c.requestedPlugins id }

end Compilation
end TwoPhase.Build
