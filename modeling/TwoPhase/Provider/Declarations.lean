import TwoPhase.Symbol.Table

/-!
# Declaration providers

The half of an extension that declares symbols. It is asked by need: for a class when the class
is first requested, and for the callables of one name when that member is first requested. A
question outside what the provider knows gets no answer; another provider may know.

A provider may give out type numbers while it answers, so the questions that declare something
take the type table and hand it back.
-/

namespace TwoPhase

/-- The questions that a provider of declarations answers. -/
structure DeclarationProvider where
  /-- The symbols it advertises. -/
  topLevel : List Descriptor
  /-- Whether it may declare anything in a package or inside it. -/
  hasNamespace : Path → Bool
  /-- Declares a class. -/
  declareClass : ClassId → TypeTable → Option ClassDecl × TypeTable
  /-- The names of the members that a class may have. -/
  memberNames : ClassDecl → List Name
  /-- Declares the callables with the given identifier on a class. -/
  declareMembers : CallableId → ClassDecl → TypeTable → List CallableDecl × TypeTable

end TwoPhase
