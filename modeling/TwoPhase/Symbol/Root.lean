import TwoPhase.Symbol.Table

/-!
# The root class

Every class extends `synth.Any`, directly or through its superclass. The root class is built
in: it has no fields, and one constructor without parameters that has no body of its own.
-/

namespace TwoPhase

/-- The class at the top of every hierarchy. -/
def rootClass : ClassId := ⟨⟨[⟨"synth"⟩]⟩, ⟨"Any"⟩⟩

/-- The superclass of a class: the root class unless another one is named. -/
def ClassDecl.superclass (decl : ClassDecl) : ClassId := decl.supertype.getD rootClass

/-- The declaration of the root class. -/
def rootDecl : ClassDecl := ⟨rootClass, none, [], .source, .synthetic⟩

/-- The declaration of the root class's constructor, given the class's type. -/
def rootConstructor (type : TypeId) : CallableDecl :=
  ⟨.constructorOf rootClass, .constructor, [], type, .source, .synthetic⟩

end TwoPhase
