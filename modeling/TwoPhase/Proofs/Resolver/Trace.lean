import TwoPhase.Proofs.Resolver.Step

/-!
# What a history has resolved

A resolver that has been asked many questions remembers answers, not the questions.  A trace keeps
the questions that were answered with what was asked for, a class or the members of a class with
one name, in the order in which they were asked.  Failed questions leave no mark on it, and the
questions inside a resolution of everything are questions like any other.

## Main results

* `exists_trace` — any number of questions can be traced.
* `exists_trace_of_reachable` — so every reachable resolver has a trace.
-/

namespace TwoPhase.Resolver

/-- Questions asked one after the other, with what was found. -/
inductive Trace (first : Resolver) : List Descriptor → Resolver → Prop
  | nil : Trace first [] first
  | foundClass {log : List Descriptor} {r r' : Resolver} {id : ClassId} {decl : ClassDecl}
      (hTrace : Trace first log r) (hAnswer : r.resolveClass id = (some decl, r')) :
      Trace first (log ++ [.classLike id]) r'
  | noClass {log : List Descriptor} {r r' : Resolver} {id : ClassId}
      (hTrace : Trace first log r) (hAnswer : r.resolveClass id = (none, r')) :
      Trace first log r'
  | foundMember {log : List Descriptor} {r r' : Resolver} {owner : ClassId} {name : Name}
      {members : List CallableDecl} (hTrace : Trace first log r)
      (hAnswer : r.resolveMember owner name = (.ok members, r')) :
      Trace first (log ++ [.callable (.member owner name)]) r'
  | noMember {log : List Descriptor} {r r' : Resolver} {owner : ClassId} {name : Name}
      {e : CompileError} (hTrace : Trace first log r)
      (hAnswer : r.resolveMember owner name = (.error e, r')) : Trace first log r'

variable {first r r' : Resolver} {log : List Descriptor}

/-- What is traced is a sequence of questions. -/
theorem Trace.steps (hTrace : Trace first log r) : Steps first r := by
  have hClass : ∀ {r r' : Resolver} {id answer}, r.resolveClass id = (answer, r') → Step r r' := by
    intro r r' id answer hAnswer
    have hStep : Step r (r.resolveClass id).2 := .resolveClass id
    rw [hAnswer] at hStep
    exact hStep
  have hMember : ∀ {r r' : Resolver} {owner name answer},
      r.resolveMember owner name = (answer, r') → Step r r' := by
    intro r r' owner name answer hAnswer
    have hStep : Step r (r.resolveMember owner name).2 := .resolveMember owner name
    rw [hAnswer] at hStep
    exact hStep
  induction hTrace with
  | nil => exact .refl
  | foundClass _ hAnswer ih => exact .tail ih (hClass hAnswer)
  | noClass _ hAnswer ih => exact .tail ih (hClass hAnswer)
  | foundMember _ hAnswer ih => exact .tail ih (hMember hAnswer)
  | noMember _ hAnswer ih => exact .tail ih (hMember hAnswer)

/-- One question more, whatever its answer. -/
theorem Trace.exists_step (hTrace : Trace first log r) (hStep : Step r r') :
    ∃ log', Trace first log' r' := by
  cases hStep with
  | resolveClass id =>
      cases hAnswer : (r.resolveClass id).1 with
      | none => exact ⟨log, .noClass hTrace (Prod.ext hAnswer rfl)⟩
      | some decl => exact ⟨_, .foundClass hTrace (Prod.ext hAnswer rfl)⟩
  | resolveMember owner name =>
      cases hAnswer : (r.resolveMember owner name).1 with
      | error e => exact ⟨log, .noMember hTrace (Prod.ext hAnswer rfl)⟩
      | ok members => exact ⟨_, .foundMember hTrace (Prod.ext hAnswer rfl)⟩

/-- Any number of questions can be traced. -/
theorem exists_trace (hSteps : Steps first r) : ∃ log, Trace first log r := by
  induction hSteps with
  | refl => exact ⟨[], .nil⟩
  | tail _ hLast ih =>
      obtain ⟨log, hTrace⟩ := ih
      exact hTrace.exists_step hLast

theorem exists_trace_of_reachable {name : String} {extensions : Extensions}
    (hReachable : Reachable name extensions r) : ∃ log, Trace (start name extensions) log r :=
  exists_trace hReachable.steps

end TwoPhase.Resolver
