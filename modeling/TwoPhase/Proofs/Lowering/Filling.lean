import Mathlib.Data.List.Forall2
import TwoPhase.Lowering
import TwoPhase.Proofs.Symbol.Definition

/-!
# Filling the generated callables

Lowering asks for one body per generated callable, and the first callable that cannot be filled
ends it.  What it means for a callable to be filled (`Filled`) or to fail (`Fails`) is said here
about that callable alone, without the order in which a lowering looks at things.

## Strategy

A single callable is settled by the cases of `fillBody`.  The list of all callables is settled by
induction: a callable from source drops out, a generated one either contributes its body to the
front of the rest or ends the walk with its error.

## Main results

* `fillBody_eq_ok_iff`, `fillBody_eq_error_iff` — one callable.
* `fillBodies_eq_ok_iff`, `fillBodies_eq_error_iff` — all of them, in order.
* `lower_fills` — what a lowering yields, when it succeeds, and which failure it reports.
-/

namespace TwoPhase

/-- Related partners exist for a whole list when they exist for each of its items. -/
theorem exists_forall₂_iff {α β : Type} {R : α → β → Prop} {items : List α} :
    (∃ partners, List.Forall₂ R items partners) ↔ ∀ item ∈ items, ∃ partner, R item partner := by
  induction items with
  | nil => simp
  | cons item rest ih =>
      rw [List.forall_mem_cons, ← ih]
      constructor
      · rintro ⟨_, hFirst | ⟨hFirst, hRest⟩⟩
        exact ⟨⟨_, hFirst⟩, _, hRest⟩
      · rintro ⟨⟨partner, hFirst⟩, partners, hRest⟩
        exact ⟨partner :: partners, .cons hFirst hRest⟩

/-- The generated callables, in the order of definition. -/
def SymbolTable.generated (t : SymbolTable) : List CallableDecl :=
  t.allCallables.filter (·.origin ≠ .source)

namespace BodyProvider

/-- The first provider of a list that is responsible for a key. -/
structure FirstResponsible (providers : List BodyProvider) (key : Key) (p : BodyProvider) :
    Prop where
  responsible : p.responsible (some key) = true
  first : ∃ before after, providers = before ++ p :: after ∧
    ∀ q ∈ before, q.responsible (some key) = false

theorem find?_responsible_iff {providers : List BodyProvider} {key : Key} {p : BodyProvider} :
    providers.find? (·.responsible (some key)) = some p ↔ FirstResponsible providers key p := by
  rw [List.find?_eq_some_iff_append]
  constructor
  · rintro ⟨hResponsible, hFirst⟩
    exact ⟨hResponsible, by simpa using hFirst⟩
  · rintro ⟨hResponsible, hFirst⟩
    exact ⟨hResponsible, by simpa using hFirst⟩

/-- The answer for a callable comes from the question for its kind. -/
inductive Answers (p : BodyProvider) (callable : CallableDecl) (key : Key) (view : Resolved) :
    Except SynthesisError Ir.Body → Prop
  | constructor (hKind : callable.kind = .constructor) :
      Answers p callable key view (p.constructorBody callable key view)
  | function (hKind : callable.kind = .function) :
      Answers p callable key view (p.functionBody callable key view)

theorem answers_iff {p : BodyProvider} {callable : CallableDecl} {key : Key} {view : Resolved}
    {answer : Except SynthesisError Ir.Body} :
    p.Answers callable key view answer ↔ p.body callable key view = answer := by
  rw [BodyProvider.body, CallableDecl.isConstructor]
  constructor
  · intro h
    cases h with
    | constructor hKind => simp [hKind]
    | function hKind => simp [hKind]
  · rintro rfl
    cases hKind : callable.kind with
    | constructor => exact .constructor hKind
    | function => exact .function hKind

end BodyProvider

/-! ## Layouts -/

namespace SymbolTable

variable {layout : Ir.ClassLayout}

/-- A fold whose steps keep something about a layout keeps it too. -/
theorem foldl_keeps {α β : Type} {add : Ir.ClassLayout → α → Ir.ClassLayout}
    {V : Ir.ClassLayout → β} (hAdd : ∀ layout item, V (add layout item) = V layout)
    (items : List α) : V (items.foldl add layout) = V layout := by
  induction items generalizing layout with
  | nil => rfl
  | cons item rest ih => rw [List.foldl_cons, ih, hAdd]

theorem addSlots_id (decl : ClassDecl) : (addSlots layout decl).id = layout.id := by
  refine foldl_keeps (V := Ir.ClassLayout.id) ?_ decl.fields
  intro layout field
  rfl

theorem addMember_id (member : CallableDecl) : (addMember layout member).id = layout.id := by
  rw [addMember]
  split
  · rfl
  · rfl

theorem layoutOf_id (t : SymbolTable) (decl : ClassDecl) :
    (t.layoutOf decl).id = decl.id := by
  rw [layoutOf, foldl_keeps fun _ => addMember_id]
  exact foldl_keeps (fun _ => addSlots_id) _

theorem map_layoutOf_id (t : SymbolTable) :
    (t.classes.map t.layoutOf).map Ir.ClassLayout.id = t.classes.map ClassDecl.id := by
  rw [List.map_map]
  exact List.map_congr_left fun decl _ => t.layoutOf_id decl

end SymbolTable

namespace Resolver

open BodyProvider (FirstResponsible find?_responsible_iff answers_iff)

variable {providers : List BodyProvider} {view : Resolved} {callable : CallableDecl} {key : Key}
  {body : Ir.Body} {e : CompileError}

/-! ## One callable -/

/-- The body with which a generated callable is filled. -/
structure Filled (providers : List BodyProvider) (view : Resolved) (callable : CallableDecl)
    (body : Ir.Body) : Prop where
  supplied : ∃ key p, callable.origin = .generated key ∧ FirstResponsible providers key p ∧
    p.Answers callable key view (.ok body)
  meant : body.callable = callable.id
  sound : body.check = .ok ()

/-- The reasons why a generated callable cannot be filled. -/
inductive Fails (providers : List BodyProvider) (view : Resolved) (callable : CallableDecl) :
    CompileError → Prop
  | missing {key : Key} (hKey : callable.origin = .generated key)
      (hNone : ∀ p ∈ providers, p.responsible (some key) = false) :
      Fails providers view callable (.missingBody callable.id key)
  | declined {key : Key} {p : BodyProvider} {reason : SynthesisError}
      (hKey : callable.origin = .generated key) (hFirst : FirstResponsible providers key p)
      (hAnswer : p.Answers callable key view (.error reason)) :
      Fails providers view callable (.synthesis reason)
  | misplaced {key : Key} {p : BodyProvider} {body : Ir.Body}
      (hKey : callable.origin = .generated key) (hFirst : FirstResponsible providers key p)
      (hAnswer : p.Answers callable key view (.ok body)) (hOther : body.callable ≠ callable.id) :
      Fails providers view callable (.invalidBody callable.id (.implements body.callable))
  | defective {key : Key} {p : BodyProvider} {body : Ir.Body} {defect : Ir.Defect}
      (hKey : callable.origin = .generated key) (hFirst : FirstResponsible providers key p)
      (hAnswer : p.Answers callable key view (.ok body)) (hMeant : body.callable = callable.id)
      (hDefect : body.check = .error defect) :
      Fails providers view callable (.invalidBody callable.id (.defect defect))

/-- The first responsible provider has the only say. -/
theorem fillBody_of_answer {p : BodyProvider} {answer : Except SynthesisError Ir.Body}
    (hFirst : FirstResponsible providers key p) (hAnswer : p.Answers callable key view answer) :
    fillBody providers view callable key =
      (answer.mapError CompileError.synthesis).bind (checkBody callable) := by
  rw [fillBody, find?_responsible_iff.2 hFirst]
  simp only [answers_iff.1 hAnswer]
  cases answer with
  | error reason => rfl
  | ok body => rfl

theorem checkBody_eq_ok_iff {answer : Ir.Body} :
    checkBody callable answer = .ok body ↔
      answer = body ∧ body.callable = callable.id ∧ body.check = .ok () := by
  rw [checkBody]
  by_cases hMeant : answer.callable = callable.id
  · rw [if_neg (not_not_intro hMeant)]
    cases hCheck : answer.check with
    | error defect =>
        refine ⟨nofun, ?_⟩
        rintro ⟨rfl, _, hSound⟩
        cases hCheck.symm.trans hSound
    | ok =>
        constructor
        · intro h
          cases h
          exact ⟨rfl, hMeant, hCheck⟩
        · rintro ⟨rfl, _⟩
          rfl
  · rw [if_pos hMeant]
    refine ⟨nofun, ?_⟩
    rintro ⟨rfl, hEq, _⟩
    exact absurd hEq hMeant

/-- A generated callable is filled with the body that is accepted for it. -/
theorem fillBody_eq_ok_iff (hKey : callable.origin = .generated key) :
    fillBody providers view callable key = .ok body ↔ Filled providers view callable body := by
  constructor
  · intro h
    rw [fillBody] at h
    split at h
    · cases h
    · rename_i p hFind
      split at h
      · cases h
      · rename_i answer hAnswer
        obtain ⟨rfl, hMeant, hSound⟩ := checkBody_eq_ok_iff.1 h
        exact ⟨⟨key, p, hKey, find?_responsible_iff.1 hFind, answers_iff.2 hAnswer⟩, hMeant,
          hSound⟩
  · rintro ⟨⟨key', p, hKey', hFirst, hAnswer⟩, hMeant, hSound⟩
    cases hKey.symm.trans hKey'
    rw [fillBody_of_answer hFirst hAnswer]
    exact checkBody_eq_ok_iff.2 ⟨rfl, hMeant, hSound⟩

/-- Otherwise the error names the first thing that is wrong. -/
theorem fillBody_eq_error_iff (hKey : callable.origin = .generated key) :
    fillBody providers view callable key = .error e ↔ Fails providers view callable e := by
  constructor
  · intro h
    rw [fillBody] at h
    split at h
    · rename_i hNone
      cases h
      refine .missing hKey fun p hp => ?_
      simpa using List.find?_eq_none.1 hNone p hp
    · rename_i p hFind
      have hFirst := find?_responsible_iff.1 hFind
      split at h
      · rename_i reason hAnswer
        cases h
        exact .declined hKey hFirst (answers_iff.2 hAnswer)
      · rename_i answer hAnswer
        rw [checkBody] at h
        by_cases hMeant : answer.callable = callable.id
        · rw [if_neg (not_not_intro hMeant)] at h
          cases hCheck : answer.check with
          | ok => rw [hCheck] at h; cases h
          | error defect =>
              rw [hCheck] at h
              cases h
              exact .defective hKey hFirst (answers_iff.2 hAnswer) hMeant hCheck
        · rw [if_pos hMeant] at h
          cases h
          exact .misplaced hKey hFirst (answers_iff.2 hAnswer) hMeant
  · intro h
    cases h with
    | missing hKey' hNone =>
        cases hKey.symm.trans hKey'
        have hFind : providers.find? (·.responsible (some key)) = none := by
          simpa using hNone
        rw [fillBody, hFind]
    | declined hKey' hFirst hAnswer =>
        cases hKey.symm.trans hKey'
        rw [fillBody_of_answer hFirst hAnswer]
        rfl
    | misplaced hKey' hFirst hAnswer hOther =>
        cases hKey.symm.trans hKey'
        rw [fillBody_of_answer hFirst hAnswer]
        exact if_pos hOther
    | defective hKey' hFirst hAnswer hMeant hDefect =>
        cases hKey.symm.trans hKey'
        rw [fillBody_of_answer hFirst hAnswer]
        change checkBody callable _ = _
        rw [checkBody, if_neg (not_not_intro hMeant), hDefect]

/-! ## All callables -/

variable {rest : List CallableDecl} {bodies : List Ir.Body}

theorem fillBodies_cons_source (hSource : callable.origin = .source) :
    fillBodies providers view (callable :: rest) = fillBodies providers view rest := by
  rw [fillBodies, hSource]
  rfl

theorem fillBodies_cons_generated (hKey : callable.origin = .generated key) :
    fillBodies providers view (callable :: rest) =
      (do
        let body ← fillBody providers view callable key
        let bodies ← fillBodies providers view rest
        return body :: bodies) := by
  rw [fillBodies, hKey]
  rfl

/-- Success gives one body for every generated callable, in their order. -/
theorem fillBodies_eq_ok_iff :
    ∀ (callables : List CallableDecl) {bodies : List Ir.Body},
      fillBodies providers view callables = .ok bodies ↔
        List.Forall₂ (Filled providers view) (callables.filter (·.origin ≠ .source)) bodies := by
  intro callables
  induction callables with
  | nil =>
      intro bodies
      rw [List.filter_nil, List.forall₂_nil_left_iff]
      constructor
      · intro h
        cases h
        rfl
      · rintro rfl
        rfl
  | cons callable rest ih =>
      intro bodies
      cases hOrigin : callable.origin with
      | source =>
          rw [fillBodies_cons_source hOrigin, ih, List.filter_cons_of_neg (by simp [hOrigin])]
      | generated key =>
          rw [fillBodies_cons_generated hOrigin, List.filter_cons_of_pos (by simp [hOrigin]),
            List.forall₂_cons_left_iff]
          constructor
          · intro h
            cases hFirst : fillBody providers view callable key with
            | error e => rw [hFirst] at h; cases h
            | ok body =>
                cases hRest : fillBodies providers view rest with
                | error e => rw [hFirst, hRest] at h; cases h
                | ok others =>
                    rw [hFirst, hRest] at h
                    cases h
                    exact ⟨body, others, (fillBody_eq_ok_iff hOrigin).1 hFirst, ih.1 hRest, rfl⟩
          · rintro ⟨body, others, hFirst, hRest, rfl⟩
            rw [(fillBody_eq_ok_iff hOrigin).2 hFirst, ih.2 hRest]
            rfl

/-- The failure of the first callable of a list that cannot be filled. -/
def FirstFailure (providers : List BodyProvider) (view : Resolved)
    (callables : List CallableDecl) (e : CompileError) : Prop :=
  ∃ before callable after, callables = before ++ callable :: after ∧
    (∀ earlier ∈ before, ∃ body, Filled providers view earlier body) ∧
    Fails providers view callable e

/-- A callable that is filled does not fail. -/
theorem Filled.not_fails (hFilled : Filled providers view callable body) :
    ¬ Fails providers view callable e := by
  intro hFails
  obtain ⟨key, _, hKey, _⟩ := hFilled.supplied
  have hOk := (fillBody_eq_ok_iff hKey).2 hFilled
  cases hOk.symm.trans ((fillBody_eq_error_iff hKey).2 hFails)

theorem FirstFailure.cons_iff :
    FirstFailure providers view (callable :: rest) e ↔
      Fails providers view callable e ∨
        (∃ body, Filled providers view callable body) ∧ FirstFailure providers view rest e := by
  constructor
  · rintro ⟨before, failing, after, hEq, hBefore, hFails⟩
    cases before with
    | nil =>
        cases hEq
        exact .inl hFails
    | cons earlier before =>
        cases hEq
        exact .inr ⟨hBefore _ List.mem_cons_self,
          ⟨before, failing, after, rfl, fun c hc => hBefore c (List.mem_cons_of_mem _ hc),
            hFails⟩⟩
  · rintro (hFails | ⟨hFilled, before, failing, after, rfl, hBefore, hFails⟩)
    · exact ⟨[], callable, rest, rfl, nofun, hFails⟩
    · refine ⟨callable :: before, failing, after, rfl, fun c hc => ?_, hFails⟩
      rcases List.mem_cons.1 hc with rfl | hc
      · exact hFilled
      · exact hBefore c hc

/-- Failure is that of the first generated callable that cannot be filled. -/
theorem fillBodies_eq_error_iff :
    ∀ (callables : List CallableDecl),
      fillBodies providers view callables = .error e ↔
        FirstFailure providers view (callables.filter (·.origin ≠ .source)) e := by
  intro callables
  induction callables with
  | nil =>
      refine ⟨nofun, ?_⟩
      rintro ⟨before, failing, after, hEq, _⟩
      cases before <;> cases hEq
  | cons callable rest ih =>
      cases hOrigin : callable.origin with
      | source =>
          rw [fillBodies_cons_source hOrigin, ih, List.filter_cons_of_neg (by simp [hOrigin])]
      | generated key =>
          rw [fillBodies_cons_generated hOrigin, List.filter_cons_of_pos (by simp [hOrigin]),
            FirstFailure.cons_iff, ← ih, ← fillBody_eq_error_iff hOrigin]
          simp only [← fillBody_eq_ok_iff hOrigin]
          cases fillBody providers view callable key with
          | error e' => simp [bind, Except.bind]
          | ok body =>
              cases fillBodies providers view rest with
              | error e' => simp [bind, Except.bind]
              | ok others => simp [bind, Except.bind, pure, Except.pure]

/-! ## Lowering -/

/-- The program that the declarations of a resolver make up. -/
structure IsLowering (r : Resolver) (program : Program) : Prop where
  types : program.types = r.types
  symbols : program.symbols = r.symbols
  name : program.module.name = r.name
  /-- One body for every generated callable, and no other body. -/
  bodies : List.Forall₂ (Filled r.extensions.bodies ⟨r.types, r.symbols⟩) r.symbols.generated
    program.module.bodies
  layouts : program.module.classes = r.symbols.classes.map r.symbols.layoutOf
  /-- One layout for every class, in the order of definition. -/
  layout_ids : program.module.classes.map Ir.ClassLayout.id = r.symbols.classes.map ClassDecl.id
  layouts_nodup : (program.module.classes.map Ir.ClassLayout.id).Nodup

theorem lower_eq_ok_iff {r : Resolver} {program : Program} :
    r.lower = .ok program ↔ IsLowering r program := by
  constructor
  · intro h
    rw [lower] at h
    cases hBodies : fillBodies r.extensions.bodies ⟨r.types, r.symbols⟩
        r.symbols.allCallables with
    | error e => rw [hBodies] at h; cases h
    | ok bodies =>
        rw [hBodies] at h
        cases h
        obtain ⟨hName, hAdded, hLayouts⟩ :=
          Ir.Module.ofLists_holds r.name (r.symbols.classes.map r.symbols.layoutOf) bodies
        have hIds := (congrArg (List.map Ir.ClassLayout.id) hLayouts).trans
          r.symbols.map_layoutOf_id
        exact {
          types := rfl
          symbols := rfl
          name := hName
          bodies := hAdded.symm ▸ (fillBodies_eq_ok_iff _).1 hBodies
          layouts := hLayouts
          layout_ids := hIds
          layouts_nodup := hIds ▸ r.symbols.classes_nodup }
  · intro h
    obtain ⟨types, symbols, module⟩ := program
    obtain ⟨rfl, rfl, hName, hBodies, hLayouts, _, _⟩ := h
    obtain ⟨hName', hAdded, hLayouts'⟩ := Ir.Module.ofLists_holds r.name
      (r.symbols.classes.map r.symbols.layoutOf) module.bodies
    have hModule := Ir.Module.eq_of_lists (hName'.trans hName.symm) hAdded
      (hLayouts'.trans hLayouts.symm)
    rw [lower, (fillBodies_eq_ok_iff _).2 hBodies]
    exact congrArg (fun m => Except.ok (Program.mk r.types r.symbols m)) hModule

theorem lower_eq_error_iff {r : Resolver} :
    r.lower = .error e ↔
      FirstFailure r.extensions.bodies ⟨r.types, r.symbols⟩ r.symbols.generated e := by
  rw [SymbolTable.generated, ← fillBodies_eq_error_iff, lower]
  cases fillBodies r.extensions.bodies ⟨r.types, r.symbols⟩ r.symbols.allCallables with
  | error e' => simp [bind, Except.bind]
  | ok bodies => simp [bind, Except.bind, pure, Except.pure]

/-- **A lowering fills exactly the generated callables.**  It succeeds if every one of them can
be filled, with one body for each in the order of definition and one layout for each class;
otherwise it reports the failure of the first that cannot be filled. -/
theorem lower_fills (r : Resolver) :
    ((∃ program, r.lower = .ok program) ↔ ∀ c ∈ r.symbols.generated,
      ∃ body, Filled r.extensions.bodies ⟨r.types, r.symbols⟩ c body) ∧
    (∀ program, r.lower = .ok program ↔ IsLowering r program) ∧
    ∀ e, r.lower = .error e ↔
      FirstFailure r.extensions.bodies ⟨r.types, r.symbols⟩ r.symbols.generated e := by
  refine ⟨⟨?_, ?_⟩, fun program => lower_eq_ok_iff, fun e => lower_eq_error_iff⟩
  · rintro ⟨program, hOk⟩
    exact exists_forall₂_iff.1 ⟨_, (lower_eq_ok_iff.1 hOk).bodies⟩
  · intro hAll
    cases hLower : r.lower with
    | ok program => exact ⟨program, rfl⟩
    | error e =>
        obtain ⟨before, c, after, hEq, _, hFails⟩ := lower_eq_error_iff.1 hLower
        obtain ⟨body, hFilled⟩ := hAll c (by simp [hEq])
        exact absurd hFails hFilled.not_fails

end Resolver
end TwoPhase
