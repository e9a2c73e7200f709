import TwoPhase.Machine.Run

/-!
# Computations of the machine

How a sequence of computations ends follows from how its parts end.  `bind_eq_some_iff` takes a
finished sequence apart.  `Raises` bounds the errors that a computation may stop with, and is
closed under sequencing, so that the errors of an instruction can be read off its parts.

## Main results

* `bind_eq_some_iff`, `bind_eq_ok_iff`, `bind_eq_error_iff` — a sequence that ended.
* `Raises.bind` — the errors of a sequence are those of its parts.
-/

namespace TwoPhase

namespace Eval

variable {α β : Type} {x : Eval α} {f : α → Eval β} {m m' : Machine} {e : RuntimeError}

/-! ## Sequences -/

theorem bind_of_ok {a : α} {next : Machine} (h : x m = some (.ok a, next)) :
    (x >>= f) m = f a next := by
  show Eval.bind x f m = _
  rw [Eval.bind, h]

theorem bind_of_error (h : x m = some (.error e, m')) :
    (x >>= f) m = some (.error e, m') := by
  show Eval.bind x f m = _
  rw [Eval.bind, h]

/-- What comes after sees only how the first part ends. -/
theorem bind_eq_bind {y : Eval α} (h : x m = y m) : (x >>= f) m = (y >>= f) m := by
  show Eval.bind x f m = Eval.bind y f m
  rw [Eval.bind, Eval.bind, h]

theorem bind_eq_some_iff {result : Except RuntimeError β} :
    (x >>= f) m = some (result, m') ↔
      (∃ e, x m = some (.error e, m') ∧ result = .error e) ∨
        ∃ a next, x m = some (.ok a, next) ∧ f a next = some (result, m') := by
  show Eval.bind x f m = _ ↔ _
  rw [Eval.bind]
  cases x m with
  | none => simp
  | some out =>
      obtain ⟨answer, next⟩ := out
      cases answer with
      | error e =>
          constructor
          · intro h
            cases h
            exact .inl ⟨e, rfl, rfl⟩
          · rintro (⟨_, h, rfl⟩ | ⟨_, _, h, _⟩)
            · cases h
              rfl
            · cases h
      | ok a =>
          constructor
          · intro h
            exact .inr ⟨a, next, rfl, h⟩
          · rintro (⟨_, h, _⟩ | ⟨_, _, h, hRest⟩)
            · cases h
            · cases h
              exact hRest

theorem bind_eq_ok_iff {b : β} :
    (x >>= f) m = some (.ok b, m') ↔
      ∃ a next, x m = some (.ok a, next) ∧ f a next = some (.ok b, m') := by
  rw [bind_eq_some_iff]
  constructor
  · rintro (⟨_, _, h⟩ | h)
    · cases h
    · exact h
  · exact .inr

theorem bind_eq_error_iff :
    (x >>= f) m = some (.error e, m') ↔ x m = some (.error e, m') ∨
      ∃ a next, x m = some (.ok a, next) ∧ f a next = some (.error e, m') := by
  rw [bind_eq_some_iff]
  constructor
  · rintro (⟨_, hX, h⟩ | h)
    · cases h
      exact .inl hX
    · exact .inr h
  · rintro (h | h)
    · exact .inl ⟨e, h, rfl⟩
    · exact .inr h

/-- Sequences may be regrouped, and steps that only hand on a value may be left out. -/
instance : LawfulMonad Eval := LawfulMonad.mk' Eval
  (by
    intro α x
    funext m
    show Eval.bind x (fun a => Eval.pure (id a)) m = x m
    rw [Eval.bind]
    rcases x m with _ | ⟨_ | _, _⟩ <;> rfl)
  (by
    intro α β a f
    rfl)
  (by
    intro α β γ x f g
    funext m
    show Eval.bind (Eval.bind x f) g m = Eval.bind x (fun a => Eval.bind (f a) g) m
    rw [Eval.bind, Eval.bind, Eval.bind]
    rcases x m with _ | ⟨_ | _, _⟩ <;> rfl)

theorem ofOption_eq_ok_iff {answer : Option α} {a : α} :
    ofOption e answer m = some (.ok a, m') ↔ answer = some a ∧ m' = m := by
  cases answer with
  | none => exact ⟨nofun, nofun⟩
  | some b =>
      constructor
      · intro h
        cases h
        exact ⟨rfl, rfl⟩
      · rintro ⟨h, rfl⟩
        cases h
        rfl

theorem ofExcept_eq_ok_iff {answer : Except RuntimeError α} {a : α} :
    ofExcept answer m = some (.ok a, m') ↔ answer = .ok a ∧ m' = m := by
  cases answer with
  | error e => exact ⟨nofun, nofun⟩
  | ok b =>
      constructor
      · intro h
        cases h
        exact ⟨rfl, rfl⟩
      · rintro ⟨h, rfl⟩
        cases h
        rfl

/-- A computation that runs one call deeper ended with the result of what it ran. -/
theorem nested_eq_some_iff {result : Except RuntimeError α} :
    nested x m = some (result, m') ↔ ∃ last,
      x { m with depth := m.depth + 1 } = some (result, last) ∧
        m' = { last with depth := last.depth - 1 } := by
  rw [nested]
  cases x { m with depth := m.depth + 1 } with
  | none => simp
  | some out =>
      obtain ⟨answer, last⟩ := out
      constructor
      · intro h
        cases h
        exact ⟨last, rfl, rfl⟩
      · rintro ⟨_, h, rfl⟩
        cases h
        rfl

/-! ## Errors -/

/-- Every error that the computation may stop with satisfies `P`. -/
def Raises (P : RuntimeError → Prop) (x : Eval α) : Prop :=
  ∀ m e m', x m = some (.error e, m') → P e

variable {P : RuntimeError → Prop}

theorem Raises.pure (a : α) : Raises P (pure a : Eval α) := by
  intro m e m' h
  cases h

theorem Raises.fail (h : P e) : Raises P (fail e : Eval α) := by
  intro m e' m' hFail
  cases hFail
  exact h

theorem Raises.bind (hX : Raises P x) (hF : ∀ a, Raises P (f a)) : Raises P (x >>= f) := by
  intro m e m' h
  rcases bind_eq_error_iff.1 h with hFirst | ⟨a, next, _, hRest⟩
  · exact hX m e m' hFirst
  · exact hF a next e m' hRest

theorem Raises.ofOption (h : P e) (answer : Option α) : Raises P (ofOption e answer) := by
  cases answer with
  | none => exact .fail h
  | some a => exact .pure a

theorem Raises.ofExcept {answer : Except RuntimeError α}
    (h : ∀ {e}, answer = .error e → P e) : Raises P (ofExcept answer) := by
  cases answer with
  | error e => exact .fail (h rfl)
  | ok a => exact .pure a

theorem Raises.objectAt {ref : ObjectRef} (h : P (.typeError (.dangling ref))) :
    Raises P (objectAt ref) := by
  intro m e m' hRun
  rw [Eval.objectAt] at hRun
  split at hRun
  · cases hRun
  · cases hRun
    exact h

theorem Raises.writeSlots {ref : ObjectRef} {values : List (Nat × Value)}
    (hDangling : P (.typeError (.dangling ref)))
    (hSlot : ∀ index, P (.typeError (.noSlot index))) : Raises P (writeSlots ref values) := by
  intro m e m' hRun
  rw [Eval.writeSlots] at hRun
  split at hRun
  · cases hRun
    exact hDangling
  · split at hRun
    rename_i slots hPut
    split at hRun
    · cases hRun
    · cases hRun
      exact hSlot _

end Eval

namespace Frame

variable {frame : Frame} {e : RuntimeError}

theorem error_of_read {register : Ir.Register} (h : frame.read register = .error e) :
    e = .undefinedRegister register frame.callable := by
  rw [read] at h
  split at h
  · cases h
  · cases h
    rfl

theorem error_of_readAll {registers : List Ir.Register}
    (h : registers.mapM frame.read = .error e) :
    ∃ register ∈ registers, e = .undefinedRegister register frame.callable := by
  induction registers with
  | nil => cases h
  | cons register rest ih =>
      rw [List.mapM_cons] at h
      cases hFirst : frame.read register with
      | error e' =>
          rw [hFirst] at h
          cases h
          exact ⟨register, List.mem_cons_self, error_of_read hFirst⟩
      | ok value =>
          cases hRest : rest.mapM frame.read with
          | error e' =>
              rw [hFirst, hRest] at h
              cases h
              obtain ⟨other, hMem, hEq⟩ := ih hRest
              exact ⟨other, List.mem_cons_of_mem register hMem, hEq⟩
          | ok values => rw [hFirst, hRest] at h; cases h

theorem error_of_readObject {register : Ir.Register} (h : frame.readObject register = .error e) :
    e = .undefinedRegister register frame.callable ∨
      ∃ found, e = .typeError (.notAnObject register found) := by
  rw [readObject] at h
  split at h
  · cases h
  · cases h
    exact .inr ⟨_, rfl⟩
  · rename_i e' hRead
    cases h
    exact .inl (error_of_read hRead)

end Frame
end TwoPhase
