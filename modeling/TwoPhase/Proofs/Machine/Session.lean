import TwoPhase.Proofs.Machine.Eval

/-!
# Calls, requests and sessions

What one call can do, and what one request from outside can do, is listed here once.  A machine
serves requests one after the other: it goes on after a request that failed, with whatever that
request has left behind, and a request that never comes to an end is the last one.

## Main results

* `invocation_of_invoke` — the ways in which a call ends.
* `service_of_serve` — the ways in which a request ends.
* `Session.forall_outcomes` — what is true of every single outcome is true along a session.
-/

namespace TwoPhase

open Ir (Body ClassLayout)

/-- What a machine is asked for from outside. -/
inductive Request where
  | construct (id : ClassId)
  | call (ref : ObjectRef) (name : Name) (args : List Value)

namespace Program

variable {p : Program} {fuel : Nat} {m m' : Machine}

/-! ## Calls -/

/-- How a call ends that is made with this much fuel left. -/
inductive Invocation (p : Program) (fuel : Nat) (callable : CallableId) (args : List Value)
    (m : Machine) : Except RuntimeError Value → Machine → Prop
  | overflow (hDepth : Machine.maxDepth ≤ m.depth) :
      Invocation p fuel callable args m (.error .stackOverflow) m
  | root {next : Machine} (hDepth : m.depth < Machine.maxDepth)
      (hAnnounce : announce callable m = some (.ok (), next))
      (hOwn : isRootConstructor callable = true) :
      Invocation p fuel callable args m (.ok .null) next
  | absent {next : Machine} (hDepth : m.depth < Machine.maxDepth)
      (hAnnounce : announce callable m = some (.ok (), next))
      (hOwn : isRootConstructor callable = false) (hBody : p.module.body? callable = none) :
      Invocation p fuel callable args m (.error (.noBody callable)) next
  | count {next : Machine} {body : Body} (hDepth : m.depth < Machine.maxDepth)
      (hAnnounce : announce callable m = some (.ok (), next))
      (hOwn : isRootConstructor callable = false) (hBody : p.module.body? callable = some body)
      (hCount : args.length ≠ body.params.length) :
      Invocation p fuel callable args m
        (.error (.typeError (.argumentCount body.callable body.params.length args.length))) next
  | run {next last : Machine} {body : Body} {result : Except RuntimeError Value}
      (hDepth : m.depth < Machine.maxDepth)
      (hAnnounce : announce callable m = some (.ok (), next))
      (hOwn : isRootConstructor callable = false) (hBody : p.module.body? callable = some body)
      (hCount : args.length = body.params.length)
      (hRun : p.runFrom (p.invoke fuel) body fuel body.entry (.enter body args)
        { next with depth := next.depth + 1 } = some (result, last)) :
      Invocation p fuel callable args m result { last with depth := last.depth - 1 }

/-- Announcing a call always succeeds. -/
theorem exists_announce (callable : CallableId) (m : Machine) :
    ∃ next, announce callable m = some (.ok (), next) := by
  rw [announce]
  split
  · exact ⟨_, rfl⟩
  · exact ⟨m, rfl⟩

theorem invocation_of_invoke {callable : CallableId} {args : List Value}
    {result : Except RuntimeError Value}
    (h : p.invoke (fuel + 1) callable args m = some (result, m')) :
    Invocation p fuel callable args m result m' := by
  obtain ⟨next, hAnnounce⟩ := exists_announce callable m
  have hRead : Eval.depth m = some (.ok m.depth, m) := rfl
  rw [invoke, Eval.bind_of_ok hRead] at h
  by_cases hDepth : Machine.maxDepth ≤ m.depth
  · rw [if_pos hDepth] at h
    cases h
    exact .overflow hDepth
  · rw [if_neg hDepth, Eval.bind_of_ok hAnnounce] at h
    have hBelow : m.depth < Machine.maxDepth := by omega
    cases hOwn : isRootConstructor callable with
    | true =>
        rw [if_pos hOwn] at h
        cases h
        exact .root hBelow hAnnounce hOwn
    | false =>
        rw [if_neg (by simp [hOwn])] at h
        cases hBody : p.module.body? callable with
        | none =>
            rw [hBody] at h
            cases h
            exact .absent hBelow hAnnounce hOwn hBody
        | some body =>
            rw [hBody] at h
            obtain ⟨last, hNested, rfl⟩ := Eval.nested_eq_some_iff.1 h
            rw [runBody] at hNested
            by_cases hCount : args.length = body.params.length
            · rw [if_neg (not_not_intro hCount)] at hNested
              exact .run hBelow hAnnounce hOwn hBody hCount hNested
            · rw [if_pos hCount] at hNested
              cases hNested
              exact .count hBelow hAnnounce hOwn hBody hCount

/-! ## Requests -/

/-- Serves a request.  The answer to a construction is the new object. -/
def serve (p : Program) (fuel : Nat) : Request → Eval Value
  | .construct id => do return .object (← p.construct fuel id)
  | .call ref name args => p.call fuel ref name args

/-- The machine with a fresh object of a class, before its constructor has run. -/
def withFresh (m : Machine) (layout : ClassLayout) (id : ClassId) : Machine :=
  { m with heap := m.heap.push ⟨id, Array.replicate layout.slots.size .null⟩ }

/-- How a request ends. -/
inductive Service (p : Program) (fuel : Nat) (m : Machine) :
    Request → Except RuntimeError Value → Machine → Prop
  | unknown {id : ClassId} (hLayout : p.module.class? id = none) :
      Service p fuel m (.construct id) (.error (.unknownClass id)) m
  | bare {id : ClassId} {layout : ClassLayout} (hLayout : p.module.class? id = some layout)
      (hConstructor : layout.constructor = none) :
      Service p fuel m (.construct id) (.ok (.object ⟨m.heap.size⟩)) (withFresh m layout id)
  | constructed {id : ClassId} {layout : ClassLayout} {constructor : CallableId} {value : Value}
      {last : Machine} (hLayout : p.module.class? id = some layout)
      (hConstructor : layout.constructor = some constructor)
      (hInvoke : p.invoke fuel constructor [.object ⟨m.heap.size⟩] (withFresh m layout id) =
        some (.ok value, last)) :
      Service p fuel m (.construct id) (.ok (.object ⟨m.heap.size⟩)) last
  | abandoned {id : ClassId} {layout : ClassLayout} {constructor : CallableId}
      {e : RuntimeError} {last : Machine} (hLayout : p.module.class? id = some layout)
      (hConstructor : layout.constructor = some constructor)
      (hInvoke : p.invoke fuel constructor [.object ⟨m.heap.size⟩] (withFresh m layout id) =
        some (.error e, last)) :
      Service p fuel m (.construct id) (.error e) last
  | dangling {ref : ObjectRef} {name : Name} {args : List Value}
      (hObject : m.heap[ref.index]? = none) :
      Service p fuel m (.call ref name args) (.error (.typeError (.dangling ref))) m
  | noMethod {ref : ObjectRef} {name : Name} {args : List Value} {object : Object}
      (hObject : m.heap[ref.index]? = some object)
      (hMethod : p.findMethod object.classId name = some none) :
      Service p fuel m (.call ref name args) (.error (.noBody (.member object.classId name))) m
  | called {ref : ObjectRef} {name : Name} {args : List Value} {object : Object}
      {method : CallableId} {result : Except RuntimeError Value} {last : Machine}
      (hObject : m.heap[ref.index]? = some object)
      (hMethod : p.findMethod object.classId name = some (some method))
      (hInvoke : p.invoke fuel method (.object ref :: args) m = some (result, last)) :
      Service p fuel m (.call ref name args) result last

/-- A construction first makes the object and then calls the constructor, if there is one. -/
theorem construct_eq (fuel : Nat) (m : Machine) {id : ClassId} {layout : ClassLayout}
    (hLayout : p.module.class? id = some layout) :
    p.construct fuel id m =
      match layout.constructor with
      | none => some (.ok ⟨m.heap.size⟩, withFresh m layout id)
      | some constructor =>
          (p.invoke fuel constructor [.object ⟨m.heap.size⟩] >>= fun _ =>
            (pure ⟨m.heap.size⟩ : Eval ObjectRef)) (withFresh m layout id) := by
  have hFirst : p.layout id m = some (.ok layout, m) := by
    rw [Program.layout, hLayout]
    rfl
  rw [construct, Eval.bind_of_ok hFirst]
  cases hConstructor : layout.constructor with
  | none => rfl
  | some constructor => rfl

/-- A call first looks at the object and then for the method. -/
theorem call_eq (fuel : Nat) {ref : ObjectRef} {name : Name} {args : List Value} {object : Object}
    (hObject : m.heap[ref.index]? = some object) :
    p.call fuel ref name args m =
      match p.findMethod object.classId name with
      | none => none
      | some none => some (.error (.noBody (.member object.classId name)), m)
      | some (some callable) => p.invoke fuel callable (.object ref :: args) m := by
  have hFirst : Eval.objectAt ref m = some (.ok object, m) := by
    rw [Eval.objectAt, hObject]
  rw [call, Eval.bind_of_ok hFirst]
  rcases p.findMethod object.classId name with _ | _ | callable
  · rfl
  · rfl
  · rfl

theorem service_of_construct {id : ClassId} {result : Except RuntimeError Value}
    (h : p.serve fuel (.construct id) m = some (result, m')) :
    Service p fuel m (.construct id) result m' := by
  rw [serve] at h
  cases hLayout : p.module.class? id with
  | none =>
      have hFirst : p.construct fuel id m = some (.error (.unknownClass id), m) := by
        rw [construct, Program.layout, hLayout]
        rfl
      cases (Eval.bind_of_error hFirst).symm.trans h
      exact .unknown hLayout
  | some layout =>
      have hConstruct := construct_eq fuel m hLayout
      cases hConstructor : layout.constructor with
      | none =>
          rw [hConstructor] at hConstruct
          cases (Eval.bind_of_ok hConstruct).symm.trans h
          exact .bare hLayout hConstructor
      | some constructor =>
          rw [hConstructor] at hConstruct
          rcases Eval.bind_eq_some_iff.1 h with ⟨e, hError, rfl⟩ | ⟨ref, next, hMade, hEnd⟩
          · rw [hConstruct] at hError
            rcases Eval.bind_eq_error_iff.1 hError with hInvoke | ⟨_, _, _, hDone⟩
            · exact .abandoned hLayout hConstructor hInvoke
            · cases hDone
          · rw [hConstruct] at hMade
            obtain ⟨value, last, hInvoke, hDone⟩ := Eval.bind_eq_ok_iff.1 hMade
            cases hDone
            cases hEnd
            exact .constructed hLayout hConstructor hInvoke

theorem service_of_call {ref : ObjectRef} {name : Name} {args : List Value}
    {result : Except RuntimeError Value}
    (h : p.serve fuel (.call ref name args) m = some (result, m')) :
    Service p fuel m (.call ref name args) result m' := by
  rw [serve, call] at h
  cases hObject : m.heap[ref.index]? with
  | none =>
      have hFirst : Eval.objectAt ref m = some (.error (.typeError (.dangling ref)), m) := by
        rw [Eval.objectAt, hObject]
      cases (Eval.bind_of_error hFirst).symm.trans h
      exact .dangling hObject
  | some object =>
      have hFirst : Eval.objectAt ref m = some (.ok object, m) := by
        rw [Eval.objectAt, hObject]
      rw [Eval.bind_of_ok hFirst] at h
      cases hMethod : p.findMethod object.classId name with
      | none => rw [hMethod] at h; cases h
      | some found =>
          rw [hMethod] at h
          cases found with
          | none =>
              cases h
              exact .noMethod hObject hMethod
          | some method => exact .called hObject hMethod h

theorem service_of_serve {request : Request} {result : Except RuntimeError Value}
    (h : p.serve fuel request m = some (result, m')) : Service p fuel m request result m' := by
  cases request with
  | construct id => exact service_of_construct h
  | call ref name args => exact service_of_call h

/-! ## Sessions -/

/-- The requests that a machine has served, with their outcomes, and the machine after them. -/
inductive Session (p : Program) :
    Machine → List (Request × Except RuntimeError Value) → Machine → Prop
  | nil (m : Machine) : Session p m [] m
  | cons {fuel : Nat} {m next last : Machine} {request : Request}
      {result : Except RuntimeError Value} {history : List (Request × Except RuntimeError Value)}
      (hServe : p.serve fuel request m = some (result, next))
      (hRest : Session p next history last) :
      Session p m ((request, result) :: history) last

/-- A session goes on with one request more. -/
theorem Session.concat {history : List (Request × Except RuntimeError Value)} {last : Machine}
    {request : Request} {result : Except RuntimeError Value} (h : Session p m history m')
    (hServe : p.serve fuel request m' = some (result, last)) :
    Session p m (history ++ [(request, result)]) last := by
  induction h with
  | nil m => exact .cons hServe (.nil last)
  | cons hFirst _ ih => exact .cons hFirst (ih hServe)

/-- What is true of every single outcome is true along a session. -/
theorem Session.forall_outcomes {P : Except RuntimeError Value → Prop}
    (hServe : ∀ {fuel request m result m'}, p.serve fuel request m = some (result, m') → P result)
    {history : List (Request × Except RuntimeError Value)} (h : Session p m history m') :
    ∀ entry ∈ history, P entry.2 := by
  induction h with
  | nil m => nofun
  | cons hFirst _ ih =>
      intro entry hEntry
      rcases List.mem_cons.1 hEntry with rfl | hRest
      · exact hServe hFirst
      · exact ih entry hRest

end Program
end TwoPhase
