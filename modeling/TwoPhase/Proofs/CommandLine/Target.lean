import TwoPhase.CommandLine.Compile
import TwoPhase.Proofs.Greeter.Alone

/-!
# Call targets

A call target is any text.  Its last dot separates the class from the method, and the class may be
written with empty segments, which do not count.  Of all the classes and methods that a target can
name, the program of the greeter answers for two methods of one class.

## Strategy

`Targets` says what a text names, by how it is put together; `splitTarget` finds it.  What it names
settles the construction and the call, one lemma for each way in which they can end, and a text
names either nothing or one thing.  So `Answer` has one answer for every text.

## Main results

* `splitTarget_eq_ok_iff` — what a target names.
* `callTarget_eq_iff` — the answer to every target, errors included.
-/

namespace TwoPhase.CommandLine

open Greeter (Alone greeterClass functionName greeting)

variable {target : String} {id : ClassId} {method : Name}

/-! ## What a target names -/

/-- A text names a method of a class: behind its last dot is the method, and before it stands a path
whose segments, the empty ones left out, are those of the class. -/
def Targets (target : String) (id : ClassId) (method : Name) : Prop :=
  ∃ path : String, target = path ++ "." ++ method.text ∧ '.' ∉ method.text.toList ∧
    (Path.parse path).segments = id.package.segments ++ [id.name]

theorem cutLast_target {path behind : List Char} :
    Text.cutLast '.' target.toList = some (path, behind) ↔
      target = String.ofList path ++ "." ++ String.ofList behind ∧ '.' ∉ behind := by
  have hText : target.toList = path ++ '.' :: behind ↔
      target = String.ofList path ++ "." ++ String.ofList behind := by
    rw [← String.toList_inj]
    simp
  rw [Text.cutLast_eq_some_iff, hText]

theorem targets_iff : Targets target id method ↔
    ∃ path, Text.cutLast '.' target.toList = some (path, method.text.toList) ∧
      ClassId.parse? (String.ofList path) = some id := by
  constructor
  · rintro ⟨path, hTarget, hMethod, hSegments⟩
    refine ⟨path.toList, cutLast_target.2 ⟨?_, hMethod⟩, ClassId.parse?_eq_some_iff.2 ?_⟩
    · simpa using hTarget
    · simpa using hSegments
  · rintro ⟨path, hCut, hParse⟩
    obtain ⟨hTarget, hMethod⟩ := cutLast_target.1 hCut
    refine ⟨String.ofList path, ?_, hMethod, ClassId.parse?_eq_some_iff.1 hParse⟩
    simpa using hTarget

/-- A target is taken apart into what it names. -/
theorem splitTarget_eq_ok_iff :
    splitTarget target = .ok (id, method) ↔ Targets target id method := by
  obtain ⟨method⟩ := method
  rw [targets_iff, splitTarget]
  cases Text.cutLast '.' target.toList with
  | none => simp
  | some parts =>
      obtain ⟨path, behind⟩ := parts
      have hBehind : (⟨String.ofList behind⟩ : Name) = ⟨method⟩ ↔ behind = method.toList := by
        rw [Name.mk.injEq, ← String.toList_inj, String.toList_ofList]
      cases hParse : ClassId.parse? (String.ofList path) with
      | none => simp [hParse]
      | some found => simp [hParse, hBehind, and_comm]

/-- Every other text is refused. -/
theorem splitTarget_eq_error (h : ∀ id method, ¬ Targets target id method) :
    splitTarget target = .error (badTarget target) := by
  have hEnd : (∃ found, splitTarget target = .ok found) ∨
      splitTarget target = .error (badTarget target) := by
    unfold splitTarget
    split
    · exact .inr rfl
    · split
      · exact .inr rfl
      · exact .inl ⟨_, rfl⟩
  rcases hEnd with ⟨⟨id, method⟩, hOk⟩ | hError
  · exact absurd (splitTarget_eq_ok_iff.1 hOk) (h id method)
  · exact hError

/-! ## Answers -/

/-- The answer to a call target. -/
inductive Answer (target : String) : Except Report Value → Prop
  /-- The text does not name anything. -/
  | malformed (hNothing : ∀ id method, ¬ Targets target id method) :
      Answer target (.error (badTarget target))
  /-- The class is neither the root class nor the greeter's. -/
  | unknownClass {id : ClassId} {method : Name} (hTarget : Targets target id method)
      (hRoot : id ≠ rootClass) (hGreeter : id ≠ greeterClass) :
      Answer target (.error ⟨s!"Failed to construct '{id.text}'",
        some (RuntimeError.unknownClass id).message⟩)
  /-- The class is one of the two, but it has no such method. -/
  | noMethod {id : ClassId} {method : Name} (hTarget : Targets target id method)
      (hMethod : id = rootClass ∨ id = greeterClass ∧ method ≠ .init ∧ method ≠ functionName) :
      Answer target (.error ⟨s!"Failed to call '{target}'",
        some (RuntimeError.noBody (.member id method)).message⟩)
  | constructor (hTarget : Targets target greeterClass .init) : Answer target (.ok .null)
  | function (hTarget : Targets target greeterClass functionName) :
      Answer target (.ok (.string "Hello world"))

/-- There is an answer to every text. -/
theorem exists_answer (target : String) : ∃ answer, Answer target answer := by
  by_cases hTarget : ∃ id method, Targets target id method
  · obtain ⟨id, method, hTarget⟩ := hTarget
    by_cases hRoot : id = rootClass
    · exact ⟨_, .noMethod hTarget (.inl hRoot)⟩
    · by_cases hGreeter : id = greeterClass
      · subst hGreeter
        by_cases hInit : method = .init
        · subst hInit
          exact ⟨_, .constructor hTarget⟩
        · by_cases hFunction : method = functionName
          · subst hFunction
            exact ⟨_, .function hTarget⟩
          · exact ⟨_, .noMethod hTarget (.inr ⟨rfl, hInit, hFunction⟩)⟩
      · exact ⟨_, .unknownClass hTarget hRoot hGreeter⟩
  · exact ⟨_, .malformed fun id method hNamed => hTarget ⟨id, method, hNamed⟩⟩

section Calling

variable {p : Program} {key : Key} {members : List CallableDecl} {m : Machine} {ref : ObjectRef}

/-- The target names a class that cannot be constructed. -/
theorem callTarget_of_unmade {e : RuntimeError} (hTarget : Targets target id method)
    (hConstruct : p.construct Program.ampleFuel id .start = some (.error e, m)) :
    callTarget p target =
      .error ⟨s!"Failed to construct '{id.text}'", some e.message⟩ := by
  rw [callTarget, splitTarget_eq_ok_iff.2 hTarget]
  simp only [bind, Except.bind, hConstruct]

/-- The object was made, and the call has ended. -/
theorem callTarget_of_made {result : Except RuntimeError Value} {last : Machine}
    (hTarget : Targets target id method)
    (hConstruct : p.construct Program.ampleFuel id .start = some (.ok ref, m))
    (hCall : p.call Program.ampleFuel ref method [] m = some (result, last)) :
    callTarget p target = result.mapError
      fun e => ⟨s!"Failed to call '{target}'", some e.message⟩ := by
  rw [callTarget, splitTarget_eq_ok_iff.2 hTarget]
  simp only [bind, Except.bind, hConstruct, hCall]
  cases result <;> rfl

/-- The greeter's class can be constructed on a new machine. -/
theorem construct_greeter (h : Alone p key members) :
    ∃ m, p.construct Program.ampleFuel greeterClass .start = some (.ok ⟨0⟩, m) ∧
      m.heap[(⟨0⟩ : ObjectRef).index]? = some ⟨greeterClass, #[]⟩ ∧ m.depth = 0 := by
  have hFuel : 1 < Program.ampleFuel := by decide
  obtain ⟨m, hConstruct, hHeap, hDepth, _⟩ :=
    h.construct (m := .start) h.declared (by decide) hFuel
  refine ⟨m, hConstruct, ?_, hDepth⟩
  rw [hHeap]
  rfl

/-- And so can the root class. -/
theorem construct_root (h : Alone p key members) :
    ∃ m slots, p.construct Program.ampleFuel rootClass .start = some (.ok ⟨0⟩, m) ∧
      m.heap[(⟨0⟩ : ObjectRef).index]? = some ⟨rootClass, slots⟩ := by
  have hFuel : 0 < Program.ampleFuel := by decide
  obtain ⟨m, slots, hConstruct, hHeap⟩ := h.construct_root (m := .start) (by decide) hFuel
  refine ⟨m, slots, hConstruct, ?_⟩
  rw [hHeap]
  rfl

/-- So the answer is that of the call. -/
theorem callTarget_of_answer (h : Alone p key members) {answer : Except Report Value}
    (hAnswer : Answer target answer) : callTarget p target = answer := by
  cases hAnswer with
  | malformed hNothing =>
      rw [callTarget, splitTarget_eq_error hNothing]
      rfl
  | unknownClass hTarget hRoot hGreeter =>
      exact callTarget_of_unmade hTarget (h.construct_unknown hRoot hGreeter)
  | noMethod hTarget hMethod =>
      rcases hMethod with rfl | ⟨rfl, hInit, hFunction⟩
      · obtain ⟨m, slots, hMade, hObject⟩ := construct_root h
        exact callTarget_of_made hTarget hMade (h.call_root hObject)
      · obtain ⟨m, hMade, hObject, _⟩ := construct_greeter h
        exact callTarget_of_made hTarget hMade (h.call_other hInit hFunction hObject)
  | constructor hTarget =>
      obtain ⟨m, hMade, hObject, hDepth⟩ := construct_greeter h
      have hRoom : m.depth + 1 < Machine.maxDepth := by
        rw [hDepth]
        decide
      have hFuel : 1 < Program.ampleFuel := by decide
      obtain ⟨last, hCall⟩ := h.call_constructor hObject hRoom hFuel
      exact callTarget_of_made hTarget hMade hCall
  | function hTarget =>
      obtain ⟨m, hMade, hObject, hDepth⟩ := construct_greeter h
      have hRoom : m.depth < Machine.maxDepth := by
        rw [hDepth]
        decide
      have hFuel : 1 < Program.ampleFuel := by decide
      have hFound := (h.found functionName).2 (.inr rfl)
      exact callTarget_of_made hTarget hMade (h.call_found hFound hObject hRoom hFuel)

/-- **The answer to every call target** is the one that the target determines. -/
theorem callTarget_eq_iff (h : Alone p key members) {answer : Except Report Value} :
    callTarget p target = answer ↔ Answer target answer := by
  constructor
  · rintro rfl
    obtain ⟨answer, hAnswer⟩ := exists_answer target
    rw [callTarget_of_answer h hAnswer]
    exact hAnswer
  · exact callTarget_of_answer h

end Calling

end TwoPhase.CommandLine
