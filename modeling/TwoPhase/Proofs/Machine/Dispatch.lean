import TwoPhase.Proofs.Machine.Overloads
import TwoPhase.Proofs.Machine.Termination

/-!
# Which body a call runs

A method is called by its name alone.  The class of the receiver and its superclasses are gone
through from the bottom up, and the first one that has a body of that name takes the call, with the
body that was added last for it.  One name is special: the constructor of the root class is built
in, and a body that is stored for it is found and not run.

## Strategy

`Climb` already follows superclasses up to a class that meets a condition.  With *having a body* as
the condition it leads to the nearest class that has one, and `Climb.finds` says that the search
comes to the same class.  A search never looks at anything but the classes on the way up, so two
programs that agree about these find the same (`findMethod_congr`).

## Main results

* `Climb.finds`, `findMethod_of_nobody` — what is found, in terms of the classes on the way up.
* `Climb.overrides` — every other class with a body is above the nearest one.
* `call_runs_nearest` — what a call comes to.
* `root_constructor_hides_body` — a body that is found and not run.
-/

namespace TwoPhase

open Ir (Body)
open Relation (ReflTransGen TransGen)

/-! ## Bodies of a module -/

namespace Ir.Module

/-- The body that was added last of those for a callable. -/
structure LastAdded (m : Module) (callable : CallableId) (body : Body) : Prop where
  callable_eq : body.callable = callable
  split : ∃ before after, m.bodies = before ++ body :: after ∧
    ∀ other ∈ after, other.callable ≠ callable

variable {m : Module} {callable : CallableId} {body : Body}

/-- **A lookup finds the body that was added last.** -/
theorem body?_eq_some_iff_lastAdded : m.body? callable = some body ↔ m.LastAdded callable body := by
  rw [body?_eq_some_iff_last]
  constructor
  · rintro ⟨before, after, hBodies, hCallable, hAfter⟩
    exact ⟨hCallable, before, after, hBodies, hAfter⟩
  · rintro ⟨hCallable, before, after, hBodies, hAfter⟩
    exact ⟨before, after, hBodies, hCallable, hAfter⟩

end Ir.Module

namespace Program

variable {p q : Program} {name : Name} {id nearest : ClassId} {passed : List ClassId}
  {stop : ClassId → Prop}

theorem answers_iff_lastAdded :
    p.Answers name id ↔ ∃ body, p.module.LastAdded (.member id name) body := by
  rw [Answers, Option.isSome_iff_exists]
  exact exists_congr fun body => Ir.Module.body?_eq_some_iff_lastAdded

/-! ## The nearest class with a body -/

/-- The search comes to the nearest class that has a body. -/
theorem Climb.finds (h : p.Climb (p.Answers name) id passed nearest) :
    p.findMethod id name = some (some (.member nearest name)) := by
  have hNearest : p.Answers name nearest := h.stops
  refine findMethod_eq_some_iff.2 ⟨passed, nearest, ?_, (if_pos hNearest).symm⟩
  induction h with
  | here hStop => exact .here (.inl hStop)
  | up hStop hParent _ ih =>
      exact .up (not_or_intro hStop hParent.not_top) hParent (ih hNearest)

theorem Climb.reaches (h : p.Climb stop id passed nearest) :
    ReflTransGen p.Under id nearest := by
  induction h with
  | here => exact .refl
  | up _ hParent _ ih => exact .head hParent ih

/-- **The nearest class overrides those above it.**  Every class on the way up that meets the
condition is the nearest one or above it. -/
theorem Climb.overrides (h : p.Climb stop id passed nearest) {other : ClassId}
    (hOther : ReflTransGen p.Under id other) (hStop : stop other) :
    ReflTransGen p.Under nearest other := by
  induction h with
  | here => exact hOther
  | up hNot hParent _ ih =>
      rcases ReflTransGen.cases_head hOther with rfl | ⟨parent', hParent', hRest⟩
      · exact absurd hStop hNot
      · obtain rfl := Option.some.inj (hParent.symm.trans hParent')
        exact ih hRest

/-- Superclasses do not go round where one comes to a class at the top. -/
theorem Climb.rises (h : p.Climb p.Top id passed nearest) : p.Rises id := by
  induction h with
  | @here id hTop =>
      intro other hFrom hRound
      rcases ReflTransGen.cases_head hFrom with rfl | ⟨parent, hParent, _⟩
      · obtain ⟨parent, hParent, _⟩ := TransGen.head'_iff.1 hRound
        exact hParent.not_top hTop
      · exact hParent.not_top hTop
  | @up id parent last passed hStop hParent hRest ih =>
      intro other hFrom hRound
      rcases ReflTransGen.cases_head hFrom with rfl | ⟨parent', hParent', hOther⟩
      · -- the round would come through the superclass
        obtain ⟨parent', hParent', hBack⟩ := TransGen.head'_iff.1 hRound
        obtain rfl := Option.some.inj (hParent.symm.trans hParent')
        exact ih _ hBack hRound
      · obtain rfl := Option.some.inj (hParent.symm.trans hParent')
        exact ih other hOther hRound

/-- The classes on the way up are those that a climb to the top comes through. -/
theorem Climb.mem_of_reaches (h : p.Climb p.Top id passed nearest) {other : ClassId}
    (hOther : ReflTransGen p.Under id other) : other ∈ passed ++ [nearest] := by
  induction h with
  | @here id hTop =>
      rcases ReflTransGen.cases_head hOther with rfl | ⟨parent, hParent, _⟩
      · exact List.mem_singleton_self id
      · exact absurd hTop hParent.not_top
  | @up id parent last passed hStop hParent hRest ih =>
      rcases ReflTransGen.cases_head hOther with rfl | ⟨parent', hParent', hFrom⟩
      · exact List.mem_cons_self
      · obtain rfl := Option.some.inj (hParent.symm.trans hParent')
        exact List.mem_cons_of_mem _ (ih hFrom)

/-- Where superclasses do not go round, every search comes to a class where it stops. -/
theorem Rises.exists_settled (h : p.Rises id) (name : Name) :
    ∃ passed last, p.Climb (p.Settles name) id passed last := by
  obtain ⟨top, hFrom, hTop⟩ := h.exists_top
  have hSettles : p.Settles name top := .inr hTop
  exact exists_climb_iff.2 ⟨top, hFrom, hSettles⟩

/-- If no class on the way up has a body, the search ends without one. -/
theorem findMethod_of_nobody (hRises : p.Rises id)
    (hNobody : ∀ other, ReflTransGen p.Under id other → ¬ p.Answers name other) :
    p.findMethod id name = some none := by
  obtain ⟨passed, last, hClimb⟩ := hRises.exists_settled name
  exact findMethod_eq_some_iff.2 ⟨passed, last, hClimb, (if_neg (hNobody last hClimb.reaches)).symm⟩

/-! ## What a search looks at -/

/-- Two programs agree about a class: it has the same superclass in both, and a body of that name in
both or in neither. -/
def Agree (p q : Program) (name : Name) (id : ClassId) : Prop :=
  p.parent? id = q.parent? id ∧ (p.Answers name id ↔ q.Answers name id)

theorem Climb.congr (hAgree : ∀ other, ReflTransGen p.Under id other → p.Agree q name other)
    (h : p.Climb (p.Settles name) id passed nearest) :
    q.Climb (q.Settles name) id passed nearest ∧
      q.methodAt name nearest = p.methodAt name nearest := by
  induction h with
  | @here id hStop =>
      obtain ⟨hParent, hAnswers⟩ := hAgree id .refl
      have hSettles : q.Settles name id := by
        rw [Settles, Top, ← hAnswers, ← hParent]
        exact hStop
      refine ⟨.here hSettles, ?_⟩
      simp only [methodAt, hAnswers]
  | @up id parent last passed hStop hParent hRest ih =>
      obtain ⟨hSame, hAnswers⟩ := hAgree id .refl
      obtain ⟨hClimb, hFound⟩ := ih fun other hOther => hAgree other (.head hParent hOther)
      have hSettles : ¬ q.Settles name id := by
        rw [Settles, Top, ← hAnswers, ← hSame]
        exact hStop
      exact ⟨.up hSettles (hSame.symm.trans hParent) hClimb, hFound⟩

/-- **A search looks only at the classes on the way up.**  Programs that agree about these find the
same method. -/
theorem findMethod_congr (hRises : p.Rises id)
    (hAgree : ∀ other, ReflTransGen p.Under id other → p.Agree q name other) :
    q.findMethod id name = p.findMethod id name := by
  obtain ⟨passed, last, hClimb⟩ := hRises.exists_settled name
  obtain ⟨hClimb', hFound⟩ := hClimb.congr hAgree
  rw [findMethod_eq_some_iff.2 ⟨passed, last, hClimb, rfl⟩]
  exact findMethod_eq_some_iff.2 ⟨passed, last, hClimb', hFound.symm⟩

/-! ## Calls -/

variable {ref : ObjectRef} {object : Object} {m : Machine}

theorem isRootConstructor_member :
    isRootConstructor (.member id name) = true ↔ id = rootClass ∧ name = .init := by
  simp [isRootConstructor, CallableId.member, Name.isInit]

/-- **A call runs the nearest body.**  Let the superclasses of the receiver's class not go round.
If some class on the way up has a body of that name, the nearest such class takes the call; all
others are above it.  It is invoked with the receiver in front of the arguments, which runs the body
that was added last for it.  Only the root class's constructor runs none: it leaves its event and
answers nothing, whatever body is stored for it.  If no class on the way up has a body, the call
fails in the name of the receiver's own class, and the machine is as before.  Classes that are not
on the way up have no say in what is found.

A call from outside always finds the machine below the depth limit, since nothing else is
running. -/
theorem call_runs_nearest (hObject : m.heap[ref.index]? = some object)
    (hRises : p.Rises object.classId) (name : Name) (args : List Value) :
    (∀ {passed nearest body}, p.Climb (p.Answers name) object.classId passed nearest →
      p.module.LastAdded (.member nearest name) body →
      (∀ other, ReflTransGen p.Under object.classId other → p.Answers name other →
        ReflTransGen p.Under nearest other) ∧
      (∀ fuel, p.call fuel ref name args m =
        p.invoke fuel (.member nearest name) (.object ref :: args) m) ∧
      (m.depth < Machine.maxDepth → ¬ (nearest = rootClass ∧ name = .init) →
        ∀ fuel, p.call (fuel + 1) ref name args m = (announce (.member nearest name) >>= fun _ =>
          Eval.nested (p.runBody (p.invoke fuel) fuel body (.object ref :: args))) m) ∧
      (m.depth < Machine.maxDepth → nearest = rootClass ∧ name = .init →
        ∀ fuel, p.call (fuel + 1) ref name args m = some (.ok .null,
          { m with events := m.events.push (.constructorEntered (.constructorOf rootClass)) }))) ∧
    ((∀ other, ReflTransGen p.Under object.classId other → ¬ p.Answers name other) ∨
      ∃ passed nearest body, p.Climb (p.Answers name) object.classId passed nearest ∧
        p.module.LastAdded (.member nearest name) body) ∧
    ((∀ other, ReflTransGen p.Under object.classId other → ¬ p.Answers name other) →
      ∀ fuel, p.call fuel ref name args m =
        some (.error (.noBody (.member object.classId name)), m)) ∧
    ∀ q : Program, (∀ other, ReflTransGen p.Under object.classId other → p.Agree q name other) →
      q.findMethod object.classId name = p.findMethod object.classId name := by
  refine ⟨?_, ?_, ?_, fun q => findMethod_congr hRises⟩
  · intro passed nearest body hClimb hLast
    have hCall : ∀ fuel, p.call fuel ref name args m =
        p.invoke fuel (.member nearest name) (.object ref :: args) m := by
      intro fuel
      rw [call_eq fuel hObject, hClimb.finds]
    refine ⟨fun other => hClimb.overrides, hCall, ?_, ?_⟩
    · intro hDepth hOrdinary fuel
      obtain ⟨next, hAnnounce⟩ := exists_announce (.member nearest name) m
      have hOwn : isRootConstructor (.member nearest name) = false := by
        rw [← Bool.not_eq_true, isRootConstructor_member]
        exact hOrdinary
      rw [hCall, Eval.bind_of_ok hAnnounce]
      exact invoke_eq_runBody hDepth hAnnounce hOwn (Ir.Module.body?_eq_some_iff_lastAdded.2 hLast)
    · rintro hDepth ⟨rfl, rfl⟩ fuel
      rw [hCall]
      exact invoke_root _ hDepth
  · by_cases hSome : ∃ other, ReflTransGen p.Under object.classId other ∧ p.Answers name other
    · obtain ⟨passed, nearest, hClimb⟩ := exists_climb_iff.2 hSome
      obtain ⟨body, hLast⟩ := answers_iff_lastAdded.1 hClimb.stops
      exact .inr ⟨passed, nearest, body, hClimb, hLast⟩
    · exact .inl fun other hFrom hAnswers => hSome ⟨other, hFrom, hAnswers⟩
  · intro hNobody fuel
    rw [call_eq fuel hObject, findMethod_of_nobody hRises hNobody]

end Program

/-! ## A sample -/

namespace Catalogue.Dots

/-- The key of the sample. -/
def key : Key := ⟨0, "dots"⟩

/-- The superclass of the sample. -/
def shape : ClassId := ⟨⟨[⟨"dots"⟩]⟩, ⟨"Shape"⟩⟩

/-- The class of the sample. -/
def dot : ClassId := ⟨⟨[⟨"dots"⟩]⟩, ⟨"Dot"⟩⟩

/-- The name of a method that both classes have. -/
def label : Name := ⟨"label"⟩

/-- A method that is declared under a name, and maybe has another identifier. -/
def method (owner : ClassId) (name : Name) (id : Option CallableId) : MemberEntry :=
  ⟨owner, name, id, .function, [], .named (.primitive .string), .generated key, .synthetic⟩

/-- A body that answers a text. -/
def body (callable : CallableId) (text : String) : Body where
  callable := callable
  params := [⟨0, TypeTable.unknown⟩]
  returns := Primitive.string.typeId
  blocks :=
    [⟨⟨0⟩, none, [.assign ⟨1, Primitive.string.typeId⟩ (.literal (.string text))],
      .ret (some ⟨1, Primitive.string.typeId⟩)⟩]
  entry := ⟨0⟩
  span := .synthetic

/-- The bodies of the sample.  One of them is stored for the root class's constructor. -/
def bodies : List Body :=
  [body (.member shape label) "shape", body (.member dot label) "dot",
    body (.constructorOf rootClass) "stored"]

/-- Bodies for all callables of the sample. -/
def library : BodyLibrary where
  keys := [key]
  functions := bodies.map fun body => ⟨body.callable, none, fun _ _ => .ok body⟩
  constructors := []

end Catalogue.Dots

/-- A class and its superclass, with a method each.  One more callable is declared among the members
of the class, and has the identifier of the root class's constructor. -/
def Catalogue.dots : Catalogue where
  classes :=
    [⟨Dots.dot, none, [], some ⟨Dots.dot, some Dots.shape, [], .generated Dots.key, .synthetic⟩⟩,
      ⟨Dots.shape, none, [], some ⟨Dots.shape, none, [], .generated Dots.key, .synthetic⟩⟩]
  members :=
    [Dots.method Dots.dot Dots.label none,
      Dots.method Dots.dot ⟨"origin"⟩ (some (.constructorOf rootClass)),
      Dots.method Dots.shape Dots.label none]
  namespaces := none
  topLevel := none
  names := []

/-- The sample with everything declared. -/
def Resolver.dots : Resolver :=
  let start := start "main" ⟨[Catalogue.dots.provider], [Catalogue.Dots.library.provider]⟩
  let upper := (start.resolveClass Catalogue.Dots.shape).2.resolveMember Catalogue.Dots.shape
    Catalogue.Dots.label
  let lower := (upper.2.resolveClass Catalogue.Dots.dot).2.resolveMember Catalogue.Dots.dot
    Catalogue.Dots.label
  (lower.2.resolveMember Catalogue.Dots.dot ⟨"origin"⟩).2

/-- What the sample is lowered to. -/
def Program.dots : Program where
  types := Resolver.dots.types
  symbols := Resolver.dots.symbols
  module :=
    { name := "main"
      bodies := Catalogue.Dots.bodies
      classes := Resolver.dots.symbols.classes.map Resolver.dots.symbols.layoutOf }

namespace Catalogue.Dots

theorem lower_dots : Resolver.dots.lower = .ok Program.dots := rfl

/-- The class, its superclass and the root class. -/
theorem climb_dot : Program.dots.Climb Program.dots.Top dot [dot, shape] rootClass :=
  .up nofun rfl (.up nofun rfl (.here rfl))

/-- Neither of the two classes has a constructor, so the root class is the nearest one with a body
for it.  That body would answer a text, and is not run. -/
theorem root_constructor_hides_body :
    Resolver.dots.lower = .ok Program.dots ∧ Program.dots.Rises dot ∧
      Program.dots.Climb (Program.dots.Answers .init) dot [dot, shape] rootClass ∧
      Program.dots.module.LastAdded (.member rootClass .init)
        (body (.constructorOf rootClass) "stored") ∧
      ∃ m, Program.dots.construct 5 dot .start = some (.ok ⟨0⟩, m) ∧
        (∃ m', Program.dots.runBody (Program.dots.invoke 4) 4
          (body (.constructorOf rootClass) "stored") [.object ⟨0⟩] m =
            some (.ok (.string "stored"), m')) ∧
        ∃ m', Program.dots.call 5 ⟨0⟩ .init [] m = some (.ok .null, m') := by
  have stored : Program.dots.module.LastAdded (.member rootClass .init)
      (body (.constructorOf rootClass) "stored") :=
    ⟨rfl, [body (.member shape label) "shape", body (.member dot label) "dot"], [], rfl, nofun⟩
  exact ⟨lower_dots, climb_dot.rises, .up nofun rfl (.up nofun rfl (.here rfl)),
    stored, _, rfl, ⟨_, rfl⟩, _, rfl⟩

/-- The class's own method is called, and not the one of the superclass. -/
theorem dot_overrides_shape : ∃ m, Program.dots.construct 5 dot .start = some (.ok ⟨0⟩, m) ∧
    m.heap[0]? = some ⟨dot, #[]⟩ ∧ Program.dots.Rises dot ∧
    Program.dots.Answers label shape ∧ Program.dots.Climb (Program.dots.Answers label) dot [] dot ∧
    Program.dots.module.LastAdded (.member dot label) (body (.member dot label) "dot") ∧
    ReflTransGen Program.dots.Under dot shape ∧
    Program.dots.call 5 ⟨0⟩ label [] m = (Program.announce (.member dot label) >>= fun _ =>
      Eval.nested (Program.dots.runBody (Program.dots.invoke 4) 4 (body (.member dot label) "dot")
        [.object ⟨0⟩])) m ∧
    ∀ fuel, Program.dots.call fuel ⟨0⟩ ⟨"missing"⟩ [] m =
      some (.error (.noBody (.member dot ⟨"missing"⟩)), m) := by
  obtain ⟨m, hMade, hObject, hDepth⟩ : ∃ m,
      Program.dots.construct 5 dot .start = some (.ok ⟨0⟩, m) ∧ m.heap[0]? = some ⟨dot, #[]⟩ ∧
        m.depth < Machine.maxDepth := ⟨_, rfl, rfl, by decide⟩
  have hRises : Program.dots.Rises dot := climb_dot.rises
  have hClimb : Program.dots.Climb (Program.dots.Answers label) dot [] dot := .here rfl
  have hLast : Program.dots.module.LastAdded (.member dot label) (body (.member dot label) "dot") :=
    ⟨rfl, [body (.member shape label) "shape"], [body (.constructorOf rootClass) "stored"], rfl,
      by decide⟩
  have hNobody : ∀ other, ReflTransGen Program.dots.Under dot other →
      ¬ Program.dots.Answers ⟨"missing"⟩ other := by
    intro other hOther
    have hListed : other = dot ∨ other = shape ∨ other = rootClass := by
      simpa using climb_dot.mem_of_reaches hOther
    rcases hListed with rfl | rfl | rfl
    · nofun
    · nofun
    · nofun
  obtain ⟨hNearest, _⟩ := Program.call_runs_nearest hObject hRises label []
  obtain ⟨_, _, hMissing, _⟩ := Program.call_runs_nearest hObject hRises ⟨"missing"⟩ []
  obtain ⟨hOverrides, _, hRun, _⟩ := hNearest hClimb hLast
  exact ⟨m, hMade, hObject, hRises, rfl, hClimb, hLast, hOverrides shape (.single rfl) rfl,
    hRun hDepth (by decide) 4, hMissing hNobody⟩

end Catalogue.Dots
end TwoPhase
