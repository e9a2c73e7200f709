import Mathlib.Data.List.Forall2
import TwoPhase.Proofs.Machine.Fuel
import TwoPhase.Proofs.Machine.Moment
import TwoPhase.Provider.Catalogue

/-!
# Entrances into constructors

A constructor that is called is recorded before its body is looked up.  So what the recorded events
tell is which constructors were called, and not which of their bodies have started.  They differ at
most at the end of a request.  A call that does not get as far as its body ends with an error, and
nobody in a program catches errors.

## Strategy

An `Entrance` is a call of a constructor together with what comes next.  A `Trail` leads from moment
to moment and collects the entrances that it passes.  Two things are shown of a single step and then
of trails by induction: that exactly the entrances are recorded (`Goes.announced`), and that an
entrance either starts its body or ends in an error (`Goes.starts_or_fails`).  From an error on
there is only one way, through all the callers to the end, with no entrance on it
(`Trail.of_error`).

## Main results

* `Trail.announced` — what is recorded along a trail.
* `Trail.accounted` — what becomes of the entrances of an evaluation that ends.
* `entrances_recorded` — in every session.
* `unstarted_entrances` — recorded constructors none of whose bodies has started.
-/

namespace TwoPhase

open Ir (Body Register)
open Relation (ReflTransGen)

/-- The constructor that was called, if the event is about one. -/
def Event.constructor? : Event → Option CallableId
  | constructorEntered callable => some callable
  | fieldsInitialized _ => none

/-- The constructors that have been recorded, in order. -/
def Machine.announced (m : Machine) : List CallableId :=
  m.events.toList.filterMap Event.constructor?

/-- A call of a constructor that is not refused for its depth, and what comes next. -/
structure Entrance where
  callable : CallableId
  args : List Value
  next : Task

/-- The entrance that lies between a moment and the next one, if there is one. -/
def Moment.entrance? (now next : Moment) : Option Entrance :=
  match now.task with
  | .call callable args =>
      if callable.name.isInit && now.machine.depth < Machine.maxDepth then
        some ⟨callable, args, next.task⟩
      else none
  | _ => none

/-- Only the call of a constructor is an entrance, and only if it is not too deep. -/
theorem Moment.entrance?_call_eq_some_iff {callable : CallableId} {args : List Value}
    {callers : List Activation} {m : Machine} {next : Moment} {entrance : Entrance} :
    Moment.entrance? ⟨.call callable args, callers, m⟩ next = some entrance ↔
      callable.name.isInit = true ∧ m.depth < Machine.maxDepth ∧
        entrance = ⟨callable, args, next.task⟩ := by
  rw [Moment.entrance?, Option.ite_none_right_eq_some, Bool.and_eq_true, decide_eq_true_iff,
    and_assoc, Option.some.injEq, eq_comm (b := entrance)]

/-- The constructor's body starts with the arguments.  The root class's constructor has none and is
done at once. -/
inductive Entrance.Starts (p : Program) : Entrance → Prop
  | root {callable : CallableId} {args : List Value}
      (hOwn : Program.isRootConstructor callable = true) :
      Starts p ⟨callable, args, .done (.ok .null)⟩
  | body {callable : CallableId} {args : List Value} {body : Body}
      (hBody : p.module.body? callable = some body) (hCount : args.length = body.params.length) :
      Starts p ⟨callable, args, .block body body.entry (.enter body args)⟩

/-- The call fails instead, for want of a body or for the number of arguments. -/
inductive Entrance.Fails (p : Program) : Entrance → RuntimeError → Prop
  | absent {callable : CallableId} {args : List Value}
      (hBody : p.module.body? callable = none) :
      Fails p ⟨callable, args, .done (.error (.noBody callable))⟩ (.noBody callable)
  | count {callable : CallableId} {args : List Value} {body : Body} {e : RuntimeError}
      (hBody : p.module.body? callable = some body) (hCount : args.length ≠ body.params.length)
      (hError : e = .typeError (.argumentCount body.callable body.params.length args.length)) :
      Fails p ⟨callable, args, .done (.error e)⟩ e

/-! ## Computations that record no constructor -/

/-- However the computation ends, it has recorded no constructor. -/
def Eval.Quiet {α : Type} (x : Eval α) : Prop :=
  ∀ m result m', x m = some (result, m') → m'.announced = m.announced

namespace Eval

variable {α β : Type} {x : Eval α} {f : α → Eval β}

theorem Quiet.pure (a : α) : Quiet (pure a : Eval α) := by
  intro m result m' h
  cases h
  rfl

theorem Quiet.fail (e : RuntimeError) : Quiet (fail e : Eval α) := by
  intro m result m' h
  cases h
  rfl

theorem Quiet.outOfFuel : Quiet (outOfFuel : Eval α) := by
  intro m result m' h
  cases h

theorem Quiet.bind (hX : Quiet x) (hF : ∀ a, Quiet (f a)) : Quiet (x >>= f) := by
  intro m result m' h
  rcases bind_eq_some_iff.1 h with ⟨_, hFirst, _⟩ | ⟨a, next, hFirst, hRest⟩
  · exact hX _ _ _ hFirst
  · exact (hF a _ _ _ hRest).trans (hX _ _ _ hFirst)

theorem Quiet.ofOption (e : RuntimeError) (answer : Option α) : Quiet (ofOption e answer) := by
  cases answer with
  | none => exact .fail e
  | some a => exact .pure a

theorem Quiet.ofExcept (answer : Except RuntimeError α) : Quiet (ofExcept answer) := by
  cases answer with
  | error e => exact .fail e
  | ok a => exact .pure a

theorem Quiet.objectAt (ref : ObjectRef) : Quiet (objectAt ref) := by
  intro m result m' h
  rw [Eval.objectAt] at h
  split at h
  · cases h
    rfl
  · cases h
    rfl

theorem Quiet.writeSlots (ref : ObjectRef) (values : List (Nat × Value)) :
    Quiet (writeSlots ref values) := by
  intro m result m' h
  rw [Eval.writeSlots] at h
  split at h
  · cases h
    rfl
  · dsimp only at h
    split at h
    · cases h
      rfl
    · cases h
      rfl

theorem Quiet.record {event : Event} (h : event.constructor? = none) : Quiet (record event) := by
  intro m result m' hRun
  cases hRun
  simp [Machine.announced, h]

end Eval

namespace Program

variable {p : Program} {fuel : Nat} {m m' : Machine} {now next last : Moment}
  {entrances : List Entrance} {result : Except RuntimeError Value} {e : RuntimeError}

theorem quiet_initFields (ref : ObjectRef) (classId : ClassId) :
    (p.initFields ref classId).Quiet := by
  refine .bind (.ofOption _ _) fun _ => .bind (.objectAt ref) fun object =>
    .bind (.ofOption _ _) fun layout => ?_
  dsimp only
  split
  · exact .pure ()
  · exact .bind (.writeSlots _ _) fun _ => .record rfl

/-- An instruction records no constructor, apart from what a call does. -/
theorem quiet_step (frame : Frame) (instr : Ir.Instr) :
    (p.step Eval.noCall frame instr).Quiet := by
  cases instr with
  | assign dest value =>
      cases value with
      | register source => exact .bind (.ofExcept _) fun _ => .pure _
      | literal l => exact .pure _
  | delegate this target registers =>
      exact .bind (.ofExcept _) fun _ => .bind (.ofExcept _) fun _ =>
        .bind .outOfFuel fun _ => .pure _
  | initFields this classId =>
      exact .bind (.ofExcept _) fun ref => .bind (quiet_initFields ref classId) fun _ => .pure _
  | load dest object slot =>
      exact .bind (.ofExcept _) fun ref => .bind (.objectAt ref) fun _ =>
        .bind (.ofOption _ _) fun _ => .pure _
  | store object slot value =>
      exact .bind (.ofExcept _) fun ref => .bind (.ofExcept _) fun _ =>
        .bind (.writeSlots ref _) fun _ => .pure _

theorem announced_of_announce {callable : CallableId}
    (h : announce callable m = some (.ok (), m')) :
    m'.announced = m.announced ++ if callable.name.isInit then [callable] else [] := by
  rw [announce] at h
  split at h
  · cases h
    simp [Machine.announced, Event.constructor?, *]
  · cases h
    simp [*]

/-- A call that is not refused for its depth records its entrance. -/
theorem announced_of_call {callable : CallableId} {args : List Value} {callers : List Activation}
    (hDepth : m.depth < Machine.maxDepth) (hAnnounce : announce callable m = some (.ok (), m'))
    (hNext : next.machine.announced = m'.announced) :
    next.machine.announced = m.announced ++
      (Moment.entrance? ⟨.call callable args, callers, m⟩ next).toList.map Entrance.callable := by
  rw [hNext, announced_of_announce hAnnounce, Moment.entrance?]
  cases hInit : callable.name.isInit <;> simp [hDepth, hInit]

/-! ## One step -/

/-- An entrance leads either into its body or to an error. -/
theorem Goes.starts_or_fails (h : p.Goes now next) {entrance : Entrance}
    (hEntrance : now.entrance? next = some entrance) :
    entrance.Starts p ∨ ∃ e, entrance.Fails p e ∧ next.task = .done (.error e) := by
  cases h with
  | refuse hDepth =>
      obtain ⟨_, hBelow, _⟩ := Moment.entrance?_call_eq_some_iff.1 hEntrance
      exact absurd hBelow (Nat.not_lt.2 hDepth)
  | root _ _ hOwn =>
      obtain ⟨_, _, rfl⟩ := Moment.entrance?_call_eq_some_iff.1 hEntrance
      exact .inl (.root hOwn)
  | absent _ _ _ hBody =>
      obtain ⟨_, _, rfl⟩ := Moment.entrance?_call_eq_some_iff.1 hEntrance
      exact .inr ⟨_, .absent hBody, rfl⟩
  | count _ _ _ hBody hCount =>
      obtain ⟨_, _, rfl⟩ := Moment.entrance?_call_eq_some_iff.1 hEntrance
      exact .inr ⟨_, .count hBody hCount rfl, rfl⟩
  | enter _ _ _ hBody hCount =>
      obtain ⟨_, _, rfl⟩ := Moment.entrance?_call_eq_some_iff.1 hEntrance
      exact .inl (.body hBody hCount)
  | _ => cases hEntrance

/-- **A step records the entrance that it passes**, and no other constructor. -/
theorem Goes.announced (h : p.Goes now next) : next.machine.announced =
    now.machine.announced ++ (now.entrance? next).toList.map Entrance.callable := by
  cases h with
  | refuse hDepth => simp [Moment.entrance?, Nat.not_lt.2 hDepth]
  | root hDepth hAnnounce => exact announced_of_call hDepth hAnnounce rfl
  | absent hDepth hAnnounce => exact announced_of_call hDepth hAnnounce rfl
  | count hDepth hAnnounce => exact announced_of_call hDepth hAnnounce rfl
  | enter hDepth hAnnounce => exact announced_of_call hDepth hAnnounce rfl
  | step hStep => exact (quiet_step _ _ _ _ _ hStep).trans (List.append_nil _).symm
  | fail hStep => exact (quiet_step _ _ _ _ _ hStep).trans (List.append_nil _).symm
  -- all other steps leave the events alone
  | _ => exact (List.append_nil _).symm

/-! ## Trails -/

/-- An evaluation comes from one moment to another and passes entrances on the way. -/
inductive Trail (p : Program) : Moment → List Entrance → Moment → Prop
  | refl (now : Moment) : Trail p now [] now
  | head {now next last : Moment} {entrances : List Entrance} (hGoes : Goes p now next)
      (hRest : Trail p next entrances last) :
      Trail p now ((now.entrance? next).toList ++ entrances) last

theorem Leads.exists_trail (h : p.Leads now last) : ∃ entrances, p.Trail now entrances last := by
  induction h using ReflTransGen.head_induction_on with
  | refl => exact ⟨[], .refl last⟩
  | head hGoes _ ih =>
      obtain ⟨entrances, hTrail⟩ := ih
      exact ⟨_, .head hGoes hTrail⟩

/-- **A trail records the entrances that it passes.** -/
theorem Trail.announced (h : p.Trail now entrances last) :
    last.machine.announced = now.machine.announced ++ entrances.map Entrance.callable := by
  induction h with
  | refl now => exact (List.append_nil _).symm
  | head hGoes _ ih => rw [ih, hGoes.announced, List.map_append, List.append_assoc]

/-- An evaluation that ends passes the same entrances whenever it is followed. -/
theorem Trail.unique {others : List Entrance} {outcome : Except RuntimeError Value}
    (h : p.Trail now entrances ⟨.done result, [], m⟩)
    (hOther : p.Trail now others ⟨.done outcome, [], m'⟩) : others = entrances := by
  generalize hEnd : (⟨.done result, [], m⟩ : Moment) = last at h
  induction h generalizing others with
  | refl now =>
      subst hEnd
      cases hOther with
      | refl => rfl
      | head hGoes _ => cases hGoes
  | head hGoes _ ih =>
      cases hOther with
      | refl => cases hGoes
      | head hGoes' hRest' =>
          cases Goes.rightUnique hGoes hGoes'
          rw [ih hRest' hEnd]

/-- From an error there is no way but out. -/
theorem Trail.of_error {callers : List Activation}
    (h : p.Trail ⟨.done (.error e), callers, m⟩ entrances ⟨.done result, [], m'⟩) :
    entrances = [] ∧ result = .error e := by
  induction callers generalizing m entrances with
  | nil =>
      cases h with
      | refl => exact ⟨rfl, rfl⟩
      | head hGoes _ => cases hGoes
  | cons caller callers ih =>
      cases h with
      | head hGoes hRest =>
          cases hGoes
          exact ih hRest

/-- What becomes of the entrances of an evaluation: all of them start, or all but the last one,
which fails with the error that the evaluation ends with. -/
inductive Accounted (p : Program) : List Entrance → Except RuntimeError Value → Prop
  | started {entrances : List Entrance} {result : Except RuntimeError Value}
      (hStarted : ∀ entrance ∈ entrances, entrance.Starts p) : Accounted p entrances result
  | failed {entrances : List Entrance} {last : Entrance} {e : RuntimeError}
      (hStarted : ∀ entrance ∈ entrances, entrance.Starts p) (hFails : last.Fails p e) :
      Accounted p (entrances ++ [last]) (.error e)

theorem Accounted.cons {entrance : Entrance} (hStarts : entrance.Starts p)
    (h : Accounted p entrances result) : Accounted p (entrance :: entrances) result := by
  cases h with
  | started hStarted => exact .started (List.forall_mem_cons.2 ⟨hStarts, hStarted⟩)
  | failed hStarted hFails =>
      have hAll := Accounted.failed (List.forall_mem_cons.2 ⟨hStarts, hStarted⟩) hFails
      exact hAll

/-- What an evaluation answers does not matter. -/
theorem Accounted.map (h : Accounted p entrances result) (f : Value → Value) :
    Accounted p entrances (result.map f) := by
  cases h with
  | started hStarted => exact .started hStarted
  | failed hStarted hFails => exact .failed hStarted hFails

/-- **At most the last entrance of an evaluation fails to start its body**, and then the evaluation
ends with its error. -/
theorem Trail.accounted (h : p.Trail now entrances ⟨.done result, [], m⟩) :
    Accounted p entrances result := by
  generalize hEnd : (⟨.done result, [], m⟩ : Moment) = last at h
  induction h with
  | refl now => exact .started (List.forall_mem_nil _)
  | @head now next last entrances hGoes hRest ih =>
      subst hEnd
      cases hEntrance : now.entrance? next with
      | none => exact ih rfl
      | some entrance =>
          rcases hGoes.starts_or_fails hEntrance with hStarts | ⟨e, hFails, hTask⟩
          · exact (ih rfl).cons hStarts
          · -- the evaluation is over, so the rest of the trail has no entrance
            obtain ⟨task, callers, machine⟩ := next
            cases hTask
            obtain ⟨rfl, rfl⟩ := hRest.of_error
            have hAll : Accounted p ([] ++ [entrance]) (.error e) :=
              .failed (List.forall_mem_nil _) hFails
            exact hAll

/-! ## Sessions -/

/-- The entrances that are passed while a request is served. -/
inductive Enters (p : Program) (m : Machine) (request : Request) : List Entrance → Prop
  /-- There is no evaluation. -/
  | idle (hNone : ∀ start, ¬ Opens p m request start) : Enters p m request []
  | evaluated {callable : CallableId} {args : List Value} {first last : Machine}
      {outcome : Except RuntimeError Value} {entrances : List Entrance}
      (hOpens : Opens p m request (.call callable args first))
      (hTrail : Trail p ⟨.call callable args, [], first⟩ entrances ⟨.done outcome, [], last⟩) :
      Enters p m request entrances

/-- A session, with the entrances that are passed during each request. -/
inductive Logged (p : Program) : Machine → List (Request × Except RuntimeError Value) →
    List (List Entrance) → Machine → Prop
  | nil (m : Machine) : Logged p m [] [] m
  | cons {fuel : Nat} {m next last : Machine} {request : Request}
      {result : Except RuntimeError Value} {history : List (Request × Except RuntimeError Value)}
      {entrances : List Entrance} {log : List (List Entrance)}
      (hServe : p.serve fuel request m = some (result, next))
      (hEnters : Enters p m request entrances) (hRest : Logged p next history log last) :
      Logged p m ((request, result) :: history) (entrances :: log) last

theorem Enters.unique {request : Request} {others : List Entrance}
    (h : Enters p m request entrances) (hOther : Enters p m request others) :
    others = entrances := by
  cases h with
  | idle hNone =>
      cases hOther with
      | idle _ => rfl
      | evaluated hOpens _ => exact absurd hOpens (hNone _)
  | evaluated hOpens hTrail =>
      cases hOther with
      | idle hNone => exact absurd hOpens (hNone _)
      | evaluated hOpens' hTrail' =>
          cases hOpens.unique hOpens'
          exact hTrail.unique hTrail'

/-- There is one way to write the entrances of a session down. -/
theorem Logged.unique {history : List (Request × Except RuntimeError Value)}
    {log other : List (List Entrance)} {last last' : Machine} (h : Logged p m history log last)
    (hOther : Logged p m history other last') : other = log := by
  induction h generalizing other with
  | nil m =>
      cases hOther
      rfl
  | @cons fuel _ _ _ _ _ _ _ _ hServe hEnters _ ih =>
      cases hOther with
      | @cons fuel' _ _ _ _ _ _ _ _ hServe' hEnters' hRest' =>
          -- the fuel may be another one, but what a request does is the same
          have hSame := (serve_mono hServe (Nat.le_max_left fuel fuel')).symm.trans
            (serve_mono hServe' (Nat.le_max_right fuel fuel'))
          cases hSame
          rw [hEnters.unique hEnters', ih hRest']

/-- Nothing has been recorded when the evaluation of a request starts. -/
theorem Opens.announced {request : Request} {callable : CallableId} {args : List Value}
    {first : Machine} (h : Opens p m request (.call callable args first)) :
    first.announced = m.announced := by
  cases h with
  | construct _ _ => rfl
  | call _ _ => rfl

/-- A request records the entrances that are passed while it is served. -/
theorem exists_enters {request : Request} (h : p.serve fuel request m = some (result, m')) :
    ∃ entrances, Enters p m request entrances ∧
      m'.announced = m.announced ++ entrances.map Entrance.callable ∧
      Accounted p entrances result := by
  cases ending_of_serve h with
  | refused hNone _ =>
      exact ⟨[], .idle hNone, (List.append_nil m.announced).symm, .started (List.forall_mem_nil _)⟩
  | bare hLayout hConstructor =>
      refine ⟨[], .idle ?_, (List.append_nil m.announced).symm, .started (List.forall_mem_nil _)⟩
      rintro start (⟨hLayout', hConstructor'⟩ | _)
      cases hLayout.symm.trans hLayout'
      cases hConstructor.symm.trans hConstructor'
  | evaluated hEnd =>
      obtain ⟨callable, args, first, hOpens, hLeads⟩ := hEnd
      obtain ⟨entrances, hTrail⟩ := hLeads.exists_trail
      refine ⟨entrances, .evaluated hOpens hTrail, ?_, hTrail.accounted.map _⟩
      rw [← hOpens.announced]
      exact hTrail.announced

/-- So does a session, request by request. -/
theorem Session.exists_logged {history : List (Request × Except RuntimeError Value)}
    (h : Session p m history m') : ∃ log, Logged p m history log m' ∧
      m'.announced = m.announced ++ log.flatten.map Entrance.callable ∧
      List.Forall₂ (Accounted p) log (history.map Prod.snd) := by
  induction h with
  | nil m => exact ⟨[], .nil m, (List.append_nil _).symm, .nil⟩
  | cons hServe _ ih =>
      obtain ⟨entrances, hEnters, hFirst, hAccounted⟩ := exists_enters hServe
      obtain ⟨log, hLogged, hRest, hAll⟩ := ih
      refine ⟨entrances :: log, .cons hServe hEnters hLogged, ?_, .cons hAccounted hAll⟩
      rw [hRest, hFirst, List.flatten_cons, List.map_append, List.append_assoc]

/-- **The recorded constructors are the entrances**, one for one and in order, in every session with
a new machine.  During a request all of them start their bodies, or else the last one fails, for
want of a body or for the number of arguments, and the request ends with this error. -/
theorem entrances_recorded {history : List (Request × Except RuntimeError Value)}
    (h : Session p .start history m) :
    ∃ log, (∀ other, Logged p .start history other m ↔ other = log) ∧
      m.announced = log.flatten.map Entrance.callable ∧
      List.Forall₂ (Accounted p) log (history.map Prod.snd) := by
  obtain ⟨log, hLogged, hAnnounced, hAccounted⟩ := h.exists_logged
  refine ⟨log, fun other => ⟨hLogged.unique, ?_⟩, hAnnounced, hAccounted⟩
  rintro rfl
  exact hLogged

end Program

/-! ## A sample -/

namespace Catalogue

namespace Nests

/-- The key of the sample. -/
def key : Key := ⟨0, "nests"⟩

/-- A class of the sample. -/
def nested (name : String) : ClassId := ⟨⟨[⟨"nests"⟩]⟩, ⟨name⟩⟩

/-- Its constructor turns to the one of the core. -/
def shell : ClassId := nested "Shell"

/-- A class without a constructor. -/
def core : ClassId := nested "Core"

/-- Its constructor takes a parameter. -/
def pair : ClassId := nested "Pair"

/-- A class as it is declared. -/
def entry (id : ClassId) : ClassEntry :=
  ⟨id, none, [], some ⟨id, none, [], .generated key, .synthetic⟩⟩

/-- The constructor of a class. -/
def constructor (id : ClassId) (params : List Typed) : MemberEntry :=
  ⟨id, .init, none, .constructor, params, .named (.classLike id), .generated key, .synthetic⟩

/-- A register of the sample. -/
def register (n : Nat) : Register := ⟨n, TypeTable.unknown⟩

/-- The body of a constructor with so many parameters, the receiver among them. -/
def body (id : ClassId) (arity : Nat) (instrs : List Ir.Instr) : Body where
  callable := .constructorOf id
  params := (List.range arity).map register
  returns := TypeTable.unknown
  blocks := [⟨⟨0⟩, none, instrs, .ret none⟩]
  entry := ⟨0⟩
  span := .synthetic

/-- The bodies of the two constructors. -/
def shellBody : Body := body shell 1 [.delegate (register 0) (.constructorOf core) []]

def pairBody : Body := body pair 2 []

/-- Bodies for the two constructors. -/
def library : BodyLibrary where
  keys := [key]
  functions := []
  constructors :=
    [⟨.constructorOf shell, none, fun _ _ => .ok shellBody⟩,
      ⟨.constructorOf pair, none, fun _ _ => .ok pairBody⟩]

end Nests

/-- Classes whose constructors cannot be run. -/
def nests : Catalogue where
  classes := [Nests.entry Nests.shell, Nests.entry Nests.core, Nests.entry Nests.pair]
  members :=
    [Nests.constructor Nests.shell [],
      Nests.constructor Nests.pair [⟨[⟨"second"⟩], .named (.primitive .number)⟩]]
  namespaces := none
  topLevel := none
  names := []

end Catalogue

/-- The sample with its constructors declared. -/
def Resolver.nests : Resolver :=
  let start := start "main" ⟨[Catalogue.nests.provider], [Catalogue.Nests.library.provider]⟩
  let shell := (start.resolveClass Catalogue.Nests.shell).2
  let core := ((shell.resolveMember Catalogue.Nests.shell .init).2.resolveClass
    Catalogue.Nests.core).2
  ((core.resolveClass Catalogue.Nests.pair).2.resolveMember Catalogue.Nests.pair .init).2

/-- What the sample is lowered to. -/
def Program.nests : Program where
  types := Resolver.nests.types
  symbols := Resolver.nests.symbols
  module :=
    { name := "main"
      bodies := [Catalogue.Nests.shellBody, Catalogue.Nests.pairBody]
      classes := Resolver.nests.symbols.classes.map Resolver.nests.symbols.layoutOf }

namespace Catalogue.Nests

/-- Two constructions that fail. -/
def history : List (Request × Except RuntimeError Value) :=
  [(.construct shell, .error (.noBody (.constructorOf core))),
    (.construct pair, .error (.typeError (.argumentCount (.constructorOf pair) 2 1)))]

/-- The machine after the first construction. -/
def first : Machine where
  heap := #[⟨shell, #[]⟩]
  events := #[.constructorEntered (.constructorOf shell), .constructorEntered (.constructorOf core)]
  depth := 0

/-- The machine after both of them. -/
def last : Machine where
  heap := first.heap.push ⟨pair, #[]⟩
  events := first.events.push (.constructorEntered (.constructorOf pair))
  depth := 0

theorem session_history : Program.nests.Session .start history last := by
  have hShell : Program.nests.serve 2 (.construct shell) .start =
      some (.error (.noBody (.constructorOf core)), first) := rfl
  have hPair : Program.nests.serve 1 (.construct pair) first =
      some (.error (.typeError (.argumentCount (.constructorOf pair) 2 1)), last) := rfl
  exact .cons hShell (.cons hPair (.nil last))

/-- The constructors of the core and of the pair are recorded.  But there is no body of the first,
and the body of the second takes an argument more than it is given. -/
theorem unstarted_entrances :
    Resolver.nests.lower = .ok Program.nests ∧
      Program.nests.Session .start history last ∧
      last.events = #[.constructorEntered (.constructorOf shell),
        .constructorEntered (.constructorOf core), .constructorEntered (.constructorOf pair)] ∧
      Program.isRootConstructor (.constructorOf core) = false ∧
      Program.nests.module.body? (.constructorOf core) = none ∧
      Program.isRootConstructor (.constructorOf pair) = false ∧
      Program.nests.module.body? (.constructorOf pair) = some pairBody ∧
      pairBody.params.length = 2 :=
  ⟨rfl, session_history, rfl, rfl, rfl, rfl, rfl, rfl⟩

/-- Each of the two constructions fails, and what is recorded are their entrances. -/
theorem failed_entrances : ∃ log, Program.nests.Session .start history last ∧
    (∀ other, Program.nests.Logged .start history other last ↔ other = log) ∧
    [.constructorOf shell, .constructorOf core, .constructorOf pair] =
      log.flatten.map Entrance.callable ∧
    List.Forall₂ Program.nests.Accounted log (history.map Prod.snd) := by
  obtain ⟨log, hLogged, hAnnounced, hAccounted⟩ := Program.entrances_recorded session_history
  exact ⟨log, session_history, hLogged, hAnnounced, hAccounted⟩

end Catalogue.Nests
end TwoPhase
