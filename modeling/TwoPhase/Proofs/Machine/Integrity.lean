import TwoPhase.Proofs.Machine.Construction
import TwoPhase.Proofs.Machine.Footprint

/-!
# The integrity of a machine

A machine that serves requests about its own objects stays in order: its calls are undone when
they end, its objects are what their classes say, its references lead somewhere, and what has been
seen of it is never taken back.  The errors that would mean otherwise, a dangling reference or an
initializer that finds a slot missing, do not occur.

## Strategy

Between requests the heap is `Intact`: all its objects are a closed region and have as many slots
as the layouts of their classes.  An evaluation stays inside that region and changes no shape
(`Leads.stays`), which leaves three things to look at from one moment to the next: the depth,
which is the number of bodies that are being run (`Goes.level`), the error that a failing
instruction ends with (`Goes.safe`), and what an initializer does (`initializer_is_whole`).
Sessions are put together from requests by induction (`Session.ready`), where the objects that a
client knows of become more with every answer.

## Main results

* `During.sound` — every moment of a request is sound.
* `ready_of_serve`, `Session.ready` — requests leave machines as they must be found.
* `machine_integrity` — for the programs that resolvers lower.
-/

namespace TwoPhase

open Ir (ClassLayout Instr Register)
open Relation (ReflTransGen)

/-- The references that lead to an object. -/
def Machine.objects (m : Machine) : Set ObjectRef := {ref | ref.index < m.heap.size}

/-- What becomes of a machine as time goes on: objects stay, with their classes and as many slots
as they had, and events are recorded behind those that are there. -/
structure Machine.Grown (m m' : Machine) : Prop where
  objects : ∀ (n : Nat) (object : Object), m.heap[n]? = some object →
    ∃ object', m'.heap[n]? = some object' ∧ object'.classId = object.classId ∧
      object'.slots.size = object.slots.size
  events : m.events.toList <+: m'.events.toList

/-- Slots refer to objects, and every object has the slots of its class's layout. -/
structure Machine.Intact (p : Program) (m : Machine) : Prop where
  closed : Closed m.objects m.heap
  fits : ∀ (n : Nat) (object : Object), m.heap[n]? = some object →
    ∃ layout, p.module.class? object.classId = some layout ∧
      object.slots.size = layout.slots.size

/-- No body is being run, and the heap is intact. -/
structure Machine.Ready (p : Program) (m : Machine) : Prop where
  depth : m.depth = 0
  intact : m.Intact p

/-- A request has been answered with an object or with no reference at all, or it has failed, but
not at a dangling reference. -/
structure Machine.Answered (m : Machine) (result : Except RuntimeError Value) : Prop where
  value : ∀ {value}, result = .ok value → value.Within m.objects
  error : ∀ ref, result ≠ .error (.typeError (.dangling ref))

/-- The depth of calls is the number of bodies that are being run, and within the limit. -/
structure Moment.Level (now : Moment) : Prop where
  depth : now.machine.depth = now.frames.length
  limit : now.machine.depth ≤ Machine.maxDepth

/-- No call has ended at a dangling reference. -/
def Moment.Safe (now : Moment) : Prop :=
  ∀ ref, now.task ≠ .done (.error (.typeError (.dangling ref)))

/-- If an initializer is about to be run, it resets all fields of its class or it changes nothing.
It may lack the object or the class, but not a slot. -/
def Moment.Whole (p : Program) (now : Moment) : Prop :=
  ∀ active this K rest, now.task = .code active → active.rest = .initFields this K :: rest →
    ∀ call result next, p.step call active.frame (.initFields this K) now.machine =
        some (result, next) →
      (∃ e, result = .error e ∧ next = now.machine ∧ ∀ n, e ≠ .typeError (.noSlot n)) ∨
      ∃ ref object layout, active.frame.readObject this = .ok ref ∧
        now.machine.heap[ref.index]? = some object ∧
        p.module.class? object.classId = some layout ∧ result = .ok active.frame ∧
        next = p.reset layout K ref object now.machine

/-- An evaluation in order. -/
structure Moment.Sound (p : Program) (now : Moment) : Prop where
  level : now.Level
  intact : now.machine.Intact p
  /-- All that registers, arguments and results refer to are objects. -/
  inside : now.Inside now.machine.objects
  safe : now.Safe
  whole : now.Whole p

variable {p : Program} {m m' m'' : Machine} {ref : ObjectRef}

/-! ## What stays -/

theorem Machine.Grown.refl (m : Machine) : m.Grown m :=
  ⟨fun _ object hObject => ⟨object, hObject, rfl, rfl⟩, List.prefix_rfl⟩

theorem Machine.Grown.trans (h : m.Grown m') (h' : m'.Grown m'') : m.Grown m'' where
  objects n object hObject := by
    obtain ⟨object', hObject', hClass, hSize⟩ := h.objects n object hObject
    obtain ⟨object'', hObject'', hClass', hSize'⟩ := h'.objects n object' hObject'
    exact ⟨object'', hObject'', hClass'.trans hClass, hSize'.trans hSize⟩
  events := h.events.trans h'.events

/-- A reference that leads to an object goes on doing so. -/
theorem Machine.Grown.objects_subset (h : m.Grown m') : m.objects ⊆ m'.objects := by
  intro ref hRef
  obtain ⟨_, hObject, _⟩ := h.objects ref.index _ (Array.getElem?_eq_getElem hRef)
  exact (Array.getElem?_eq_some_iff.1 hObject).1

theorem Machine.Answered.grown {result : Except RuntimeError Value} (h : m.Answered result)
    (hGrown : m.Grown m') : m'.Answered result where
  value hValue _ hRef := hGrown.objects_subset (h.value hValue hRef)
  error := h.error

section Effect

variable {region : Set ObjectRef}

theorem Effect.grown (h : Effect region m m') : m.Grown m' where
  objects n object hObject := by
    have hShape := h.shapes n
    rw [hObject, Option.map_some] at hShape
    obtain ⟨object', hObject', hSame⟩ := Option.map_eq_some_iff.1 hShape
    exact ⟨object', hObject', congrArg Prod.fst hSame, congrArg Prod.snd hSame⟩
  events := h.events

theorem Effect.objects_eq (h : Effect region m m') : m'.objects = m.objects := by
  rw [Machine.objects, Machine.objects, h.size_eq]

theorem Effect.intact (h : Effect region m m') (hIntact : m.Intact p)
    (hClosed : Closed m.objects m'.heap) : m'.Intact p where
  closed := by
    rw [h.objects_eq]
    exact hClosed
  fits n object hObject := by
    have hShape := h.shapes n
    rw [hObject, Option.map_some] at hShape
    obtain ⟨before, hBefore, hSame⟩ := Option.map_eq_some_iff.1 hShape.symm
    obtain ⟨layout, hLayout, hSize⟩ := hIntact.fits n before hBefore
    refine ⟨layout, ?_, (congrArg Prod.snd hSame).symm.trans hSize⟩
    rw [← hLayout]
    exact congrArg p.module.class? (congrArg Prod.fst hSame).symm

end Effect

namespace Program

variable {now next : Moment} {request : Request} {layout : ClassLayout} {id : ClassId}

theorem heap_withFresh (m : Machine) (layout : ClassLayout) (id : ClassId) :
    (withFresh m layout id).heap =
      m.heap.push ⟨id, Array.replicate layout.slots.size .null⟩ := rfl

/-- A new object changes nothing about the others. -/
theorem grown_withFresh (m : Machine) (layout : ClassLayout) (id : ClassId) :
    m.Grown (withFresh m layout id) where
  objects n object hObject := by
    have hInside : n < m.heap.size := (Array.getElem?_eq_some_iff.1 hObject).1
    exact ⟨object, (getElem?_withFresh hInside.ne).trans hObject, rfl, rfl⟩
  events := List.prefix_rfl

/-- The new object is there. -/
theorem fresh_mem_objects (m : Machine) (layout : ClassLayout) (id : ClassId) :
    (⟨m.heap.size⟩ : ObjectRef) ∈ (withFresh m layout id).objects := by
  show m.heap.size < (withFresh m layout id).heap.size
  rw [heap_withFresh, Array.size_push]
  exact Nat.lt_succ_self _

/-- A new object has the slots of its class's layout, and no references. -/
theorem intact_withFresh (hIntact : m.Intact p) (hLayout : p.module.class? id = some layout) :
    (withFresh m layout id).Intact p where
  closed := by
    intro ref object hRef hObject
    by_cases hNew : ref.index = m.heap.size
    · rw [heap_withFresh, hNew, Array.getElem?_push_size] at hObject
      cases hObject
      intro value hValue other hOther
      rw [hOther] at hValue
      cases Array.eq_of_mem_replicate hValue
    · rw [getElem?_withFresh hNew] at hObject
      intro value hValue other hOther
      have hInside : ref ∈ m.objects := (Array.getElem?_eq_some_iff.1 hObject).1
      exact (grown_withFresh m layout id).objects_subset
        (hIntact.closed hInside hObject value hValue hOther)
  fits n object hObject := by
    by_cases hNew : n = m.heap.size
    · rw [heap_withFresh, hNew, Array.getElem?_push_size] at hObject
      cases hObject
      exact ⟨layout, hLayout, Array.size_replicate⟩
    · rw [getElem?_withFresh hNew] at hObject
      exact hIntact.fits n object hObject

/-! ## From one moment to the next -/

/-- Neither an announcement nor an instruction changes the depth. -/
theorem depth_of_announce {callable : CallableId}
    (h : announce callable m = some (.ok (), m')) : m'.depth = m.depth := by
  have hClosed : Closed Set.univ m.heap := fun _ _ _ _ _ _ => trivial
  exact (stays_announce _ _ _ _ hClosed h).depth

theorem depth_of_step {frame : Frame} {instr : Instr} {result : Except RuntimeError Frame}
    (h : p.step Eval.noCall frame instr m = some (result, m')) : m'.depth = m.depth := by
  have hClosed : Closed Set.univ m.heap := fun _ _ _ _ _ _ => trivial
  have hFrame : frame.Within Set.univ := fun _ _ _ _ => trivial
  exact (stays_step hFrame instr _ _ _ hClosed h).depth

/-- Where as many bodies are being run as before, the depth must be what it was. -/
theorem level_of_same (hLevel : now.Level) (hDepth : next.machine.depth = now.machine.depth)
    (hFrames : next.frames.length = now.frames.length) : next.Level where
  depth := by rw [hDepth, hLevel.depth, hFrames]
  limit := hDepth.trans_le hLevel.limit

/-- Where a body has been left, it must be one less. -/
theorem level_of_back (hLevel : now.Level) (hDepth : next.machine.depth = now.machine.depth - 1)
    (hFrames : next.frames.length = now.frames.length - 1) : next.Level where
  depth := by rw [hDepth, hLevel.depth, hFrames]
  limit := by
    rw [hDepth]
    exact (Nat.sub_le _ _).trans hLevel.limit

/-- **The depth follows the bodies** as they are entered and left. -/
theorem Goes.level (h : p.Goes now next) (hLevel : now.Level) : next.Level := by
  cases h with
  | refuse _ => exact level_of_same hLevel rfl rfl
  | root _ hAnnounce _ => exact level_of_same hLevel (depth_of_announce hAnnounce) rfl
  | absent _ hAnnounce _ _ => exact level_of_same hLevel (depth_of_announce hAnnounce) rfl
  | count _ hAnnounce _ _ _ => exact level_of_same hLevel (depth_of_announce hAnnounce) rfl
  | enter hBelow hAnnounce _ _ _ =>
      have hSame := depth_of_announce hAnnounce
      exact ⟨congrArg (· + 1) (hSame.trans hLevel.depth), hSame.trans_lt hBelow⟩
  | lost _ => exact level_of_back hLevel rfl rfl
  | begin _ => exact level_of_same hLevel rfl rfl
  | step hStep => exact level_of_same hLevel (depth_of_step hStep) rfl
  | fail hStep => exact level_of_back hLevel (congrArg (· - 1) (depth_of_step hStep)) rfl
  | delegate _ _ => exact level_of_same hLevel rfl rfl
  | jump _ => exact level_of_same hLevel rfl rfl
  | leave _ => exact level_of_back hLevel rfl rfl
  | resume => exact level_of_same hLevel rfl rfl
  | unwind => exact level_of_back hLevel rfl rfl

/-- So they do along an evaluation. -/
theorem Leads.level (h : p.Leads now next) (hLevel : now.Level) : next.Level := by
  induction h with
  | refl => exact hLevel
  | tail _ hGoes ih => exact hGoes.level ih

/-- **No instruction fails at a dangling reference** where all references lead to objects. -/
theorem Goes.safe (h : p.Goes now next) (hInside : now.Inside now.machine.objects)
    (hSafe : now.Safe) : next.Safe := by
  intro ref hTask
  cases h with
  | fail hStep =>
      cases hTask
      obtain ⟨hRef, hNone⟩ :=
        (stays_step hInside.task _ _ _ _ hInside.closed hStep).dangling rfl
      exact absurd (Array.getElem?_eq_none_iff.1 hNone) (Nat.not_le.2 hRef)
  | leave hEnd =>
      cases hTask
      rw [Activation.result?] at hEnd
      split at hEnd
      · cases hEnd
      · exact read_ne_dangling _ _ (Option.some.inj hEnd)
      · cases hEnd
      · cases hEnd
  | unwind =>
      cases hTask
      exact hSafe ref rfl
  | _ => cases hTask

/-! ## Initializers -/

/-- **An initializer resets every field of its class or changes nothing.** -/
theorem initializer_is_whole
    (hNumbered : ∀ {id layout}, p.module.class? id = some layout → layout.Numbered)
    (hIntact : now.machine.Intact p) (hInside : now.Inside now.machine.objects) :
    now.Whole p := by
  rintro ⟨body, block, _, frame⟩ this K rest hTask rfl call result next hStep
  have hFrame : frame.Within now.machine.objects := by
    have hWithin := hInside.task
    rwa [hTask] at hWithin
  cases hThis : frame.readObject this with
  | error e =>
      left
      rw [step, hThis] at hStep
      cases hStep
      refine ⟨e, rfl, rfl, ?_⟩
      rintro n rfl
      rcases Frame.error_of_readObject hThis with hError | ⟨_, hError⟩
      · cases hError
      · cases hError
  | ok ref =>
      have hRead : Eval.ofExcept (frame.readObject this) = pure ref := by
        rw [hThis]
        rfl
      cases hOwn : p.module.class? K with
      | none =>
          left
          rw [step, hRead, pure_bind, initFields, layout, hOwn] at hStep
          cases hStep
          refine ⟨_, rfl, rfl, ?_⟩
          intro n hError
          cases hError
      | some own =>
          right
          have hObject := Array.getElem?_eq_getElem (hFrame.readObject hThis)
          obtain ⟨layout, hLayout, hSize⟩ := hIntact.fits _ _ hObject
          have hKnown : (p.module.class? K).isSome = true := by
            rw [hOwn]
            rfl
          have hInit := initFields_eq hKnown hObject hLayout (hNumbered hLayout) hSize
          rw [step_initFields hThis hInit] at hStep
          cases hStep
          exact ⟨ref, _, layout, rfl, hObject, hLayout, rfl, rfl⟩

/-! ## Evaluations -/

/-- **An evaluation stays in order** if it starts so. -/
theorem Leads.sound
    (hNumbered : ∀ {id layout}, p.module.class? id = some layout → layout.Numbered)
    (h : p.Leads now next) (hSound : now.Sound p) :
    next.Sound p ∧ now.machine.Grown next.machine := by
  have hStays {later : Moment} (hLeads : p.Leads now later) :
      later.Inside later.machine.objects ∧ later.machine.Intact p ∧
        now.machine.Grown later.machine := by
    obtain ⟨hInside, hEffect⟩ := hLeads.stays hSound.inside
    refine ⟨?_, hEffect.intact hSound.intact hInside.closed, hEffect.grown⟩
    rw [hEffect.objects_eq]
    exact hInside
  have hRest : next.Level ∧ next.Safe := by
    induction h with
    | refl => exact ⟨hSound.level, hSound.safe⟩
    | tail hLeads hGoes ih => exact ⟨hGoes.level ih.1, hGoes.safe (hStays hLeads).1 ih.2⟩
  obtain ⟨hInside, hIntact, hGrown⟩ := hStays h
  exact ⟨⟨hRest.1, hIntact, hInside, hRest.2, initializer_is_whole hNumbered hIntact hInside⟩,
    hGrown⟩

end Program

/-! ## Requests -/

/-- The objects that a request mentions. -/
def Request.named : Request → Set ObjectRef
  | .construct _ => ∅
  | .call this _ args => {ref | ref = this ∨ .object ref ∈ args}

namespace Program

variable {now next : Moment} {request : Request} {fuel : Nat}
  (hNumbered : ∀ {id layout}, p.module.class? id = some layout → layout.Numbered)

/-- A call that no body has made starts in order. -/
theorem sound_of_call {callable : CallableId} {args : List Value} (hDepth : m.depth = 0)
    (hIntact : m.Intact p) (hArgs : ∀ value ∈ args, value.Within m.objects) :
    Moment.Sound p ⟨.call callable args, [], m⟩ where
  level := ⟨hDepth, hDepth.trans_le (Nat.zero_le _)⟩
  intact := hIntact
  inside := ⟨hIntact.closed, hArgs, fun _ hCaller => absurd hCaller List.not_mem_nil⟩
  safe := by
    intro ref hTask
    cases hTask
  whole := by
    intro active this K rest hTask
    cases hTask

/-- A request about objects of the machine starts in order. -/
theorem Opens.sound_start {callable : CallableId} {args : List Value} {first : Machine}
    (h : Opens p m request (.call callable args first)) (hReady : m.Ready p)
    (hNamed : request.named ⊆ m.objects) :
    Moment.Sound p ⟨.call callable args, [], first⟩ ∧ m.Grown first ∧
      ∀ {later value}, first.Grown later → value.Within later.objects →
        (request.answer m value).Within later.objects := by
  cases h with
  | @construct id layout _ hLayout _ =>
      have hMember := fresh_mem_objects m layout id
      refine ⟨sound_of_call hReady.depth (intact_withFresh hReady.intact hLayout) ?_,
        grown_withFresh m layout id, ?_⟩
      · intro value hValue
        rw [List.mem_singleton.1 hValue]
        exact Value.within_object hMember
      · intro later value hGrown _
        exact Value.within_object (hGrown.objects_subset hMember)
  | call _ _ =>
      refine ⟨sound_of_call hReady.depth hReady.intact ?_, .refl m, fun _ hValue => hValue⟩
      intro value hValue ref hRef
      subst hRef
      rcases List.mem_cons.1 hValue with hThis | hArg
      · cases hThis
        exact hNamed (.inl rfl)
      · exact hNamed (.inr hArg)

include hNumbered

/-- **Every moment of a request is sound.** -/
theorem During.sound (h : During p m request now) (hReady : m.Ready p)
    (hNamed : request.named ⊆ m.objects) :
    now.Sound p ∧ m.Grown now.machine ∧
      ∀ {value}, value.Within now.machine.objects →
        (request.answer m value).Within now.machine.objects := by
  obtain ⟨callable, args, first, hOpens, hLeads⟩ := h
  obtain ⟨hStart, hFirst, hAnswer⟩ := hOpens.sound_start hReady hNamed
  obtain ⟨hSound, hGrown⟩ := hLeads.sound hNumbered hStart
  exact ⟨hSound, hFirst.trans hGrown, hAnswer hGrown⟩

/-- **A request leaves a machine in order**, whether it succeeds or fails. -/
theorem ready_of_serve {result : Except RuntimeError Value}
    (h : p.serve fuel request m = some (result, m')) (hReady : m.Ready p)
    (hNamed : request.named ⊆ m.objects) :
    m'.Ready p ∧ m.Grown m' ∧ m'.Answered result := by
  cases ending_of_serve h with
  | refused _ hDangling =>
      refine ⟨hReady, .refl m, nofun, ?_⟩
      intro ref hError
      cases hError
      obtain ⟨name, args, rfl, hObject⟩ := hDangling ref rfl
      have hInside : ref.index < m.heap.size := hNamed (.inl rfl)
      exact absurd (Array.getElem?_eq_none_iff.1 hObject) (Nat.not_le.2 hInside)
  | @bare id layout hLayout _ =>
      refine ⟨⟨hReady.depth, intact_withFresh hReady.intact hLayout⟩, grown_withFresh m layout id,
        ?_, nofun⟩
      intro value hValue
      cases hValue
      exact Value.within_object (fresh_mem_objects m layout id)
  | @evaluated _ outcome _ hEnd =>
      obtain ⟨hSound, hGrown, hAnswer⟩ := hEnd.sound hNumbered hReady hNamed
      refine ⟨⟨hSound.level.depth, hSound.intact⟩, hGrown, ?_⟩
      cases outcome with
      | error e =>
          refine ⟨nofun, ?_⟩
          intro ref hError
          cases hError
          exact hSound.safe ref rfl
      | ok last =>
          refine ⟨?_, nofun⟩
          intro value hValue
          cases hValue
          exact hAnswer (hSound.inside.task rfl)

end Program

/-! ## Sessions -/

/-- Requests that mention only objects which are known at first or have been handed out since. -/
def OwnObjects : Set ObjectRef → List (Request × Except RuntimeError Value) → Prop
  | _, [] => True
  | known, (request, result) :: rest =>
      request.named ⊆ known ∧ OwnObjects (known ∪ {ref | result = .ok (.object ref)}) rest

namespace Program

variable {request : Request} {fuel : Nat} {last : Machine}
  {history : List (Request × Except RuntimeError Value)}

/-- **Sessions keep machines in order** as long as nothing foreign is mentioned. -/
theorem Session.ready
    (hNumbered : ∀ {id layout}, p.module.class? id = some layout → layout.Numbered)
    (h : Session p m history last) :
    ∀ {known : Set ObjectRef}, known ⊆ m.objects → OwnObjects known history → m.Ready p →
      last.Ready p ∧ m.Grown last ∧ ∀ entry ∈ history, last.Answered entry.2 := by
  induction h with
  | nil m => exact fun _ _ hReady => ⟨hReady, .refl m, nofun⟩
  | cons hServe _ ih =>
      intro known hKnown hOwn hReady
      obtain ⟨hNamed, hOwn⟩ := hOwn
      obtain ⟨hReady, hGrown, hAnswer⟩ :=
        ready_of_serve hNumbered hServe hReady (hNamed.trans hKnown)
      have hKnown' := Set.union_subset (hKnown.trans hGrown.objects_subset)
        fun ref hRef => hAnswer.value hRef rfl
      obtain ⟨hReady, hGrown', hAnswers⟩ := ih hKnown' hOwn hReady
      exact ⟨hReady, hGrown.trans hGrown',
        List.forall_mem_cons.2 ⟨hAnswer.grown hGrown', hAnswers⟩⟩

/-- **The integrity of machines.**  A program that a resolver has lowered serves requests that
mention no objects but those which earlier answers have handed out.

Then after every request the depth is 0 and the heap is intact, answers lead to objects and no
request fails at a dangling reference.  During the next request every moment is sound, and whether
it succeeds, fails or goes on for ever, the machine has grown at each moment from what it was at
every earlier one. -/
theorem machine_integrity {r : Resolver} (hLower : r.lower = .ok p)
    (hSession : Session p .start history last) (hOwn : OwnObjects ∅ history) :
    last.Ready p ∧ (∀ entry ∈ history, last.Answered entry.2) ∧
      ∀ {request}, (∀ ref ∈ request.named, ∃ entry ∈ history, entry.2 = .ok (.object ref)) →
        (∀ {now}, During p last request now → now.Sound p ∧ last.Grown now.machine ∧
          ∀ {later}, p.Leads now later → now.machine.Grown later.machine) ∧
        ∀ {fuel result next}, p.serve fuel request last = some (result, next) →
          last.Grown next ∧
            ∀ {now}, During p last request now → now.machine.Grown next := by
  have hNumbered : ∀ {id layout}, p.module.class? id = some layout → layout.Numbered :=
    fun hLayout => Resolver.numbered_of_lower hLower hLayout
  obtain ⟨hReady, _, hAnswers⟩ := hSession.ready hNumbered (Set.empty_subset _) hOwn
    ⟨rfl, nofun, nofun⟩
  refine ⟨hReady, hAnswers, ?_⟩
  intro request hHandedOut
  have hNamed : request.named ⊆ last.objects := by
    intro ref hRef
    obtain ⟨entry, hEntry, hAnswer⟩ := hHandedOut ref hRef
    exact (hAnswers entry hEntry).value hAnswer rfl
  have hSound {now : Moment} (hNow : During p last request now) :=
    hNow.sound hNumbered hReady hNamed
  refine ⟨?_, ?_⟩
  · intro now hNow
    obtain ⟨hHere, hGrown, _⟩ := hSound hNow
    exact ⟨hHere, hGrown, fun hLeads => (hLeads.sound hNumbered hHere).2⟩
  · intro fuel result next hServe
    refine ⟨(ready_of_serve hNumbered hServe hReady hNamed).2.1, ?_⟩
    intro now hNow
    cases ending_of_serve hServe with
    | refused hNone _ =>
        obtain ⟨_, _, _, hOpens, _⟩ := hNow
        exact absurd hOpens (hNone _)
    | bare hLayout hConstructor =>
        obtain ⟨_, _, _, ⟨hLayout', hConstructor'⟩ | _, _⟩ := hNow
        cases hLayout.symm.trans hLayout'
        cases hConstructor.symm.trans hConstructor'
    | evaluated hEnd => exact ((hNow.leads_end hEnd).sound hNumbered (hSound hNow).1).2

end Program

/-! ## A sample -/

namespace Catalogue.Cells

theorem own_history : OwnObjects ∅ history := by
  refine ⟨Set.empty_subset _, Set.empty_subset _, Set.empty_subset _, ?_, trivial⟩
  rintro ref (rfl | hArg)
  · simp
  · simp_all

/-- The linked cells are in order, and so they are while the second one is marked, which fails. -/
theorem cells_in_order :
    let request : Request := .call ⟨0⟩ ⟨"mark"⟩ []
    Resolver.cells.lower = .ok Program.cells ∧
      Program.Session Program.cells .start history linked ∧ OwnObjects ∅ history ∧
      linked.depth = 0 ∧ linked.Intact Program.cells ∧
      (∀ ref ∈ request.named, ∃ entry ∈ history, entry.2 = .ok (.object ref)) ∧
      Program.cells.serve 5 request linked = some (.error (.typeError (.noSlot 7)), marked) ∧
      linked.Grown marked ∧
      ∃ now, Program.During Program.cells linked request now ∧ now.machine.depth = 1 ∧
        now.Sound Program.cells ∧ now.machine.Grown marked := by
  intro request
  obtain ⟨⟨hDepth, hIntact⟩, _, hRequests⟩ :=
    Program.machine_integrity lower_cells session_linked own_history
  have hNamed : ∀ ref ∈ request.named, ∃ entry ∈ history, entry.2 = .ok (.object ref) := by
    rintro ref (rfl | hArg)
    · exact ⟨_, List.mem_cons_self, rfl⟩
    · cases hArg
  have hDuring : Program.During Program.cells linked request
      ⟨.block mark ⟨0⟩ (.enter mark [.object ⟨0⟩]), [], linked.deeper⟩ :=
    ⟨_, _, _, .call rfl rfl, .single (.enter (by decide) rfl rfl rfl rfl)⟩
  obtain ⟨hMoments, hEnd⟩ := hRequests hNamed
  obtain ⟨hGrown, hBefore⟩ := hEnd call_mark
  exact ⟨lower_cells, session_linked, own_history, hDepth, hIntact, hNamed, call_mark, hGrown,
    _, hDuring, rfl, (hMoments hDuring).1, hBefore hDuring⟩

end Catalogue.Cells
end TwoPhase
