import TwoPhase.Ir.Body
import TwoPhase.Ir.Layout
import TwoPhase.Order.First
import TwoPhase.Order.Places

/-!
# Modules

A lowered program: bodies and class layouts in the order in which they were added. Nothing is
ever taken out. Of several bodies for one callable, or several layouts of one class, a lookup
finds the one that was added last. It does not search for it: the places of bodies and layouts
are kept in two indices, and every addition enters its place.
-/

namespace TwoPhase.Ir

/-- The bodies and layouts of one compilation. -/
structure Module where
  name : String
  bodies : List Body
  classes : List ClassLayout
  /-- Under each callable the place of its body. -/
  bodyPlaces : Order.Places CallableId := .of (bodies.map Body.callable)
  /-- Under each class the place of its layout. -/
  classPlaces : Order.Places ClassId := .of (classes.map ClassLayout.id)
  bodyPlaces_eq : bodyPlaces = .of (bodies.map Body.callable) := by rfl
  classPlaces_eq : classPlaces = .of (classes.map ClassLayout.id) := by rfl
deriving DecidableEq, Repr

namespace Module

/-- The module that holds nothing. -/
def start (name : String) : Module where
  name := name
  bodies := []
  classes := []

/-- Adds a body. -/
def addBody (m : Module) (body : Body) : Module :=
  { m with
    bodies := m.bodies ++ [body]
    bodyPlaces := m.bodyPlaces.insert body.callable m.bodies.length
    bodyPlaces_eq := by
      rw [List.map_append, List.map_singleton, Order.Places.of_concat, List.length_map,
        m.bodyPlaces_eq] }

/-- Adds a class layout. -/
def addClass (m : Module) (layout : ClassLayout) : Module :=
  { m with
    classes := m.classes ++ [layout]
    classPlaces := m.classPlaces.insert layout.id m.classes.length
    classPlaces_eq := by
      rw [List.map_append, List.map_singleton, Order.Places.of_concat, List.length_map,
        m.classPlaces_eq] }

/-- The module to which layouts and then bodies were added, in the given order. -/
def ofLists (name : String) (classes : List ClassLayout) (bodies : List Body) : Module :=
  bodies.foldl addBody (classes.foldl addClass (start name))

/-- The body of a callable: the last one added for it. -/
def body? (m : Module) (callable : CallableId) : Option Body :=
  (m.bodyPlaces.get? callable).bind (m.bodies[·]?)

/-- The layout of a class: the last one added for it. -/
def class? (m : Module) (id : ClassId) : Option ClassLayout :=
  (m.classPlaces.get? id).bind (m.classes[·]?)

/-- The number of instructions in all bodies. -/
def instructionCount (m : Module) : Nat :=
  m.bodies.foldr (fun body count => body.instructionCount + count) 0

/-- The indices of a module follow from what it holds. -/
theorem eq_of_lists {m m' : Module} (hName : m.name = m'.name) (hBodies : m.bodies = m'.bodies)
    (hClasses : m.classes = m'.classes) : m = m' := by
  obtain ⟨name, bodies, classes, _, _, rfl, rfl⟩ := m
  obtain ⟨name', bodies', classes', _, _, rfl, rfl⟩ := m'
  cases hName
  cases hBodies
  cases hClasses
  rfl

theorem foldl_addBody (m : Module) (bodies : List Body) :
    (bodies.foldl addBody m).name = m.name ∧
      (bodies.foldl addBody m).bodies = m.bodies ++ bodies ∧
      (bodies.foldl addBody m).classes = m.classes := by
  induction bodies generalizing m with
  | nil => exact ⟨rfl, (List.append_nil _).symm, rfl⟩
  | cons body rest ih =>
      obtain ⟨hName, hBodies, hClasses⟩ := ih (m.addBody body)
      exact ⟨hName, hBodies.trans (List.append_assoc m.bodies [body] rest), hClasses⟩

theorem foldl_addClass (m : Module) (layouts : List ClassLayout) :
    (layouts.foldl addClass m).name = m.name ∧
      (layouts.foldl addClass m).bodies = m.bodies ∧
      (layouts.foldl addClass m).classes = m.classes ++ layouts := by
  induction layouts generalizing m with
  | nil => exact ⟨rfl, rfl, (List.append_nil _).symm⟩
  | cons layout rest ih =>
      obtain ⟨hName, hBodies, hClasses⟩ := ih (m.addClass layout)
      exact ⟨hName, hBodies, hClasses.trans (List.append_assoc m.classes [layout] rest)⟩

/-- A module holds what was added to it. -/
theorem ofLists_holds (name : String) (classes : List ClassLayout) (bodies : List Body) :
    (ofLists name classes bodies).name = name ∧ (ofLists name classes bodies).bodies = bodies ∧
      (ofLists name classes bodies).classes = classes := by
  obtain ⟨hName, hBodies, hClasses⟩ := foldl_addClass (start name) classes
  obtain ⟨hName', hBodies', hClasses'⟩ := foldl_addBody (classes.foldl addClass (start name)) bodies
  refine ⟨hName'.trans hName, hBodies'.trans ?_, hClasses'.trans hClasses⟩
  rw [hBodies]
  rfl

/-- **A lookup through the index is a search of the bodies from the end.** -/
theorem body?_eq_find? (m : Module) (callable : CallableId) :
    m.body? callable = m.bodies.reverse.find? (·.callable == callable) := by
  rw [body?, m.bodyPlaces_eq, Order.Places.getElem?_get?_of]

/-- **A lookup through the index is a search of the layouts from the end.** -/
theorem class?_eq_find? (m : Module) (id : ClassId) :
    m.class? id = m.classes.reverse.find? (·.id == id) := by
  rw [class?, m.classPlaces_eq, Order.Places.getElem?_get?_of]

/-- A lookup finds the last body of the callable. -/
theorem body?_eq_some_iff_last {m : Module} {callable : CallableId} {body : Body} :
    m.body? callable = some body ↔ Order.Last (·.callable = callable) m.bodies body := by
  simp only [body?_eq_find?, Order.find?_reverse_eq_some_iff_last, beq_iff_eq]

/-- A lookup finds the last layout of the class. -/
theorem class?_eq_some_iff_last {m : Module} {id : ClassId} {layout : ClassLayout} :
    m.class? id = some layout ↔ Order.Last (·.id = id) m.classes layout := by
  simp only [class?_eq_find?, Order.find?_reverse_eq_some_iff_last, beq_iff_eq]

/-- What a lookup finds was added, and for what is looked up. -/
theorem mem_of_body? {m : Module} {callable : CallableId} {body : Body}
    (h : m.body? callable = some body) : body ∈ m.bodies ∧ body.callable = callable := by
  have hLast := body?_eq_some_iff_last.1 h
  exact ⟨hLast.mem, hLast.prop⟩

theorem mem_of_class? {m : Module} {id : ClassId} {layout : ClassLayout}
    (h : m.class? id = some layout) : layout ∈ m.classes ∧ layout.id = id := by
  have hLast := class?_eq_some_iff_last.1 h
  exact ⟨hLast.mem, hLast.prop⟩

/-- A body that was just added is the one found for its callable, and no other lookup changes. -/
theorem body?_addBody (m : Module) (body : Body) (callable : CallableId) :
    (m.addBody body).body? callable =
      if body.callable = callable then some body else m.body? callable := by
  rw [body?_eq_find?, body?_eq_find?]
  by_cases h : body.callable = callable <;> simp [addBody, h]

/-- A layout that was just added is the one found for its class, and no other lookup changes. -/
theorem class?_addClass (m : Module) (layout : ClassLayout) (id : ClassId) :
    (m.addClass layout).class? id = if layout.id = id then some layout else m.class? id := by
  rw [class?_eq_find?, class?_eq_find?]
  by_cases h : layout.id = id <;> simp [addClass, h]

end Module
end TwoPhase.Ir
