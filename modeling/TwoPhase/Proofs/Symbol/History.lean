import TwoPhase.Proofs.Symbol.Definition

/-!
# The history of a symbol table

A symbol table is filled by definitions, one after the other, and each of them may be refused.  This
module says what the table is in terms of that history, without the table: the first definition of
a symbol stands for good, every further one is refused and leaves no trace, and the enumerations
list what was not refused in the order in which it came.

## Strategy

Classes and callables are defined apart, so a `Definition` is one or the other, and what it adds to
either enumeration is an optional entry.  One definition either finds its symbol defined and changes
nothing, or it puts its entry at the end (`add_cases`).  From this it follows what it does to every
lookup, and `Records` is what all definitions together do: it holds of the empty table and each
definition preserves it.  A table that starts with a built-in class is the empty table after two
definitions.

A table keeps two maps beside two lists of identifiers, and enumerates by looking the identifiers
up.  The account speaks of what can be read from it: the maps by `class?`, `callables` and
`classCount`, the lists together with the maps by `classes`, `allCallables` and `membersOf`.

## Main results

* `add_cases` — what one definition can do.
* `Records.add`, `Records.after` — the account of a history, kept by one step and by a run.
* `first_definition_stands` — the account for every start and every history.
-/

namespace TwoPhase.SymbolTable

/-! ## Definitions -/

/-- A definition that a table is asked for. -/
inductive Definition where
  | classLike (decl : ClassDecl)
  | callables (id : CallableId) (overloads : List CallableDecl)
deriving DecidableEq, Repr

namespace Definition

/-- The symbol that is to be defined. -/
def symbol : Definition → Descriptor
  | classLike decl => .classLike decl.id
  | callables id _ => .callable id

/-- What is to be stored among the classes. -/
def class? : Definition → Option ClassDecl
  | classLike decl => some decl
  | callables _ _ => none

/-- What is to be stored among the callables. -/
def group? : Definition → Option CallableGroup
  | classLike _ => none
  | callables id overloads => some ⟨id, overloads⟩

/-- The callables that are to be stored. -/
def overloads : Definition → List CallableDecl
  | classLike _ => []
  | callables _ overloads => overloads

theorem flatMap_overloads (ds : List Definition) :
    (ds.filterMap group?).flatMap CallableGroup.overloads = ds.flatMap overloads := by
  induction ds with
  | nil => rfl
  | cons d rest ih =>
      cases d with
      | classLike decl => exact ih
      | callables id overloads => exact congrArg (overloads ++ ·) ih

end Definition

/-- Answers a definition, with the table that it leaves. -/
def define (t : SymbolTable) : Definition → Except DuplicateSymbol Unit × SymbolTable
  | .classLike decl => t.defineClass decl
  | .callables id overloads => t.defineCallables id overloads

/-- The table after a definition, which may have been refused. -/
def add (t : SymbolTable) (d : Definition) : SymbolTable := (t.define d).2

/-- The table after definitions, one after the other. -/
def after (t : SymbolTable) (ds : List Definition) : SymbolTable := ds.foldl add t

/-- The definitions that are not refused, one after the other. -/
def accepted (t : SymbolTable) : List Definition → List Definition
  | [] => []
  | d :: rest =>
      match t.define d with
      | (.ok (), next) => d :: next.accepted rest
      | (.error _, next) => next.accepted rest

/-- The table has a definition of the symbol. -/
def Defines (t : SymbolTable) : Descriptor → Prop
  | .classLike id => id ∈ t.classes.map ClassDecl.id
  | .callable id => id ∈ t.groups.map CallableGroup.id

variable {t : SymbolTable} {d : Definition}

/-! ## One definition -/

/-- A definition is refused exactly when its symbol is defined, and then the table stays as it
is. -/
theorem define_refused_iff {e : DuplicateSymbol} {t' : SymbolTable} :
    t.define d = (.error e, t') ↔ t.Defines d.symbol ∧ e = ⟨d.symbol⟩ ∧ t' = t := by
  cases d with
  | classLike decl => exact defineClass_refused_iff
  | callables id overloads => exact defineCallables_refused_iff

/-- What a successful definition found and what it left behind. -/
theorem define_eq_ok {t' : SymbolTable} (h : t.define d = (.ok (), t')) :
    ¬ t.Defines d.symbol ∧ t'.classes = t.classes ++ [d].filterMap Definition.class? ∧
      t'.groups = t.groups ++ [d].filterMap Definition.group? := by
  cases d with
  | classLike decl =>
      obtain ⟨hNew, hClasses, hGroups⟩ := defineClass_eq_ok h
      exact ⟨hNew, hClasses, hGroups.trans (List.append_nil _).symm⟩
  | callables id overloads =>
      obtain ⟨hNew, hGroups, hClasses⟩ := defineCallables_eq_ok h
      exact ⟨hNew, hClasses.trans (List.append_nil _).symm, hGroups⟩

/-- The refusal alone tells the rest. -/
theorem define_error_iff {e : DuplicateSymbol} :
    (t.define d).1 = .error e ↔ t.Defines d.symbol ∧ e = ⟨d.symbol⟩ := by
  constructor
  · intro h
    obtain ⟨hDefined, hReason, _⟩ := define_refused_iff.1 (Prod.ext h rfl)
    exact ⟨hDefined, hReason⟩
  · rintro ⟨hDefined, hReason⟩
    exact congrArg Prod.fst (define_refused_iff.2 ⟨hDefined, hReason, rfl⟩)

/-- **A definition finds its symbol defined and changes nothing, or it is put at the end.** -/
theorem add_cases (t : SymbolTable) (d : Definition) :
    (t.Defines d.symbol ∧ t.add d = t ∧ t.accepted [d] = []) ∨
      ¬ t.Defines d.symbol ∧ (t.add d).classes = t.classes ++ [d].filterMap Definition.class? ∧
        (t.add d).groups = t.groups ++ [d].filterMap Definition.group? ∧ t.accepted [d] = [d] := by
  rw [add, accepted]
  rcases hDefine : t.define d with ⟨_ | _, next⟩
  · obtain ⟨hDefined, _, hSame⟩ := define_refused_iff.1 hDefine
    exact .inl ⟨hDefined, hSame, rfl⟩
  · obtain ⟨hNew, hClasses, hGroups⟩ := define_eq_ok hDefine
    exact .inr ⟨hNew, hClasses, hGroups, rfl⟩

theorem accepted_cons (rest : List Definition) :
    t.accepted (d :: rest) = t.accepted [d] ++ (t.add d).accepted rest := by
  rw [accepted, accepted, add]
  rcases t.define d with ⟨_ | _, next⟩
  · rfl
  · rfl

/-! ## Reading after one definition -/

/-- What is put behind an entry with the same key is never found. -/
theorem find?_append_of_known {α κ : Type} [DecidableEq κ] {key : α → κ} {items more : List α}
    (hKnown : ∀ a ∈ more, key a ∈ items.map key) (k : κ) :
    (items ++ more).find? (key · == k) = items.find? (key · == k) := by
  rw [List.find?_append]
  cases hFind : items.find? (key · == k) with
  | some a => rfl
  | none =>
      rw [Option.none_or, List.find?_eq_none]
      intro a hMem hKey
      obtain ⟨first, hFirst, hSame⟩ := List.mem_map.1 (hKnown a hMem)
      exact List.find?_eq_none.1 hFind first hFirst (hSame ▸ hKey)

/-- A class is found after a definition as if nothing had been refused. -/
theorem class?_add (t : SymbolTable) (d : Definition) (id : ClassId) :
    (t.add d).class? id = (t.classes ++ [d].filterMap Definition.class?).find? (·.id == id) := by
  rcases add_cases t d with ⟨hKnown, hSame, _⟩ | ⟨_, hClasses, _⟩
  · rw [hSame, find?_append_of_known, class?_eq_find?]
    · intro decl hMem
      cases d with
      | classLike given => exact List.mem_singleton.1 hMem ▸ hKnown
      | callables _ _ => cases hMem
  · rw [class?_eq_find?, hClasses]

theorem group?_add (t : SymbolTable) (d : Definition) (id : CallableId) :
    (t.add d).group? id = (t.groups ++ [d].filterMap Definition.group?).find? (·.id == id) := by
  rcases add_cases t d with ⟨hKnown, hSame, _⟩ | ⟨_, _, hGroups, _⟩
  · rw [hSame, find?_append_of_known, group?_eq_find?]
    · intro group hMem
      cases d with
      | classLike _ => cases hMem
      | callables _ _ => exact List.mem_singleton.1 hMem ▸ hKnown
  · rw [group?_eq_find?, hGroups]

/-- A definition makes its symbol defined, whether or not it is refused. -/
theorem defines_add (t : SymbolTable) (d : Definition) (s : Descriptor) :
    (t.add d).Defines s ↔ t.Defines s ∨ s = d.symbol := by
  rcases add_cases t d with ⟨hKnown, hSame, _⟩ | ⟨_, hClasses, hGroups, _⟩
  · rw [hSame]
    exact ⟨.inl, fun h => h.elim id fun hEq => hEq ▸ hKnown⟩
  · cases s <;> cases d <;>
      simp [Defines, hClasses, hGroups, Definition.symbol, Definition.class?, Definition.group?]

/-- What is accepted is enumerated last. -/
theorem classes_add (t : SymbolTable) (d : Definition) :
    (t.add d).classes = t.classes ++ (t.accepted [d]).filterMap Definition.class? := by
  rcases add_cases t d with ⟨_, hSame, hNone⟩ | ⟨_, hClasses, _, hOne⟩
  · rw [hSame, hNone]
    exact (List.append_nil _).symm
  · rw [hClasses, hOne]

theorem groups_add (t : SymbolTable) (d : Definition) :
    (t.add d).groups = t.groups ++ (t.accepted [d]).filterMap Definition.group? := by
  rcases add_cases t d with ⟨_, hSame, hNone⟩ | ⟨_, _, hGroups, hOne⟩
  · rw [hSame, hNone]
    exact (List.append_nil _).symm
  · rw [hGroups, hOne]

/-- The identifiers of the classes stay distinct and in order of first occurrence. -/
theorem ids_add {ids : List ClassId} (h : t.classes.map ClassDecl.id = Order.distinct ids)
    (d : Definition) : (t.add d).classes.map ClassDecl.id =
      Order.distinct (ids ++ ([d].filterMap Definition.class?).map ClassDecl.id) := by
  rcases add_cases t d with ⟨hDefined, hSame, _⟩ | ⟨hNew, hClasses, _⟩
  · rw [hSame]
    cases d with
    | classLike decl =>
        show _ = Order.distinct (ids ++ [decl.id])
        rw [Order.distinct_concat, ← h, Order.addNew_of_mem hDefined]
    | callables _ _ => exact h.trans (congrArg Order.distinct (List.append_nil ids).symm)
  · rw [hClasses, List.map_append, h]
    cases d with
    | classLike decl =>
        show _ = Order.distinct (ids ++ [decl.id])
        rw [Order.distinct_concat, ← h, Order.addNew_of_not_mem hNew]
        rfl
    | callables _ _ =>
        exact (List.append_nil _).trans (congrArg Order.distinct (List.append_nil ids).symm)

/-! ## The account of a history -/

/-- The table is what came of the definitions that it was asked for, of which it kept some. -/
structure Records (t : SymbolTable) (asked kept : List Definition) : Prop where
  defines : ∀ s, t.Defines s ↔ s ∈ asked.map Definition.symbol
  /-- The first definition of a class is the one that is found. -/
  class? : ∀ id, t.class? id = (asked.filterMap Definition.class?).find? (·.id == id)
  /-- So is the first definition of callables. -/
  group? : ∀ id, t.group? id = (asked.filterMap Definition.group?).find? (·.id == id)
  classes : t.classes = kept.filterMap Definition.class?
  groups : t.groups = kept.filterMap Definition.group?
  /-- Every symbol is kept once, where it occurs first. -/
  symbols : kept.map Definition.symbol = Order.distinct (asked.map Definition.symbol)
  ids : t.classes.map ClassDecl.id =
    Order.distinct ((asked.filterMap Definition.class?).map ClassDecl.id)

variable {asked kept : List Definition}

theorem records_empty : empty.Records [] [] where
  defines s := by
    have hClasses : empty.classes = [] := rfl
    have hGroups : empty.groups = [] := rfl
    cases s <;> simp [Defines, hClasses, hGroups]
  class? _ := rfl
  group? _ := rfl
  classes := rfl
  groups := rfl
  symbols := rfl
  ids := rfl

theorem Records.allCallables (h : t.Records asked kept) :
    t.allCallables = kept.flatMap Definition.overloads := by
  rw [allCallables_eq_flatMap, h.groups, Definition.flatMap_overloads]

/-- **One definition keeps the account.** -/
theorem Records.add (h : t.Records asked kept) (d : Definition) :
    (t.add d).Records (asked ++ [d]) (kept ++ t.accepted [d]) := by
  refine ⟨fun s => ?defines, fun id => ?found, fun id => ?foundGroup, ?classes, ?groups, ?symbols,
    ?ids⟩
  case defines =>
    rw [defines_add, h.defines, List.map_append, List.mem_append, List.map_singleton,
      List.mem_singleton]
  case found =>
    rw [class?_add, List.filterMap_append, List.find?_append, List.find?_append, ← h.class?,
      class?_eq_find?]
  case foundGroup =>
    rw [group?_add, List.filterMap_append, List.find?_append, List.find?_append, ← h.group?,
      group?_eq_find?]
  case classes => rw [classes_add, h.classes, List.filterMap_append]
  case groups => rw [groups_add, h.groups, List.filterMap_append]
  case symbols =>
    have hKnown : d.symbol ∈ Order.distinct (asked.map Definition.symbol) ↔ t.Defines d.symbol :=
      Order.mem_distinct.trans (h.defines d.symbol).symm
    rw [List.map_append, List.map_append, h.symbols, List.map_singleton, Order.distinct_concat]
    rcases add_cases t d with ⟨hDefined, _, hNone⟩ | ⟨hNew, _, _, hOne⟩
    · rw [hNone, Order.addNew_of_mem (hKnown.2 hDefined)]
      exact List.append_nil _
    · rw [hOne, Order.addNew_of_not_mem (mt hKnown.1 hNew)]
      rfl
  case ids =>
    rw [List.filterMap_append, List.map_append]
    exact ids_add h.ids d

/-- **A run of definitions keeps the account.** -/
theorem Records.after (h : t.Records asked kept) (ds : List Definition) :
    (t.after ds).Records (asked ++ ds) (kept ++ t.accepted ds) := by
  induction ds generalizing t asked kept with
  | nil => rwa [accepted, List.append_nil, List.append_nil]
  | cons d rest ih =>
      have hRest := ih (h.add d)
      rw [List.append_assoc, List.append_assoc, ← accepted_cons] at hRest
      exact hRest

/-! ## All histories -/

/-- The tables to start from. -/
inductive Start where
  | empty
  | builtin (decl : ClassDecl) (constructors : List CallableDecl)

/-- The table itself. -/
def Start.table : Start → SymbolTable
  | empty => .empty
  | builtin decl constructors => ofBuiltin decl constructors

/-- The definitions that are already in it. -/
def Start.definitions : Start → List Definition
  | empty => []
  | builtin decl constructors =>
      [.classLike decl, .callables (.constructorOf decl.id) constructors]

theorem Start.records (start : Start) :
    start.table.Records start.definitions start.definitions := by
  cases start with
  | empty => exact records_empty
  | builtin decl constructors =>
      exact records_empty.after (Start.builtin decl constructors).definitions

/-- What can be read from a table, in terms of its history alone. -/
structure Account (t : SymbolTable) (asked kept : List Definition) : Prop where
  /-- What is refused are the symbols that were defined before, and the refusal names the symbol. -/
  refuses : ∀ d e, (t.define d).1 = .error e ↔
    d.symbol ∈ asked.map Definition.symbol ∧ e = ⟨d.symbol⟩
  /-- A refusal leaves maps and lists alone. -/
  unchanged : ∀ d e, (t.define d).1 = .error e → (t.define d).2 = t
  /-- Every symbol is kept once, where it occurs first. -/
  symbols : kept.map Definition.symbol = Order.distinct (asked.map Definition.symbol)
  class? : ∀ id, t.class? id = (asked.filterMap Definition.class?).find? (·.id == id)
  callables : ∀ id, t.callables id =
    ((asked.filterMap Definition.group?).find? (·.id == id)).elim [] CallableGroup.overloads
  class?_later : ∀ id decl later, t.class? id = some decl → (t.after later).class? id = some decl
  callables_later : ∀ id later, t.hasCallables id = true →
    (t.after later).callables id = t.callables id
  classes : t.classes = kept.filterMap Definition.class?
  /-- A class is enumerated exactly if it is found. -/
  enumerated : ∀ decl, decl ∈ t.classes ↔ t.class? decl.id = some decl
  /-- No identifier is enumerated twice, and none is left out. -/
  ids : t.classes.map ClassDecl.id =
    Order.distinct ((asked.filterMap Definition.class?).map ClassDecl.id)
  /-- The size of the map is the length of the enumeration. -/
  count : t.classCount = t.classes.length
  allCallables : t.allCallables = kept.flatMap Definition.overloads
  membersOf : ∀ owner, t.membersOf owner =
    (kept.flatMap Definition.overloads).filter (·.id.owner == some owner)

theorem Records.account (h : t.Records asked kept) : t.Account asked kept where
  refuses d e := by rw [define_error_iff, h.defines]
  unchanged _ _ hRefused := (define_refused_iff.1 (Prod.ext hRefused rfl)).2.2
  symbols := h.symbols
  class? := h.class?
  callables id := by
    rw [callables_eq, h.group?]
  class?_later id decl later hFound := by
    rw [(h.after later).class?, List.filterMap_append, List.find?_append, ← h.class?, hFound]
    rfl
  callables_later id later hDefined := by
    obtain ⟨group, hGroup⟩ := exists_group? hDefined
    have hLater : (t.after later).group? id = some group := by
      rw [(h.after later).group?, List.filterMap_append, List.find?_append, ← h.group?, hGroup]
      rfl
    rw [callables_of_group? hGroup, callables_of_group? hLater]
  classes := h.classes
  enumerated _ := mem_classes
  ids := h.ids
  count := t.classCount_eq
  allCallables := h.allCallables
  membersOf owner := by rw [SymbolTable.membersOf, h.allCallables]

/-- **The first definition of a symbol stands**, from whichever table a history starts. -/
theorem first_definition_stands (start : Start) (history : List Definition) :
    (start.table.after history).Account (start.definitions ++ history)
      (start.definitions ++ start.table.accepted history) :=
  (start.records.after history).account

end TwoPhase.SymbolTable
