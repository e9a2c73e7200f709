import Mathlib.Data.List.Nodup
import TwoPhase.Symbol.Table

/-!
# Looking up what was defined

A symbol table finds by identifier (`class?`, `group?`) what it enumerates in the order of
definition (`classes`, `groups`).  Finding asks a map, enumerating walks through a list of
identifiers and asks the map for each of them.  This module connects the two, so that a table can be
thought of as two lists with distinct identifiers, and says what one definition does to every
lookup: it adds the new identifier and changes nothing else, or it changes nothing at all.

## Main results

* `eq_of_lists` — a table is known by its two enumerations.
* `class?_eq_find?`, `group?_eq_find?` — to ask the maps comes to the same as to search the lists.
* `class?_eq_some_iff`, `group?_eq_some_iff` — a lookup finds exactly the entry that the
  enumeration holds under the identifier.
* `defineClass_refused_iff`, `defineClass_eq_ok`, and the same for callables — when a definition is
  refused, and what it does otherwise.
* `class?_defineClass`, `group?_defineCallables`, `hasCallables_defineCallables` — reading after
  writing.
-/

namespace TwoPhase.SymbolTable

/-! ## Lookups and enumerations -/

/-- Among entries with distinct keys, the first one with a key is the only one. -/
theorem find?_key_eq_some_iff {α κ : Type} [DecidableEq κ] {key : α → κ}
    {items : List α} (hNodup : (items.map key).Nodup) {k : κ} {a : α} :
    items.find? (key · == k) = some a ↔ a ∈ items ∧ key a = k := by
  constructor
  · intro h
    exact ⟨List.mem_of_find?_eq_some h, by simpa using List.find?_some h⟩
  · rintro ⟨hMem, hKey⟩
    induction items with
    | nil => cases hMem
    | cons first rest ih =>
        rw [List.map_cons, List.nodup_cons] at hNodup
        rcases List.mem_cons.1 hMem with rfl | hRest
        · simp [hKey]
        · have hNe : key first ≠ k := by
            intro hFirst
            refine hNodup.1 ?_
            rw [hFirst, ← hKey]
            exact List.mem_map_of_mem hRest
          rw [List.find?_cons_of_neg (by simpa using hNe)]
          exact ih hNodup.2 hRest

/-- So is the last one. -/
theorem find?_reverse_key_eq_some_iff {α κ : Type} [DecidableEq κ] {key : α → κ}
    {items : List α} (hNodup : (items.map key).Nodup) {k : κ} {a : α} :
    items.reverse.find? (key · == k) = some a ↔ a ∈ items ∧ key a = k := by
  have hReverse : (items.reverse.map key).Nodup := by
    rw [List.map_reverse, List.nodup_reverse]
    exact hNodup
  rw [find?_key_eq_some_iff hReverse, List.mem_reverse]

variable {t t' : SymbolTable}

theorem mem_classes {decl : ClassDecl} : decl ∈ t.classes ↔ t.class? decl.id = some decl := by
  rw [classes, Order.Roster.values_eq, List.mem_map]
  constructor
  · rintro ⟨⟨id, found⟩, hEntry, rfl⟩
    have hFound := Order.Roster.get?_eq_some_iff.2 hEntry
    obtain rfl := t.own id found hFound
    exact hFound
  · intro h
    exact ⟨(decl.id, decl), Order.Roster.get?_eq_some_iff.1 h, rfl⟩

theorem class?_eq_some_iff {id : ClassId} {decl : ClassDecl} :
    t.class? id = some decl ↔ decl ∈ t.classes ∧ decl.id = id := by
  rw [mem_classes]
  constructor
  · intro h
    obtain rfl := t.own id decl h
    exact ⟨h, rfl⟩
  · rintro ⟨h, rfl⟩
    exact h

/-- A declaration is stored under its own identifier. -/
theorem id_of_class? {id : ClassId} {decl : ClassDecl} (h : t.class? id = some decl) :
    decl.id = id :=
  (class?_eq_some_iff.1 h).2

/-- The list of identifiers that classes are enumerated by. -/
theorem classes_ids (t : SymbolTable) : t.classes.map ClassDecl.id = t.classRoster.order := by
  rw [classes, Order.Roster.values_eq, Order.Roster.order_eq, List.map_map]
  refine List.map_congr_left fun entry hEntry => ?_
  exact t.own entry.1 entry.2 (Order.Roster.get?_eq_some_iff.2 hEntry)

theorem groups_ids (t : SymbolTable) :
    t.groups.map CallableGroup.id = t.callableRoster.order := by
  rw [groups, Order.Roster.order_eq, List.map_map]
  rfl

/-- No class is enumerated twice. -/
theorem classes_nodup (t : SymbolTable) : (t.classes.map ClassDecl.id).Nodup :=
  t.classes_ids ▸ t.classRoster.nodup_order

theorem groups_nodup (t : SymbolTable) : (t.groups.map CallableGroup.id).Nodup :=
  t.groups_ids ▸ t.callableRoster.nodup_order

/-- There are as many classes as are enumerated. -/
theorem classCount_eq (t : SymbolTable) : t.classCount = t.classes.length :=
  t.classRoster.size_eq

theorem group?_eq_some_iff {id : CallableId} {group : CallableGroup} :
    t.group? id = some group ↔ group ∈ t.groups ∧ group.id = id := by
  rw [group?, groups, Option.map_eq_some_iff, List.mem_map]
  simp only [Order.Roster.get?_eq_some_iff]
  constructor
  · rintro ⟨overloads, hEntry, rfl⟩
    exact ⟨⟨(id, overloads), hEntry, rfl⟩, rfl⟩
  · rintro ⟨⟨⟨_, overloads⟩, hEntry, rfl⟩, rfl⟩
    exact ⟨overloads, hEntry, rfl⟩

/-- **To ask the map for a class comes to the same as to search the enumeration.** -/
theorem class?_eq_find? (t : SymbolTable) (id : ClassId) :
    t.class? id = t.classes.find? (·.id == id) := by
  ext decl
  rw [class?_eq_some_iff, find?_key_eq_some_iff t.classes_nodup]

/-- **To ask the map for callables comes to the same as to search the enumeration.** -/
theorem group?_eq_find? (t : SymbolTable) (id : CallableId) :
    t.group? id = t.groups.find? (·.id == id) := by
  ext group
  rw [group?_eq_some_iff, find?_key_eq_some_iff t.groups_nodup]

/-- **A table is known by what it enumerates.** -/
theorem eq_of_lists (hClasses : t.classes = t'.classes) (hGroups : t.groups = t'.groups) :
    t = t' := by
  have hKnown : ∀ s : SymbolTable, s.classRoster.entries = s.classes.map fun d => (d.id, d) := by
    intro s
    rw [classes, Order.Roster.values_eq, List.map_map]
    refine (List.map_id _).symm.trans (List.map_congr_left fun entry hEntry => ?_)
    have hOwn := s.own entry.1 entry.2 (Order.Roster.get?_eq_some_iff.2 hEntry)
    exact Prod.ext hOwn.symm rfl
  have hListed : ∀ s : SymbolTable,
      s.callableRoster.entries = s.groups.map fun g => (g.id, g.overloads) := by
    intro s
    rw [groups, List.map_map]
    exact (List.map_id _).symm
  have hClassRoster : t.classRoster = t'.classRoster :=
    Order.Roster.eq_of_entries (by rw [hKnown, hKnown, hClasses])
  have hCallableRoster : t.callableRoster = t'.callableRoster :=
    Order.Roster.eq_of_entries (by rw [hListed, hListed, hGroups])
  obtain ⟨_, _, _⟩ := t
  cases hClassRoster
  cases hCallableRoster
  rfl

theorem class?_isSome_iff {id : ClassId} :
    (t.class? id).isSome = true ↔ id ∈ t.classes.map ClassDecl.id := by
  simp [class?_eq_find?]

theorem hasCallables_eq (t : SymbolTable) (id : CallableId) :
    t.hasCallables id = (t.group? id).isSome :=
  Option.isSome_map.symm

theorem hasCallables_iff {id : CallableId} :
    t.hasCallables id = true ↔ id ∈ t.groups.map CallableGroup.id := by
  simp [hasCallables_eq, group?_eq_find?]

theorem exists_group? {id : CallableId} (h : t.hasCallables id = true) :
    ∃ group, t.group? id = some group := by
  rwa [hasCallables_eq, Option.isSome_iff_exists] at h

theorem callables_eq (t : SymbolTable) (id : CallableId) :
    t.callables id = (t.group? id).elim [] CallableGroup.overloads := by
  rw [callables, group?]
  cases t.callableRoster.get? id <;> rfl

theorem callables_of_group? {id : CallableId} {group : CallableGroup}
    (h : t.group? id = some group) : t.callables id = group.overloads := by
  rw [callables_eq, h]
  rfl

theorem allCallables_eq_flatMap (t : SymbolTable) :
    t.allCallables = t.groups.flatMap CallableGroup.overloads := by
  rw [allCallables, groups, Order.Roster.values_eq, List.flatMap_map]
  rfl

theorem mem_allCallables {c : CallableDecl} :
    c ∈ t.allCallables ↔ ∃ group ∈ t.groups, c ∈ group.overloads := by
  simp [allCallables_eq_flatMap]

theorem class?_ofBuiltin (decl : ClassDecl) (constructors : List CallableDecl) (id : ClassId) :
    (ofBuiltin decl constructors).class? id = if id = decl.id then some decl else none :=
  Order.Roster.get?_single _ _ id

/-! ## Defining a class -/

/-- A class is refused exactly when its identifier is defined, and then the table stays as it is. -/
theorem defineClass_refused_iff {decl : ClassDecl} {e : DuplicateSymbol} :
    t.defineClass decl = (.error e, t') ↔
      decl.id ∈ t.classes.map ClassDecl.id ∧ e = ⟨.classLike decl.id⟩ ∧ t' = t := by
  rw [classes_ids, ← Order.Roster.contains_iff, defineClass]
  split
  · rename_i h
    simp [h, eq_comm]
  · rename_i h
    simp [h]

/-- What a successful definition of a class found and what it left behind. -/
theorem defineClass_eq_ok {decl : ClassDecl} (h : t.defineClass decl = (.ok (), t')) :
    decl.id ∉ t.classes.map ClassDecl.id ∧ t'.classes = t.classes ++ [decl] ∧
      t'.groups = t.groups := by
  rw [classes_ids, ← Order.Roster.contains_iff]
  rw [defineClass] at h
  split at h
  · cases h
  · rename_i hNew
    cases h
    refine ⟨Bool.not_eq_true _ ▸ hNew, ?_, rfl⟩
    rw [classes, classes, Order.Roster.values_eq, Order.Roster.values_eq,
      Order.Roster.entries_add, List.map_append]
    rfl

/-- A class can be defined under an identifier that has none. -/
theorem exists_defineClass_eq_ok {decl : ClassDecl}
    (h : decl.id ∉ t.classes.map ClassDecl.id) : ∃ t', t.defineClass decl = (.ok (), t') := by
  rcases hDefined : t.defineClass decl with ⟨_ | _, t'⟩
  · exact absurd (defineClass_refused_iff.1 hDefined).1 h
  · exact ⟨t', rfl⟩

/-- Reading a class after defining one. -/
theorem class?_defineClass {decl : ClassDecl} (h : t.defineClass decl = (.ok (), t'))
    (id : ClassId) : t'.class? id = if decl.id = id then some decl else t.class? id := by
  rw [defineClass] at h
  split at h
  · cases h
  · cases h
    rw [class?, Order.Roster.get?_add]
    exact if_congr eq_comm rfl rfl

/-- A class definition does not touch the callables. -/
theorem group?_defineClass {decl : ClassDecl} (h : t.defineClass decl = (.ok (), t'))
    (id : CallableId) : t'.group? id = t.group? id := by
  rw [group?_eq_find?, group?_eq_find?, (defineClass_eq_ok h).2.2]

theorem hasCallables_defineClass {decl : ClassDecl} (h : t.defineClass decl = (.ok (), t'))
    (id : CallableId) : t'.hasCallables id = t.hasCallables id := by
  rw [hasCallables_eq, hasCallables_eq, group?_defineClass h]

/-! ## Defining callables -/

variable {id : CallableId} {overloads : List CallableDecl}

/-- A group of callables is refused exactly when its identifier is defined, and then the table stays
as it is. -/
theorem defineCallables_refused_iff {e : DuplicateSymbol} :
    t.defineCallables id overloads = (.error e, t') ↔
      id ∈ t.groups.map CallableGroup.id ∧ e = ⟨.callable id⟩ ∧ t' = t := by
  rw [groups_ids, ← Order.Roster.contains_iff, defineCallables]
  split
  · rename_i h
    simp [h, eq_comm]
  · rename_i h
    simp [h]

/-- What a successful definition of callables found and what it left behind. -/
theorem defineCallables_eq_ok (h : t.defineCallables id overloads = (.ok (), t')) :
    id ∉ t.groups.map CallableGroup.id ∧ t'.groups = t.groups ++ [⟨id, overloads⟩] ∧
      t'.classes = t.classes := by
  rw [groups_ids, ← Order.Roster.contains_iff]
  rw [defineCallables] at h
  split at h
  · cases h
  · rename_i hNew
    cases h
    refine ⟨Bool.not_eq_true _ ▸ hNew, ?_, rfl⟩
    rw [groups, groups, Order.Roster.entries_add, List.map_append]
    rfl

/-- Callables can be defined under an identifier that has none. -/
theorem exists_defineCallables_eq_ok (overloads : List CallableDecl)
    (h : t.hasCallables id = false) : ∃ t', t.defineCallables id overloads = (.ok (), t') := by
  rcases hDefined : t.defineCallables id overloads with ⟨_ | _, t'⟩
  · rw [← Bool.not_eq_true, hasCallables_iff] at h
    exact absurd (defineCallables_refused_iff.1 hDefined).1 h
  · exact ⟨t', rfl⟩

/-- Reading a group of callables after defining one. -/
theorem group?_defineCallables (h : t.defineCallables id overloads = (.ok (), t'))
    (other : CallableId) :
    t'.group? other = if id = other then some ⟨id, overloads⟩ else t.group? other := by
  rw [defineCallables] at h
  split at h
  · cases h
  · cases h
    rw [group?, Order.Roster.get?_add]
    by_cases hId : id = other
    · rw [if_pos hId, if_pos hId.symm, hId]
      rfl
    · rw [if_neg hId, if_neg (Ne.symm hId)]
      rfl

/-- What was defined is what is stored. -/
theorem callables_defineCallables (h : t.defineCallables id overloads = (.ok (), t')) :
    t'.callables id = overloads := by
  rw [callables_eq, group?_defineCallables h, if_pos rfl]
  rfl

/-- Which identifiers have callables after defining some. -/
theorem hasCallables_defineCallables (h : t.defineCallables id overloads = (.ok (), t'))
    (other : CallableId) :
    t'.hasCallables other = true ↔ id = other ∨ t.hasCallables other = true := by
  rw [hasCallables_iff, hasCallables_iff, (defineCallables_eq_ok h).2.1, List.map_append,
    List.mem_append, or_comm, List.map_singleton, List.mem_singleton, eq_comm]

/-- A definition of callables does not touch the classes. -/
theorem class?_defineCallables (h : t.defineCallables id overloads = (.ok (), t'))
    (classId : ClassId) : t'.class? classId = t.class? classId := by
  rw [class?_eq_find?, class?_eq_find?, (defineCallables_eq_ok h).2.2]

end TwoPhase.SymbolTable
