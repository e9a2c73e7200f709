import Mathlib.Data.List.Forall2
import TwoPhase.Proofs.Provider.Faithful
import TwoPhase.Proofs.Types.Interning

/-!
# Providers that hold a table

What a provider declares carries type numbers, and numbers depend on what was numbered before.  So
two answers to one question may differ although the provider means the same.  This module says what
it is that a provider means: a row with types in the places where a declaration has numbers.  A
declaration *denotes* a row, in a type table, if its numbers stand there for the types of the row.

A provider is *tabular* if there is one table of rows such that all its answers denote rows of that
table, whenever they are given.

## Main results

* `ClassDecl.Denotes.keeps`, `CallableDecl.Denotes.keeps` — what a declaration denotes does not
  change as further types are numbered.
* `Catalogue.Plain.tabular` — a plain catalogue that names its types is tabular.
-/

namespace TwoPhase

open List (Forall₂)

/-! ## Rows -/

/-- A class with types in place of their numbers. -/
structure ClassRow where
  id : ClassId
  supertype : Option ClassId
  fields : List (Name × Ty)
  origin : Origin
  span : Span
deriving DecidableEq, Repr

/-- A callable with types in place of their numbers. -/
structure CallableRow where
  id : CallableId
  kind : CallableKind
  params : List (Name × Ty)
  returns : Ty
  origin : Origin
  span : Span
deriving DecidableEq, Repr

/-- The declaration is the row, its type numbers read in the given table. -/
structure ClassDecl.Denotes (types : TypeTable) (decl : ClassDecl) (row : ClassRow) : Prop where
  id : decl.id = row.id
  supertype : decl.supertype = row.supertype
  fields : Forall₂ (fun field typed => field.name = typed.1 ∧ types.get? field.type = some typed.2)
    decl.fields row.fields
  origin : decl.origin = row.origin
  span : decl.span = row.span

/-- The declaration is the row, its type numbers read in the given table. -/
structure CallableDecl.Denotes (types : TypeTable) (decl : CallableDecl) (row : CallableRow) :
    Prop where
  id : decl.id = row.id
  kind : decl.kind = row.kind
  params : Forall₂ (fun param typed => param.name = typed.1 ∧ types.get? param.type = some typed.2)
    decl.params row.params
  returns : types.get? decl.returns = some row.returns
  origin : decl.origin = row.origin
  span : decl.span = row.span

section Keeps

variable {types types' : TypeTable} (hKeeps : types.Keeps types')
include hKeeps

theorem ClassDecl.Denotes.keeps {decl : ClassDecl} {row : ClassRow} (h : decl.Denotes types row) :
    decl.Denotes types' row :=
  { h with fields := h.fields.imp fun _ _ hField => ⟨hField.1, hKeeps hField.2⟩ }

theorem CallableDecl.Denotes.keeps {decl : CallableDecl} {row : CallableRow}
    (h : decl.Denotes types row) : decl.Denotes types' row :=
  { h with
    params := h.params.imp fun _ _ hParam => ⟨hParam.1, hKeeps hParam.2⟩
    returns := hKeeps h.returns }

end Keeps

/-! ## Tabular providers -/

/-- The rows of a provider: at most one for every class, and on a class those of every callable
identifier.  The latter may depend on all that the row of the class says. -/
structure DeclarationTable where
  classes : ClassId → Option ClassRow
  members : ClassRow → CallableId → List CallableRow

instance : Inhabited DeclarationTable := ⟨⟨fun _ => none, fun _ _ => []⟩⟩

namespace DeclarationProvider

/-- All answers of the provider denote rows of one table, and no answer changes a type number that
was given out before. -/
structure Holds (p : DeclarationProvider) (table : DeclarationTable) : Prop where
  keeps_class : ∀ id (types : TypeTable), types.Keeps (p.declareClass id types).2
  keeps_members : ∀ id owner (types : TypeTable), types.Keeps (p.declareMembers id owner types).2
  classes : ∀ id types, Option.Rel (ClassDecl.Denotes (p.declareClass id types).2)
    (p.declareClass id types).1 (table.classes id)
  members : ∀ id {owner row types}, owner.Denotes types row →
    Forall₂ (CallableDecl.Denotes (p.declareMembers id owner types).2)
      (p.declareMembers id owner types).1 (table.members row id)

/-- The provider holds some table. -/
def Tabular (p : DeclarationProvider) : Prop := ∃ table, p.Holds table

end DeclarationProvider

/-! ## Catalogues -/

namespace TypeRef

/-- The type that is meant.  A number means the type that it has in every table, if there is one. -/
def meant? : TypeRef → Option Ty
  | named ty => some ty
  | numbered id => TypeTable.initial.get? id

/-- The type that is meant; the unknown type if none is. -/
def meant (ref : TypeRef) : Ty := ref.meant?.getD .unknown

theorem keeps_intern (ref : TypeRef) (types : TypeTable) : types.Keeps (ref.intern types).2 := by
  cases ref with
  | named ty => exact types.keeps_intern ty
  | numbered id => exact .refl types

theorem get?_intern {ref : TypeRef} (hMeant : ref.meant?.isSome = true) (types : TypeTable) :
    (ref.intern types).2.get? (ref.intern types).1 = some ref.meant := by
  cases ref with
  | named ty => exact types.get?_intern ty
  | numbered id =>
      obtain ⟨ty, hTy⟩ := Option.isSome_iff_exists.1 hMeant
      rw [meant, hTy]
      exact types.keeps_initial hTy

theorem keeps_internAll (refs : List TypeRef) (types : TypeTable) :
    types.Keeps (internAll refs types).2 := by
  induction refs generalizing types with
  | nil => exact .refl types
  | cons ref rest ih => exact (ref.keeps_intern types).trans (ih (ref.intern types).2)

theorem denotes_internAll {refs : List TypeRef} (hMeant : ∀ ref ∈ refs, ref.meant?.isSome = true)
    (types : TypeTable) :
    Forall₂ (fun ref id => (internAll refs types).2.get? id = some ref.meant) refs
      (internAll refs types).1 := by
  induction refs generalizing types with
  | nil => exact .nil
  | cons ref rest ih =>
      obtain ⟨hFirst, hRest⟩ := List.forall_mem_cons.1 hMeant
      have hNumber := get?_intern hFirst types
      exact .cons (keeps_internAll rest _ hNumber) (ih hRest (ref.intern types).2)

end TypeRef

namespace Typed

/-- The names with the types that are meant. -/
def rows (groups : List Typed) : List (Name × Ty) :=
  groups.flatMap fun group => group.names.map (·, group.type.meant)

theorem keeps_internAll (groups : List Typed) (types : TypeTable) :
    types.Keeps (internAll groups types).2 :=
  TypeRef.keeps_internAll (groups.map Typed.type) types

theorem denotes_internAll {groups : List Typed}
    (hMeant : ∀ group ∈ groups, group.type.meant?.isSome = true) (types : TypeTable) :
    Forall₂ (fun pair typed => pair.1 = typed.1 ∧
        (internAll groups types).2.get? pair.2 = some typed.2)
      (internAll groups types).1 (rows groups) := by
  have hZip : ∀ (last : TypeTable) (groups : List Typed) (ids : List TypeId),
      Forall₂ (fun group id => last.get? id = some group.type.meant) groups ids →
      Forall₂ (fun pair typed => pair.1 = typed.1 ∧ last.get? pair.2 = some typed.2)
        ((groups.zip ids).flatMap fun pair => pair.1.names.map (·, pair.2)) (rows groups) := by
    intro last groups ids hIds
    induction hIds with
    | nil => exact .nil
    | @cons group id _ _ hFirst _ ih =>
        refine List.rel_append ?_ ih
        rw [List.forall₂_map_left_iff, List.forall₂_map_right_iff, List.forall₂_same]
        exact fun name _ => ⟨rfl, hFirst⟩
  refine hZip _ groups _ (List.forall₂_map_left_iff.1 (TypeRef.denotes_internAll ?_ types))
  exact List.forall_mem_map.2 hMeant

end Typed

/-- The row of a class that is declared so. -/
def ClassSpec.row (spec : ClassSpec) : ClassRow :=
  ⟨spec.id, spec.supertype, Typed.rows spec.fields, spec.origin, spec.span⟩

theorem ClassSpec.keeps_declare (spec : ClassSpec) (types : TypeTable) :
    types.Keeps (spec.declare types).2 :=
  Typed.keeps_internAll spec.fields types

theorem ClassSpec.denotes_declare {spec : ClassSpec}
    (hMeant : ∀ group ∈ spec.fields, group.type.meant?.isSome = true) (types : TypeTable) :
    (spec.declare types).1.Denotes (spec.declare types).2 spec.row where
  id := rfl
  supertype := rfl
  fields := List.forall₂_map_left_iff.2 (Typed.denotes_internAll hMeant types)
  origin := rfl
  span := rfl

namespace CallableSpec

/-- The row of a callable that is declared so under an identifier. -/
def row (spec : CallableSpec) (id : CallableId) : CallableRow :=
  ⟨spec.id.getD id, spec.kind, Typed.rows spec.params, spec.returns.meant, spec.origin, spec.span⟩

/-- All types that the callable mentions are meant. -/
def Meant (spec : CallableSpec) : Prop :=
  (∀ group ∈ spec.params, group.type.meant?.isSome = true) ∧ spec.returns.meant?.isSome = true

instance (spec : CallableSpec) : Decidable spec.Meant :=
  inferInstanceAs (Decidable (_ ∧ _))

theorem keeps_declare (spec : CallableSpec) (id : CallableId) (types : TypeTable) :
    types.Keeps (spec.declare id types).2 :=
  (Typed.keeps_internAll spec.params types).trans (spec.returns.keeps_intern _)

theorem denotes_declare {spec : CallableSpec} (hMeant : spec.Meant) (id : CallableId)
    (types : TypeTable) :
    (spec.declare id types).1.Denotes (spec.declare id types).2 (spec.row id) := by
  have hReturns := spec.returns.keeps_intern (Typed.internAll spec.params types).2
  refine ⟨rfl, rfl, List.forall₂_map_left_iff.2 ?_, TypeRef.get?_intern hMeant.2 _, rfl, rfl⟩
  -- the return type is numbered after the parameters
  exact (Typed.denotes_internAll hMeant.1 types).imp fun _ _ h => ⟨h.1, hReturns h.2⟩

theorem keeps_declareAll (id : CallableId) (specs : List CallableSpec) (types : TypeTable) :
    types.Keeps (declareAll id specs types).2 := by
  induction specs generalizing types with
  | nil => exact .refl types
  | cons spec rest ih => exact (spec.keeps_declare id types).trans (ih (spec.declare id types).2)

theorem denotes_declareAll {specs : List CallableSpec} (hMeant : ∀ spec ∈ specs, spec.Meant)
    (id : CallableId) (types : TypeTable) :
    Forall₂ (CallableDecl.Denotes (declareAll id specs types).2) (declareAll id specs types).1
      (specs.map (·.row id)) := by
  induction specs generalizing types with
  | nil => exact .nil
  | cons spec rest ih =>
      obtain ⟨hFirst, hRest⟩ := List.forall_mem_cons.1 hMeant
      have hDecl := denotes_declare hFirst id types
      exact .cons (hDecl.keeps (keeps_declareAll id rest _)) (ih hRest (spec.declare id types).2)

end CallableSpec

namespace Catalogue

/-- A catalogue whose declarations mention types by their names, or by numbers that are in every
table. -/
structure Meant (c : Catalogue) : Prop where
  classes : ∀ entry ∈ c.classes, ∀ spec ∈ entry.answer,
    ∀ group ∈ spec.fields, group.type.meant?.isSome = true
  members : ∀ entry ∈ c.members, entry.spec.Meant

instance (c : Catalogue) : Decidable c.Meant :=
  decidable_of_iff
    ((∀ entry ∈ c.classes, ∀ spec ∈ entry.answer,
        ∀ group ∈ spec.fields, group.type.meant?.isSome = true) ∧
      ∀ entry ∈ c.members, entry.spec.Meant)
    ⟨fun h => ⟨h.1, h.2⟩, fun h => ⟨h.classes, h.members⟩⟩

/-- The rows of a catalogue. -/
def table (c : Catalogue) : DeclarationTable where
  classes id := ((c.classes.find? (·.id == id)).bind ClassEntry.answer).map ClassSpec.row
  members owner id :=
    (c.members.filter fun entry => entry.owner == owner.id && entry.name == id.name).map
      fun entry => entry.spec.row id

/-- A plain catalogue is a provider that holds its rows. -/
theorem Plain.holds {c : Catalogue} (hPlain : c.Plain) (hMeant : c.Meant) :
    c.provider.Holds c.table where
  keeps_class := by
    intro id types
    show types.Keeps (c.declareClass id types).2
    rw [declareClass]
    split
    · exact .refl types
    · rename_i entry _
      have hInterns := TypeRef.keeps_internAll entry.interns types
      cases entry.answer with
      | none => exact hInterns
      | some spec => exact hInterns.trans (spec.keeps_declare _)
  keeps_members := by
    intro id owner types
    exact CallableSpec.keeps_declareAll id _ types
  classes := by
    intro id types
    show Option.Rel (ClassDecl.Denotes (c.declareClass id types).2) (c.declareClass id types).1
      (((c.classes.find? (·.id == id)).bind ClassEntry.answer).map ClassSpec.row)
    rw [declareClass, hPlain.find?_eq]
    cases hFind : c.classes.find? (·.id == id) with
    | none => exact .none
    | some entry =>
        have hEntry := hMeant.classes entry (List.mem_of_find?_eq_some hFind)
        cases hAnswer : entry.answer with
        | none => simp only [hAnswer, Option.bind_some, Option.map_none]; exact .none
        | some spec =>
            simp only [hAnswer, Option.bind_some, Option.map_some]
            exact .some (ClassSpec.denotes_declare (hEntry spec hAnswer) _)
  members := by
    intro id owner row types hOwner
    show Forall₂ _ _ ((c.members.filter fun entry =>
      entry.owner == row.id && entry.name == id.name).map fun entry => entry.spec.row id)
    rw [← hOwner.id]
    have hSpecs : ∀ spec ∈ (c.members.filter fun entry =>
        entry.owner == owner.id && entry.name == id.name).map MemberEntry.spec, spec.Meant := by
      intro spec hSpec
      obtain ⟨entry, hEntry, rfl⟩ := List.mem_map.1 hSpec
      exact hMeant.members entry (List.mem_filter.1 hEntry).1
    have hRows := CallableSpec.denotes_declareAll hSpecs id types
    rw [List.map_map] at hRows
    exact hRows

/-- So a plain catalogue is tabular. -/
theorem Plain.tabular {c : Catalogue} (hPlain : c.Plain) (hMeant : c.Meant) : c.provider.Tabular :=
  ⟨c.table, hPlain.holds hMeant⟩

end Catalogue
end TwoPhase
