import TwoPhase.Build.Integration
import TwoPhase.Proofs.Order.Growth

/-!
# Requests to a compilation

A build prepares a compilation by requests: it adds dependencies, asks for plugins and applies the
integration of a plugin, in any order and as often as it likes.  Each request wants a dependency, a
plugin or both to be listed, and brings about no more than that.

## Strategy

Whether a dependency is new is decided by comparing whole dependencies, and whether a compilation
has it by comparing coordinates and scope.  The two tests agree (`hasDependency_iff`), so adding a
dependency is `Order.addNew`, as asking for a plugin is.  Therefore a request appends what it wants
to either list unless it is there (`serve_eq`), and after a run of requests the lists hold what was
wanted, each where it was first wanted (`Lists`).  All that is claimed of a compilation is read off
the history of its requests.

## Main results

* `Lists.serve`, `Lists.after` — what the lists hold, kept by one request and by a run.
* `Lists.serve_again` — a request that was served before changes nothing.
* `requests_listed_once` — the account of every run of requests.
-/

namespace TwoPhase.Build

/-- What a build can do to a compilation. -/
inductive Request where
  | dependency (d : Dependency)
  | plugin (id : String)
  /-- The integration of the plugin with this identity is applied. -/
  | integration (identity : Identity)
deriving DecidableEq, Repr

/-- The dependency of generated code on the run-time library. -/
def runtimeDependency (identity : Identity) : Dependency :=
  ⟨runtimeArtifact identity, .implementation⟩

namespace Request

/-- The dependency that is to be listed. -/
def dependency? : Request → Option Dependency
  | dependency d => some d
  | plugin _ => none
  | integration identity => some (runtimeDependency identity)

/-- The plugin that is to be listed. -/
def plugin? : Request → Option String
  | dependency _ => none
  | plugin id => some id
  | integration identity => some identity.id

end Request

namespace Compilation

/-- The compilation after a request. -/
def serve (c : Compilation) : Request → Compilation
  | .dependency d => (c.addDependency d).2
  | .plugin id => c.requestPlugin id
  | .integration identity => (apply identity c).2

/-- The compilation after requests, one after the other. -/
def after (c : Compilation) (requests : List Request) : Compilation := requests.foldl serve c

variable {c : Compilation} {name : String} {asked : List Request}

/-! ## One request -/

/-- The search by coordinates and scope finds what a search for the dependency finds. -/
theorem hasDependency_iff {d : Dependency} : c.hasDependency d = true ↔ d ∈ c.dependencies := by
  rw [hasDependency, List.any_eq_true]
  constructor
  · rintro ⟨⟨coordinates, scope⟩, hMem, hSame⟩
    obtain ⟨rfl, rfl⟩ := Bool.and_eq_true_iff.1 hSame |>.imp eq_of_beq eq_of_beq
    exact hMem
  · exact fun hMem => ⟨d, hMem, by rw [BEq.rfl, BEq.rfl, Bool.and_self]⟩

theorem addDependency_eq (d : Dependency) : c.addDependency d =
    (!c.hasDependency d, { c with dependencies := Order.addNew c.dependencies d }) := by
  by_cases hMem : d ∈ c.dependencies
  · rw [addDependency, if_pos (List.contains_iff_mem.2 hMem), Order.addNew_of_mem hMem,
      hasDependency_iff.2 hMem]
    rfl
  · rw [addDependency, if_neg (mt List.contains_iff_mem.1 hMem), Order.addNew_of_not_mem hMem,
      Bool.eq_false_iff.2 (mt hasDependency_iff.1 hMem)]
    rfl

/-- After an addition the compilation has the new dependency and those that it had. -/
theorem hasDependency_addDependency {d other : Dependency} :
    (c.addDependency d).2.hasDependency other = true ↔
      other = d ∨ c.hasDependency other = true := by
  rw [addDependency_eq, hasDependency_iff, hasDependency_iff, Order.mem_addNew, or_comm]

theorem apply_eq (identity : Identity) :
    apply identity c = ([], c.serve (.integration identity)) := rfl

/-- **A request puts what it wants at the end of the lists**, unless it is there. -/
theorem serve_eq (c : Compilation) (r : Request) : c.serve r =
    { c with
      dependencies := r.dependency?.toList.foldl Order.addNew c.dependencies
      requestedPlugins := r.plugin?.toList.foldl Order.addNew c.requestedPlugins } := by
  cases r with
  | dependency d => rw [serve, addDependency_eq]; rfl
  | plugin id => rfl
  | integration identity => rw [serve, apply, addDependency_eq]; rfl

/-! ## A run of requests -/

/-- The compilation lists what was wanted, each where it was first wanted. -/
structure Lists (c : Compilation) (name : String) (asked : List Request) : Prop where
  name_eq : c.name = name
  dependencies : c.dependencies = Order.distinct (asked.filterMap Request.dependency?)
  plugins : c.requestedPlugins = Order.distinct (asked.filterMap Request.plugin?)

theorem lists_start (name : String) : (start name).Lists name [] := ⟨rfl, rfl, rfl⟩

/-- **One request keeps the lists.** -/
theorem Lists.serve (h : c.Lists name asked) (r : Request) :
    (c.serve r).Lists name (asked ++ [r]) := by
  have hList : ∀ {α : Type} [DecidableEq α] (wanted? : Request → Option α),
      (wanted? r).toList.foldl Order.addNew (Order.distinct (asked.filterMap wanted?)) =
        Order.distinct ((asked ++ [r]).filterMap wanted?) := by
    intro α _ wanted?
    rw [List.filterMap_append, Order.distinct, Order.distinct, List.foldl_append]
    cases hWanted : wanted? r <;> simp [hWanted]
  rw [serve_eq, h.dependencies, h.plugins]
  exact ⟨h.name_eq, hList Request.dependency?, hList Request.plugin?⟩

/-- **A run of requests keeps the lists.** -/
theorem Lists.after (h : c.Lists name asked) (requests : List Request) :
    (c.after requests).Lists name (asked ++ requests) := by
  induction requests generalizing c asked with
  | nil => rwa [List.append_nil]
  | cons r rest ih =>
      have hRest := ih (h.serve r)
      rwa [List.append_assoc] at hRest

theorem Lists.hasDependency_iff (h : c.Lists name asked) {d : Dependency} :
    c.hasDependency d = true ↔ d ∈ asked.filterMap Request.dependency? := by
  rw [Compilation.hasDependency_iff, h.dependencies, Order.mem_distinct]

/-- **A request that was served before changes nothing**, whatever was asked in between. -/
theorem Lists.serve_again (h : c.Lists name asked) {r : Request} (hAsked : r ∈ asked) :
    c.serve r = c := by
  have hDependencies : r.dependency?.toList.foldl Order.addNew c.dependencies =
      c.dependencies := by
    cases hWanted : r.dependency? with
    | none => rfl
    | some d =>
        refine Order.addNew_of_mem ?_
        rw [h.dependencies, Order.mem_distinct]
        exact List.mem_filterMap.2 ⟨r, hAsked, hWanted⟩
  have hPlugins : r.plugin?.toList.foldl Order.addNew c.requestedPlugins =
      c.requestedPlugins := by
    cases hWanted : r.plugin? with
    | none => rfl
    | some id =>
        refine Order.addNew_of_mem ?_
        rw [h.plugins, Order.mem_distinct]
        exact List.mem_filterMap.2 ⟨r, hAsked, hWanted⟩
  rw [serve_eq, hDependencies, hPlugins]

/-! ## The account of a history -/

/-- What can be said of a compilation in terms of the requests that it was asked for. -/
structure Account (c : Compilation) (name : String) (asked : List Request) : Prop where
  name_eq : c.name = name
  /-- Dependencies are listed in the order in which they were first added. -/
  dependencies : Order.ByArrival (asked.filterMap Request.dependency?) c.dependencies
  dependencies_nodup : c.dependencies.Nodup
  /-- So are the plugins. -/
  plugins : Order.ByArrival (asked.filterMap Request.plugin?) c.requestedPlugins
  plugins_nodup : c.requestedPlugins.Nodup
  /-- A compilation has the dependencies that were added, in the scope in which they were. -/
  has : ∀ d, c.hasDependency d = true ↔ d ∈ asked.filterMap Request.dependency?
  /-- An addition answers whether the dependency was missing.  Where it was not, nothing changes. -/
  adds : ∀ d, (c.addDependency d).1 = true ↔ c.hasDependency d = false
  keeps : ∀ d, (c.addDependency d).1 = false → (c.addDependency d).2 = c
  has_added : ∀ d, (c.addDependency d).2.hasDependency d = true
  /-- Of an artifact that is added in one scope nothing changes in another one. -/
  scopes : ∀ coordinates scope scope', scope ≠ scope' →
    (c.addDependency ⟨coordinates, scope⟩).2.hasDependency ⟨coordinates, scope'⟩ =
      c.hasDependency ⟨coordinates, scope'⟩
  /-- What was asked for once can be asked for again without effect. -/
  again : ∀ r ∈ asked, c.serve r = c
  /-- An integration that was applied has no effect any more, and its effect stays. -/
  integrated : ∀ identity, .integration identity ∈ asked →
    apply identity c = ([], c) ∧ c.hasDependency (runtimeDependency identity) = true ∧
      identity.id ∈ c.requestedPlugins

theorem Lists.account (h : c.Lists name asked) : c.Account name asked where
  name_eq := h.name_eq
  dependencies := h.dependencies ▸ Order.byArrival_distinct _
  dependencies_nodup := h.dependencies ▸ Order.nodup_distinct _
  plugins := h.plugins ▸ Order.byArrival_distinct _
  plugins_nodup := h.plugins ▸ Order.nodup_distinct _
  has d := h.hasDependency_iff
  adds d := by rw [addDependency_eq, Bool.not_eq_true']
  keeps d hOld := by
    rw [addDependency_eq, Bool.not_eq_false'] at hOld
    rw [addDependency_eq, Order.addNew_of_mem (Compilation.hasDependency_iff.1 hOld)]
  has_added d := hasDependency_addDependency.2 (.inl rfl)
  scopes coordinates scope scope' hScopes := by
    rw [Bool.eq_iff_iff, hasDependency_addDependency]
    refine or_iff_right fun hSame => hScopes ?_
    exact (congrArg Dependency.scope hSame).symm
  again r hAsked := h.serve_again hAsked
  integrated identity hAsked := by
    refine ⟨?_, ?_, ?_⟩
    · rw [apply_eq, h.serve_again hAsked]
    · exact h.hasDependency_iff.2 (List.mem_filterMap.2 ⟨_, hAsked, rfl⟩)
    · rw [h.plugins, Order.mem_distinct]
      exact List.mem_filterMap.2 ⟨_, hAsked, rfl⟩

/-- **After any requests a compilation lists what was asked for, each once and in the order in which
it was first asked for.**  Whatever was asked for stays, and to ask for it again changes nothing. -/
theorem requests_listed_once (name : String) (asked : List Request) :
    ((start name).after asked).Account name asked :=
  ((lists_start name).after asked).account

/-- Two scopes are two dependencies, and the integration finds its own one there. -/
example :
    let runtime := runtimeArtifact .shipped
    let c := (start "main").after
      [.dependency ⟨runtime, .runtime⟩, .dependency ⟨runtime, .implementation⟩, .plugin "b",
        .integration .shipped, .dependency ⟨runtime, .runtime⟩, .plugin "b"]
    c.dependencies = [⟨runtime, .runtime⟩, ⟨runtime, .implementation⟩] ∧
      c.requestedPlugins = ["b", "org.demo.synth"] := by
  decide

end Compilation
end TwoPhase.Build
