import ControlCenter.Library.Checks
import ControlCenter.Library.Collect
import ControlCenter.Library.Go
import ControlCenter.Library.PostOrder
import ControlCenter.Library.Registry
import ControlCenter.Library.Sorting

/-!
# Install order of market modules

`internal/market/dependencies.go`: the modules of a market are installed after the modules they
depend on. The modules are indexed under their trimmed names, every dependency must be the name
of a module, and a depth-first search from the sorted names appends each module once its
dependencies are done. A module on the way of the search is in state 1, an appended one in
state 2; the model reads both off the search itself.

The search is the one of `Library.PostOrder`, an answer of `none` would mean that it did not end.
The source looks for unknown dependencies in the order of a map; of several errors the model
returns the first in the order of the list.

The order exists exactly for modules with distinct names, known dependencies and no cycle, and
it forgets in which order modules and dependencies were listed
(`resolveInstallOrder_topological`).
-/

set_option autoImplicit false

namespace ControlCenter.Market

open Library

/-! ## Model -/

structure ModuleDependency where
  name : String
  dependsOn : List String
  deriving DecidableEq

/-- The module under its trimmed name. -/
def ModuleDependency.trimmed (m : ModuleDependency) : ModuleDependency :=
  { m with name := trimSpace m.name }

def indexModule (m : ModuleDependency) : Except String ModuleDependency :=
  if trimSpace m.name = "" then .error "module name is required" else .ok m.trimmed

/-- The entries of the map `byName`. -/
def byName (modules : List ModuleDependency) : Except String (List ModuleDependency) :=
  collect indexModule ModuleDependency.name (fun m => "duplicate module " ++ quoted m.name) []
    modules

def dependencyChecks (named : List ModuleDependency) : List (Bool × String) :=
  named.flatMap fun m => m.dependsOn.map fun dependency =>
    (!(named.map ModuleDependency.name).contains (trimSpace dependency),
      "module " ++ quoted m.name ++ " depends on unknown module " ++ quoted (trimSpace dependency))

/-- What a visit of the name goes on to: the dependencies are sorted as they are spelled and
trimmed afterwards. -/
def dependencies (named : List ModuleDependency) (name : String) : List String :=
  match named.find? fun m => m.name == name with
  | some m => (m.dependsOn.insertionSort (· ≤ ·)).map trimSpace
  | none => []

def resolveInstallOrder (modules : List ModuleDependency) : Option (Except String (List String)) :=
  match byName modules with
  | .error e => some (.error e)
  | .ok named =>
      match firstFailure (dependencyChecks named) with
      | .error e => some (.error e)
      | .ok () =>
          let names := (named.map ModuleDependency.name).insertionSort (· ≤ ·)
          (PostOrder.visitList (dependencies named) (names.length + 1) names).map
            (Except.mapError fun name => "dependency cycle at " ++ quoted name)

/-! ## Modules that can be indexed -/

/-- The trimmed names of the modules. -/
def trimmedNames (modules : List ModuleDependency) : List String :=
  modules.map fun m => trimSpace m.name

/-- The module of one name depends on the module of the other. -/
def DependsOn (modules : List ModuleDependency) (name other : String) : Prop :=
  ∃ m ∈ modules, trimSpace m.name = name ∧ ∃ dependency ∈ m.dependsOn, trimSpace dependency = other

/-- The names are given and distinct, and every dependency is one of them. -/
structure Indexed (modules : List ModuleDependency) : Prop where
  named : ∀ m ∈ modules, trimSpace m.name ≠ ""
  distinct : (trimmedNames modules).Nodup
  known : ∀ m ∈ modules, ∀ dependency ∈ m.dependsOn, trimSpace dependency ∈ trimmedNames modules

theorem map_name_trimmed (modules : List ModuleDependency) :
    (modules.map ModuleDependency.trimmed).map ModuleDependency.name = trimmedNames modules := by
  rw [List.map_map]
  rfl

theorem byName_ok {modules named : List ModuleDependency} :
    byName modules = .ok named ↔ named = modules.map ModuleDependency.trimmed ∧
      (∀ m ∈ modules, trimSpace m.name ≠ "") ∧ (trimmedNames modules).Nodup := by
  have form : ∀ m item, indexModule m = .ok item ↔ trimSpace m.name ≠ "" ∧ m.trimmed = item := by
    intro m item
    by_cases empty : trimSpace m.name = "" <;> simp [indexModule, empty]
  rw [byName, collect_ok]
  simp only [form]
  constructor
  · rintro ⟨forms, distinct⟩
    have items : modules.map ModuleDependency.trimmed = named := by
      simpa using map_eq_of_forall₂ (g := id) (fun _ _ own => own.2) forms
    subst items
    rw [map_name_trimmed] at distinct
    refine ⟨rfl, fun m listed => ?_, distinct⟩
    obtain ⟨_, -, own, -⟩ := exists_of_forall₂ forms m listed
    exact own
  · rintro ⟨rfl, given, distinct⟩
    refine ⟨?_, (map_name_trimmed modules).symm ▸ distinct⟩
    rw [List.forall₂_map_right_iff, List.forall₂_same]
    exact fun m listed => ⟨given m listed, rfl⟩

theorem passes_dependencyChecks {modules : List ModuleDependency} :
    Passes (dependencyChecks (modules.map ModuleDependency.trimmed)) ↔
      ∀ m ∈ modules, ∀ dependency ∈ m.dependsOn,
        trimSpace dependency ∈ trimmedNames modules := by
  simp only [dependencyChecks, Passes, map_name_trimmed, List.forall_mem_flatMap,
    List.forall_mem_map]
  simp [ModuleDependency.trimmed]

/-- The search that the checks lead to. -/
def search (modules : List ModuleDependency) : Option (Except String (List String)) :=
  PostOrder.visitList (dependencies (modules.map ModuleDependency.trimmed))
    (modules.length + 1) ((trimmedNames modules).insertionSort (· ≤ ·))

theorem resolveInstallOrder_eq {modules : List ModuleDependency} (indexed : Indexed modules) :
    resolveInstallOrder modules =
      (search modules).map (Except.mapError fun name => "dependency cycle at " ++ quoted name) := by
  have entries := byName_ok.mpr ⟨rfl, indexed.named, indexed.distinct⟩
  have checked := firstFailure_passes.mpr (passes_dependencyChecks.mpr indexed.known)
  have length : ((trimmedNames modules).insertionSort (· ≤ ·)).length = modules.length := by
    simp [trimmedNames]
  simp only [resolveInstallOrder, entries, checked, search, map_name_trimmed, length]

theorem resolveInstallOrder_rejects {modules : List ModuleDependency}
    (broken : ¬ Indexed modules) : ∃ e, resolveInstallOrder modules = some (.error e) := by
  rw [resolveInstallOrder]
  split
  · next e _ => exact ⟨e, rfl⟩
  next named entries =>
  split
  · next e _ => exact ⟨e, rfl⟩
  next checked =>
  obtain ⟨rfl, given, distinct⟩ := byName_ok.mp entries
  have known := passes_dependencyChecks.mp (firstFailure_passes.mp checked)
  exact absurd ⟨given, distinct, known⟩ broken

/-! ## The graph -/

section

variable {modules : List ModuleDependency}

theorem mem_dependencies (distinct : (trimmedNames modules).Nodup) {name other : String} :
    other ∈ dependencies (modules.map ModuleDependency.trimmed) name ↔
      DependsOn modules name other := by
  have found := @find?_key _ _ _ ModuleDependency.name (modules.map ModuleDependency.trimmed)
    ((map_name_trimmed modules).symm ▸ distinct) name
  rw [dependencies]
  constructor
  · intro listed
    split at listed
    · next m own =>
        obtain ⟨inside, rfl⟩ := found.mp own
        obtain ⟨raw, member, rfl⟩ := List.mem_map.mp inside
        simpa [DependsOn] using ⟨raw, member, rfl, by
          simpa [ModuleDependency.trimmed] using listed⟩
    · cases listed
  · rintro ⟨raw, member, rfl, dependency, listed, rfl⟩
    rw [found.mpr ⟨List.mem_map_of_mem member, rfl⟩]
    simpa [ModuleDependency.trimmed] using ⟨dependency, listed, rfl⟩

theorem needs_eq (distinct : (trimmedNames modules).Nodup) :
    PostOrder.Needs (dependencies (modules.map ModuleDependency.trimmed)) = DependsOn modules := by
  funext name other
  exact propext (mem_dependencies distinct)

theorem mem_names {name : String} :
    name ∈ (trimmedNames modules).insertionSort (· ≤ ·) ↔ name ∈ trimmedNames modules :=
  List.mem_insertionSort _

/-- The search stays among the names. -/
theorem Indexed.closed (indexed : Indexed modules) :
    ∀ name ∈ (trimmedNames modules).insertionSort (· ≤ ·),
      ∀ other ∈ dependencies (modules.map ModuleDependency.trimmed) name,
        other ∈ (trimmedNames modules).insertionSort (· ≤ ·) := by
  intro name _ other needed
  obtain ⟨m, member, -, dependency, listed, rfl⟩ := (mem_dependencies indexed.distinct).mp needed
  exact mem_names.mpr (indexed.known m member dependency listed)

theorem search_enough : ((trimmedNames modules).insertionSort (· ≤ ·)).length <
    modules.length + 1 := by
  simp [trimmedNames, List.length_insertionSort]

theorem Indexed.search_ends (indexed : Indexed modules) :
    ∃ result, search modules = some result :=
  Option.ne_none_iff_exists'.mp (PostOrder.visitList_some indexed.closed search_enough)

theorem Indexed.search_ok_iff (indexed : Indexed modules) :
    (∃ order, search modules = some (.ok order)) ↔
      ∀ name, ¬ Relation.TransGen (DependsOn modules) name name := by
  rw [search, PostOrder.visitList_ok_iff indexed.closed search_enough, needs_eq indexed.distinct]
  refine ⟨fun acyclic name cycle => ?_, fun acyclic name _ => acyclic name⟩
  obtain ⟨next, ⟨m, member, rfl, -⟩, -⟩ := Relation.TransGen.head'_iff.mp cycle
  exact acyclic _ (mem_names.mpr (List.mem_map_of_mem member)) cycle

theorem Indexed.search_order (indexed : Indexed modules) {order : List String}
    (ran : search modules = some (.ok order)) :
    order.Perm (trimmedNames modules) ∧
      ∀ before name after, order = before ++ name :: after →
        ∀ other, DependsOn modules name other → other ∈ before := by
  obtain ⟨topological, listed⟩ := PostOrder.visitList_ok indexed.closed ran
  refine ⟨?_, fun before name after split other needed => ?_⟩
  · rw [List.perm_ext_iff_of_nodup topological.nodup indexed.distinct]
    exact fun name => (listed name).trans mem_names
  · exact topological.behind before name after split other
      ((mem_dependencies indexed.distinct).mpr needed)

end

/-! ## Reordered lists -/

/-- The modules agree up to the order of their dependencies. -/
structure ModuleDependency.Reordered (m m' : ModuleDependency) : Prop where
  name : m.name = m'.name
  dependsOn : m.dependsOn.Perm m'.dependsOn

/-- The lists agree up to the order of the modules and of their dependencies. -/
def Reordered (modules modules' : List ModuleDependency) : Prop :=
  ∃ middle, modules.Forall₂ ModuleDependency.Reordered middle ∧ middle.Perm modules'

section

variable {modules modules' : List ModuleDependency}

theorem trimmedNames_reordered (same : Reordered modules modules') :
    (trimmedNames modules).Perm (trimmedNames modules') := by
  obtain ⟨middle, pairs, perm⟩ := same
  have names : trimmedNames modules = trimmedNames middle :=
    map_eq_of_forall₂ (fun m m' own => by rw [own.name]) pairs
  rw [names]
  exact perm.map _

theorem Indexed.reordered (indexed : Indexed modules) (same : Reordered modules modules') :
    Indexed modules' := by
  have names := trimmedNames_reordered same
  obtain ⟨middle, pairs, perm⟩ := same
  have partner : ∀ m' ∈ modules', ∃ m ∈ modules, m.Reordered m' := fun m' listed =>
    exists_of_forall₂ pairs.flip m' (perm.mem_iff.mpr listed)
  refine ⟨fun m' listed => ?_, names.nodup_iff.mp indexed.distinct,
    fun m' listed dependency own => ?_⟩
  · obtain ⟨m, member, own⟩ := partner m' listed
    rw [← own.name]
    exact indexed.named m member
  · obtain ⟨m, member, pair⟩ := partner m' listed
    exact names.mem_iff.mp (indexed.known m member dependency (pair.dependsOn.mem_iff.mpr own))

theorem dependencies_forall₂ (pairs : modules.Forall₂ ModuleDependency.Reordered modules')
    (name : String) : dependencies (modules.map ModuleDependency.trimmed) name =
      dependencies (modules'.map ModuleDependency.trimmed) name := by
  induction pairs with
  | nil => rfl
  | @cons m m' rest rest' pair _ ih =>
      have sorted := insertionSort_eq_of_perm (· ≤ ·) pair.dependsOn fun a _ b _ => le_antisymm
      by_cases own : trimSpace m'.name = name
      · simp [dependencies, ModuleDependency.trimmed, pair.name, own, sorted]
      · simpa [dependencies, ModuleDependency.trimmed, pair.name, own] using ih

/-- Sorting hides the order of both lists from the search. -/
theorem search_reordered (distinct : (trimmedNames modules).Nodup)
    (same : Reordered modules modules') : search modules = search modules' := by
  have names := insertionSort_eq_of_perm (· ≤ ·) (trimmedNames_reordered same)
    fun a _ b _ => le_antisymm
  obtain ⟨middle, pairs, perm⟩ := same
  have distinct' : ((middle.map ModuleDependency.trimmed).map ModuleDependency.name).Nodup := by
    rw [map_name_trimmed]
    exact (trimmedNames_reordered ⟨middle, pairs, .refl _⟩).nodup_iff.mp distinct
  have graph : dependencies (modules.map ModuleDependency.trimmed) =
      dependencies (modules'.map ModuleDependency.trimmed) := by
    funext name
    rw [dependencies_forall₂ pairs, dependencies, dependencies,
      find?_key_perm (perm.map ModuleDependency.trimmed) distinct']
  rw [search, search, graph, names, pairs.length_eq, perm.length_eq]

end

/-! ## Install orders -/

theorem mapError_some_ok {result : Option (Except String (List String))} {f : String → String}
    {order : List String} :
    result.map (Except.mapError f) = some (.ok order) ↔ result = some (.ok order) := by
  cases result with
  | none => simp
  | some result => cases result <;> simp [Except.mapError]

theorem resolveInstallOrder_ok {modules : List ModuleDependency} {order : List String} :
    resolveInstallOrder modules = some (.ok order) ↔
      Indexed modules ∧ search modules = some (.ok order) := by
  by_cases indexed : Indexed modules
  · rw [resolveInstallOrder_eq indexed, mapError_some_ok]
    simp [indexed]
  · obtain ⟨e, rejected⟩ := resolveInstallOrder_rejects indexed
    simp [rejected, indexed]

theorem resolveInstallOrder_ends (modules : List ModuleDependency) :
    ∃ result, resolveInstallOrder modules = some result := by
  by_cases indexed : Indexed modules
  · obtain ⟨result, ran⟩ := indexed.search_ends
    rw [resolveInstallOrder_eq indexed, ran]
    exact ⟨_, rfl⟩
  · obtain ⟨e, rejected⟩ := resolveInstallOrder_rejects indexed
    exact ⟨_, rejected⟩

/-- **The install order is a canonical topological order.** The search ends; it succeeds exactly
for non-empty distinct names, known dependencies and no cycle; its result lists the trimmed names,
each behind its dependencies, and is the same for the same modules in any order with their
dependencies in any order. -/
theorem resolveInstallOrder_topological (modules : List ModuleDependency) :
    (∃ result, resolveInstallOrder modules = some result) ∧
    ((∃ order, resolveInstallOrder modules = some (.ok order)) ↔
      (∀ m ∈ modules, trimSpace m.name ≠ "") ∧ (trimmedNames modules).Nodup ∧
      (∀ m ∈ modules, ∀ dependency ∈ m.dependsOn,
        trimSpace dependency ∈ trimmedNames modules) ∧
      ∀ name, ¬ Relation.TransGen (DependsOn modules) name name) ∧
    ∀ order, resolveInstallOrder modules = some (.ok order) →
      order.Perm (trimmedNames modules) ∧
      (∀ before name after, order = before ++ name :: after →
        ∀ other, DependsOn modules name other → other ∈ before) ∧
      ∀ modules', Reordered modules modules' →
        resolveInstallOrder modules' = some (.ok order) := by
  refine ⟨resolveInstallOrder_ends modules, ?_, fun order ran => ?_⟩
  · simp only [resolveInstallOrder_ok, exists_and_left]
    constructor
    · rintro ⟨indexed, ran⟩
      exact ⟨indexed.named, indexed.distinct, indexed.known, indexed.search_ok_iff.mp ran⟩
    · rintro ⟨given, distinct, known, acyclic⟩
      have indexed : Indexed modules := ⟨given, distinct, known⟩
      exact ⟨indexed, indexed.search_ok_iff.mpr acyclic⟩
  · obtain ⟨indexed, ran⟩ := resolveInstallOrder_ok.mp ran
    obtain ⟨perm, behind⟩ := indexed.search_order ran
    refine ⟨perm, behind, fun modules' same => ?_⟩
    rw [resolveInstallOrder_ok, ← search_reordered indexed.distinct same]
    exact ⟨indexed.reordered same, ran⟩

/-- Two modules, one of which depends on the other by a padded name. -/
theorem resolveInstallOrder_topological_padded :
    (["b", "a"] : List String).Perm (trimmedNames [⟨"a", [" b"]⟩, ⟨"b ", []⟩]) ∧
      resolveInstallOrder [⟨"b ", []⟩, ⟨"a", [" b"]⟩] = some (.ok ["b", "a"]) := by
  have ran : resolveInstallOrder [⟨"a", [" b"]⟩, ⟨"b ", []⟩] = some (.ok ["b", "a"]) := by
    decide +kernel
  obtain ⟨perm, -, reordered⟩ := (resolveInstallOrder_topological _).2.2 _ ran
  refine ⟨perm, reordered _ ⟨[⟨"a", [" b"]⟩, ⟨"b ", []⟩], ?_, .swap _ _ _⟩⟩
  exact .cons ⟨rfl, .refl _⟩ (.cons ⟨rfl, .refl _⟩ .nil)

end ControlCenter.Market
