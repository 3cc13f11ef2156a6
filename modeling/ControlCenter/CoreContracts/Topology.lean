import ControlCenter.CoreContracts.Metadata
import ControlCenter.Library.Climb
import ControlCenter.Library.Registry
import Mathlib.Data.List.Pairwise

/-!
# The topology of scopes

`internal/corecontracts/topology.go`: scopes form the management hierarchy, sites are bound to
scopes of their kind, and management zones lie within scopes and sites. `NewTopology` checks
complete lists of them; `Contains` asks whether a scope lies within another one.

The lists are accepted exactly when the scopes are a tree below one global scope and every
site and zone is bound to it (`newTopology_ok_iff`). The walk from each scope to the root ends
on any parents (`newTopology_ends`), and the order of the lists does not matter
(`newTopology_perm`). In an accepted topology `Contains` is the order of the tree
(`Topology.contains_iff`).

The maps of the source are lists here. A record is found by its id, and no two records of an
accepted topology have one.
-/

set_option autoImplicit false

namespace ControlCenter.CoreContracts

open Library

/-! ## Records -/

/-- A kind of scope. `other` stands for a text that is none of the contract's kinds. -/
inductive ScopeKind where
  | global
  | management
  | site
  | resource
  | other (text : String)
  deriving DecidableEq

/-- What a parent may grant to a scope. -/
inductive DelegatedAuthority where
  | rbac
  | policy
  | configuration
  | desiredState
  | applications
  | other (text : String)
  deriving DecidableEq

def DelegatedAuthority.text : DelegatedAuthority → String
  | .rbac => "rbac"
  | .policy => "policy"
  | .configuration => "configuration"
  | .desiredState => "desired-state"
  | .applications => "applications"
  | .other text => text

structure Scope where
  id : String
  kind : ScopeKind
  name : String
  parentID : String
  delegatedAuthorities : List DelegatedAuthority
  deriving DecidableEq

structure Site where
  id : String
  name : String
  scopeID : String
  deriving DecidableEq

structure ManagementZone where
  id : String
  name : String
  scopeID : String
  siteID : String
  deriving DecidableEq

structure Topology where
  rootID : String
  scopes : List Scope
  sites : List Site
  zones : List ManagementZone
  deriving DecidableEq

namespace Topology

def scope (t : Topology) (id : String) : Option Scope := t.scopes.find? fun s => s.id == id

def site (t : Topology) (id : String) : Option Site := t.sites.find? fun s => s.id == id

def managementZone (t : Topology) (id : String) : Option ManagementZone :=
  t.zones.find? fun z => z.id == id

/-- The loop of `Contains`. `none` means that the steps did not suffice. -/
def containsLoop (t : Topology) (ancestor : String) : (fuel : Nat) → (current : String) →
    Option Bool
  | 0, _ => none
  | fuel + 1, current =>
      if current = "" then some false
      else if current = ancestor then some true
      else
        match t.scope current with
        | none => some false
        | some s => if s.kind = .global then some false else t.containsLoop ancestor fuel s.parentID

/-- The steps suffice in every topology that `newTopology` returns (`containsLoop_ends`). -/
def contains (t : Topology) (ancestor descendant : String) : Bool :=
  if ancestor = "" ∨ descendant = "" then false
  else if (t.scope ancestor).isNone ∨ (t.scope descendant).isNone then false
  else (t.containsLoop ancestor (t.scopes.length + 1) descendant).getD false

def isDelegated (t : Topology) (scopeID : String) (authority : DelegatedAuthority) : Bool :=
  (t.scope scopeID).any fun s => s.delegatedAuthorities.contains authority

end Topology

/-! ## Validation -/

/-- A message about an invalid topology. -/
def topologyError (message : String) : String := "invalid distributed topology: " ++ message

def validateDisplayName (field value : String) : List (Bool × String) :=
  [(value == "" || trimSpace value != value,
      field ++ " is required and must not have surrounding whitespace"),
    (decide (maxIdentifierLength < value.utf8ByteSize), field ++ " exceeds 255 bytes"),
    (value.toList.any isControl, field ++ " contains control characters")]

def validDelegatedAuthority : DelegatedAuthority → Bool
  | .other _ => false
  | _ => true

/-- The tests of the parent, which depend on the kind. -/
def scopeParentChecks (scope : Scope) : List (Bool × String) :=
  match scope.kind with
  | .global =>
      [(scope.parentID != "", "global scope " ++ quoted scope.id ++ " cannot have a parent")]
  | .management | .site | .resource =>
      relabel (fun e => "scope " ++ quoted scope.id ++ ": " ++ e)
          (validateIdentifier "scope.parent_id" scope.parentID) ++
        [(scope.parentID == scope.id, "scope " ++ quoted scope.id ++ " is its own parent")]
  | .other text => [(true, "scope " ++ quoted scope.id ++ " has unknown kind " ++ quoted text)]

def validateScope (scope : Scope) : List (Bool × String) :=
  relabel topologyError
    (validateIdentifier "scope.id" scope.id ++ validateDisplayName "scope.name" scope.name ++
      scopeParentChecks scope ++
      distinctChecks id
        (fun _ authority => [(!validDelegatedAuthority authority,
          "scope " ++ quoted scope.id ++ " has unknown delegated authority " ++
            quoted authority.text)])
        (fun _ _ => [])
        (fun authority => "scope " ++ quoted scope.id ++ " repeats delegated authority " ++
          quoted authority.text) 0 [] scope.delegatedAuthorities ++
      [(decide (scope.kind = .global) && scope.delegatedAuthorities.length != 0,
        "global scope " ++ quoted scope.id ++ " cannot receive delegated authority")])

def validateSite (t : Topology) (site : Site) : List (Bool × String) :=
  relabel topologyError
    (validateIdentifier "site.id" site.id ++
      relabel (fun e => "site " ++ quoted site.id ++ ": " ++ e)
        (validateDisplayName "site.name" site.name) ++
      [((t.scope site.scopeID).all fun s => decide (s.kind ≠ .site),
        "site " ++ quoted site.id ++ " must reference a site scope")])

def validateManagementZone (t : Topology) (zone : ManagementZone) : List (Bool × String) :=
  relabel topologyError
    (validateIdentifier "management_zone.id" zone.id ++
      relabel (fun e => "management zone " ++ quoted zone.id ++ ": " ++ e)
        (validateDisplayName "management_zone.name" zone.name) ++
      [((t.scope zone.scopeID).isNone, "management zone " ++ quoted zone.id ++
        " has unknown scope " ++ quoted zone.scopeID)] ++
      if zone.siteID = "" then []
      else
        foundChecks (t.site zone.siteID)
          ("management zone " ++ quoted zone.id ++ " has unknown site " ++ quoted zone.siteID)
          fun site => [(!t.contains site.scopeID zone.scopeID,
            "management zone " ++ quoted zone.id ++ " scope " ++ quoted zone.scopeID ++
              " is outside site " ++ quoted zone.siteID)])

/-- The step from a scope to its parent. An unknown scope is read from the map as the zero
scope, which is not global and has no parent. -/
def Topology.parentOf (t : Topology) (current : String) : Option String :=
  match t.scope current with
  | none => some ""
  | some s => if s.kind = .global then none else some s.parentID

def Topology.validatePathToRoot (t : Topology) (id : String) : Option (Except String Unit) :=
  match ParentWalk.climb t.parentOf (t.scopes.length + 1) [] id with
  | none => none
  | some (.error current) =>
      some (.error (topologyError ("scope hierarchy contains a cycle at " ++ quoted current)))
  | some (.ok top) =>
      if top ≠ t.rootID then
        some (.error (topologyError ("scope " ++ quoted id ++ " does not resolve to global root " ++
          quoted t.rootID)))
      else some (.ok ())

def Topology.validatePaths (t : Topology) : List String → Option (Except String Unit)
  | [] => some (.ok ())
  | id :: rest =>
      match t.validatePathToRoot id with
      | some (.ok ()) => t.validatePaths rest
      | other => other

/-- What only one record may have. -/
inductive TopologyKey where
  | scope (id : String)
  | root
  | site (id : String)
  | siteScope (id : String)
  | zone (id : String)
  deriving DecidableEq

/-- One round of the loop over the scopes. -/
def scopeSteps (scope : Scope) : List (Registration TopologyKey String) :=
  [.tests (validateScope scope),
    .claim (.scope scope.id) scope.id fun _ =>
      topologyError ("duplicate scope " ++ quoted scope.id)] ++
  if scope.kind = .global then
    [.claim .root scope.id fun rootID =>
      topologyError ("multiple global scopes " ++ quoted rootID ++ " and " ++ quoted scope.id)]
  else []

/-- One round of the loop over the sites. -/
def siteSteps (t : Topology) (site : Site) : List (Registration TopologyKey String) :=
  [.tests (validateSite t site),
    .claim (.site site.id) site.id fun _ => topologyError ("duplicate site " ++ quoted site.id),
    .claim (.siteScope site.scopeID) site.id fun other =>
      topologyError ("sites " ++ quoted other ++ " and " ++ quoted site.id ++ " share scope " ++
        quoted site.scopeID)]

/-- One round of the loop over the zones. -/
def zoneSteps (t : Topology) (zone : ManagementZone) : List (Registration TopologyKey String) :=
  [.tests (validateManagementZone t zone),
    .claim (.zone zone.id) zone.id fun _ =>
      topologyError ("duplicate management zone " ++ quoted zone.id)]

/-- The index of the lists. The root is the global scope. -/
def topologyOf (scopes : List Scope) (sites : List Site) (zones : List ManagementZone) :
    Topology :=
  ⟨((scopes.find? fun s => decide (s.kind = .global)).map (·.id)).getD "", scopes, sites, zones⟩

/-- The tests of the scopes before the paths are walked. -/
def scopeChecks (t : Topology) : List (Bool × String) :=
  registrationChecks [] (t.scopes.flatMap scopeSteps) ++
    [(t.rootID == "", topologyError "exactly one global scope is required")] ++
    t.scopes.map fun s =>
      (decide (s.kind ≠ .global) && (t.scope s.parentID).isNone,
        topologyError ("scope " ++ quoted s.id ++ " has unknown parent " ++ quoted s.parentID))

/-- The tests of the sites and the zones. -/
def bindingChecks (t : Topology) : List (Bool × String) :=
  registrationChecks [] (t.sites.flatMap (siteSteps t)) ++
    registrationChecks [] (t.zones.flatMap (zoneSteps t))

/-- The source walks over its map of scopes in any order; here they are walked in the order of
the list. `none` means that a walk did not end. -/
def newTopology (scopes : List Scope) (sites : List Site) (zones : List ManagementZone) :
    Option (Except String Topology) :=
  let t := topologyOf scopes sites zones
  match firstFailure (scopeChecks t) with
  | .error e => some (.error e)
  | .ok () =>
      match t.validatePaths (t.scopes.map (·.id)) with
      | none => none
      | some (.error e) => some (.error e)
      | some (.ok ()) =>
          match firstFailure (bindingChecks t) with
          | .error e => some (.error e)
          | .ok () => some (.ok t)

/-! ## What the loops pass -/

/-- A scope that is valid by itself. -/
def Scope.Valid (scope : Scope) : Prop := Passes (validateScope scope)

theorem Scope.Valid.id {scope : Scope} (valid : scope.Valid) : IsIdentifier scope.id := by
  simp only [Valid, validateScope, passes_relabel, passes_append, passes_validateIdentifier]
    at valid
  exact valid.1.1.1.1

theorem passes_scopeSteps {scopes : List Scope} :
    Passes (registrationChecks [] (scopes.flatMap scopeSteps)) ↔
      (∀ s ∈ scopes, s.Valid) ∧ (scopes.map (·.id)).Nodup ∧
      scopes.Pairwise fun a b => a.kind = .global → b.kind ≠ .global := by
  rw [passes_registrations Scope.Valid
    fun s => .scope s.id :: if s.kind = .global then [.root] else []]
  · rw [List.Nodup, List.pairwise_map, ← List.pairwise_and_iff]
    refine and_congr_right fun _ => iff_of_eq (congrArg (List.Pairwise · scopes) ?_)
    funext a b
    split <;> split <;> simp_all [eq_comm]
  · intro s
    unfold scopeSteps Scope.Valid
    split <;> simp [Registration.Good]
  · intro s
    unfold scopeSteps
    split <;> rfl
  · intro s
    split <;> simp

theorem passes_siteSteps {t : Topology} {sites : List Site} :
    Passes (registrationChecks [] (sites.flatMap (siteSteps t))) ↔
      (∀ s ∈ sites, Passes (validateSite t s)) ∧
      sites.Pairwise fun a b => a.id ≠ b.id ∧ a.scopeID ≠ b.scopeID := by
  rw [passes_registrations (fun s => Passes (validateSite t s))
    fun s => [.site s.id, .siteScope s.scopeID]]
  · refine and_congr_right fun _ => iff_of_eq (congrArg (List.Pairwise · sites) ?_)
    funext a b
    simp [eq_comm]
  · intro s
    simp [siteSteps, Registration.Good]
  · intro s
    rfl
  · intro s
    simp

theorem passes_zoneSteps {t : Topology} {zones : List ManagementZone} :
    Passes (registrationChecks [] (zones.flatMap (zoneSteps t))) ↔
      (∀ z ∈ zones, Passes (validateManagementZone t z)) ∧ (zones.map (·.id)).Nodup := by
  rw [passes_registrations (fun z => Passes (validateManagementZone t z)) fun z => [.zone z.id]]
  · rw [List.Nodup, List.pairwise_map]
    refine and_congr_right fun _ => iff_of_eq (congrArg (List.Pairwise · zones) ?_)
    funext a b
    simp [eq_comm]
  · intro z
    simp [zoneSteps, Registration.Good]
  · intro z
    rfl
  · intro z
    simp

/-! ## Trees -/

/-- The link from a scope to its parent. -/
def ParentLink (scopes : List Scope) (child parent : String) : Prop :=
  ∃ s ∈ scopes, s.id = child ∧ s.kind ≠ .global ∧ s.parentID = parent

/-- The scopes are a tree: each is valid, no two have one id, exactly one is global, and every
scope reaches the global one by parent links. -/
structure IsTree (scopes : List Scope) : Prop where
  valid : ∀ s ∈ scopes, s.Valid
  distinct : (scopes.map (·.id)).Nodup
  oneRoot : ∃ root ∈ scopes, root.kind = .global ∧ ∀ s ∈ scopes, s.kind = .global → s = root
  reaches : ∀ s ∈ scopes, ∃ root ∈ scopes, root.kind = .global ∧
    Relation.ReflTransGen (ParentLink scopes) s.id root.id

/-- The sites and zones are bound to the scopes: each is valid, no two have one id, and no two
sites share a scope. -/
structure Topology.Bound (t : Topology) : Prop where
  sites : ∀ s ∈ t.sites, Passes (validateSite t s)
  sitesApart : t.sites.Pairwise fun a b => a.id ≠ b.id ∧ a.scopeID ≠ b.scopeID
  zones : ∀ z ∈ t.zones, Passes (validateManagementZone t z)
  zonesApart : (t.zones.map (·.id)).Nodup

namespace Topology

variable {t : Topology}

theorem passes_bindingChecks : Passes (bindingChecks t) ↔ t.Bound := by
  rw [bindingChecks, passes_append, passes_siteSteps, passes_zoneSteps]
  constructor
  · rintro ⟨⟨sites, sitesApart⟩, zones, zonesApart⟩
    exact ⟨sites, sitesApart, zones, zonesApart⟩
  · rintro ⟨sites, sitesApart, zones, zonesApart⟩
    exact ⟨⟨sites, sitesApart⟩, zones, zonesApart⟩

theorem scope_some {id : String} {s : Scope} (found : t.scope id = some s) :
    s ∈ t.scopes ∧ s.id = id :=
  ⟨List.mem_of_find?_eq_some found, by simpa using List.find?_some found⟩

theorem scope_isSome {id : String} : (t.scope id).isSome ↔ id ∈ t.scopes.map (·.id) := by
  simp [scope]

theorem parentOf_known {id up : String} (listed : id ∈ t.scopes.map (·.id)) :
    t.parentOf id = some up ↔ ∃ s, t.scope id = some s ∧ s.kind ≠ .global ∧ s.parentID = up := by
  obtain ⟨s, found⟩ := Option.isSome_iff_exists.mp (scope_isSome.mpr listed)
  rw [parentOf, found]
  by_cases top : s.kind = .global <;> simp [top]

theorem parentOf_top {id : String} :
    t.parentOf id = none ↔ ∃ s, t.scope id = some s ∧ s.kind = .global := by
  rw [parentOf]
  cases t.scope id with
  | none => simp
  | some s => by_cases top : s.kind = .global <;> simp [top]

/-- Parents are known. -/
def Closed (t : Topology) : Prop :=
  ∀ s ∈ t.scopes, s.kind ≠ .global → s.parentID ∈ t.scopes.map (·.id)

theorem Closed.up (closed : t.Closed) : ∀ id ∈ t.scopes.map (·.id), ∀ up,
    t.parentOf id = some up → up ∈ t.scopes.map (·.id) := by
  intro id listed up edge
  obtain ⟨s, found, below, rfl⟩ := (parentOf_known listed).mp edge
  exact closed s (scope_some found).1 below

theorem Closed.climb_some (closed : t.Closed) {id : String} (listed : id ∈ t.scopes.map (·.id)) :
    ∃ result, ParentWalk.climb t.parentOf (t.scopes.length + 1) [] id = some result :=
  ParentWalk.climb_some closed.up listed List.nodup_nil (List.nil_subset _) (by simp)

theorem Closed.paths_end (closed : t.Closed) {ids : List String}
    (listed : ids ⊆ t.scopes.map (·.id)) : t.validatePaths ids ≠ none := by
  induction ids with
  | nil => exact nofun
  | cons id rest ih =>
      obtain ⟨here, others⟩ := List.cons_subset.mp listed
      obtain ⟨result, climbed⟩ := closed.climb_some here
      rw [validatePaths, validatePathToRoot, climbed]
      cases result with
      | error current => exact nofun
      | ok top =>
          by_cases root : top = t.rootID
          · simpa [root] using ih others
          · simp [root]

theorem validatePaths_ok {ids : List String} : t.validatePaths ids = some (.ok ()) ↔
    ∀ id ∈ ids, t.validatePathToRoot id = some (.ok ()) := by
  induction ids with
  | nil => simp [validatePaths]
  | cons id rest ih =>
      rw [validatePaths, List.forall_mem_cons, ← ih]
      cases validatePathToRoot t id with
      | none => simp
      | some result => cases result <;> simp

/-- The path to the root is accepted when the walk ends there. -/
theorem validatePathToRoot_ok {id : String} : t.validatePathToRoot id = some (.ok ()) ↔
    ParentWalk.climb t.parentOf (t.scopes.length + 1) [] id = some (.ok t.rootID) := by
  rw [validatePathToRoot]
  split
  · next unfinished => simp [unfinished]
  · next current failed => simp [failed]
  · next top climbed =>
      rw [climbed]
      by_cases root : top = t.rootID <;> simp [root]

end Topology

theorem Scope.eq_of_id {scopes : List Scope} (distinct : (scopes.map (·.id)).Nodup) {s s' : Scope}
    (listed : s ∈ scopes) (listed' : s' ∈ scopes) (same : s.id = s'.id) : s = s' :=
  List.inj_on_of_nodup_map distinct listed listed' same

namespace Topology

variable {t : Topology} (distinct : (t.scopes.map (·.id)).Nodup)

include distinct

theorem scope_iff {id : String} {s : Scope} : t.scope id = some s ↔ s ∈ t.scopes ∧ s.id = id :=
  find?_key distinct

/-- The links are the steps of the walk. -/
theorem parentLink_iff {child parent : String} : ParentLink t.scopes child parent ↔
    child ∈ t.scopes.map (·.id) ∧ t.parentOf child = some parent := by
  constructor
  · rintro ⟨s, listed, rfl, below, rfl⟩
    have known : s.id ∈ t.scopes.map (·.id) := List.mem_map_of_mem listed
    exact ⟨known, (parentOf_known known).mpr ⟨s, (scope_iff distinct).mpr ⟨listed, rfl⟩, below,
      rfl⟩⟩
  · rintro ⟨known, edge⟩
    obtain ⟨s, found, below, up⟩ := (parentOf_known known).mp edge
    obtain ⟨listed, same⟩ := (scope_iff distinct).mp found
    exact ⟨s, listed, same, below, up⟩

/-- The walk climbs along the links. -/
theorem above_iff (closed : t.Closed) {id ancestor : String}
    (listed : id ∈ t.scopes.map (·.id)) : ParentWalk.Above t.parentOf id ancestor ↔
      Relation.ReflTransGen (ParentLink t.scopes) id ancestor := by
  constructor
  · intro above
    induction above with
    | refl => exact .refl
    | tail path edge ih =>
        have known := ParentWalk.Above.mem closed.up listed path
        exact ih.tail ((parentLink_iff distinct).mpr ⟨known, edge⟩)
  · intro path
    induction path with
    | refl => exact .refl
    | tail _ link ih => exact ih.tail ((parentLink_iff distinct).mp link).2

end Topology

namespace IsTree

variable {t : Topology} (tree : IsTree t.scopes)

include tree

/-- A scope that reaches the root has a known parent, or is the root. -/
theorem closed : t.Closed := by
  intro s listed below
  obtain ⟨root, rooted, isGlobal, path⟩ := tree.reaches s listed
  rcases Relation.ReflTransGen.cases_head path with same | ⟨up, ⟨s', listed', same, -, rfl⟩, rest⟩
  · rw [Scope.eq_of_id tree.distinct listed rooted same] at below
    exact absurd isGlobal below
  · rw [← Scope.eq_of_id tree.distinct listed' listed same]
    rcases Relation.ReflTransGen.cases_head rest with last | ⟨_, ⟨next, known, here, -⟩, -⟩
    · rw [last]
      exact List.mem_map_of_mem rooted
    · rw [← here]
      exact List.mem_map_of_mem known

/-- Every scope leads up to a top. -/
theorem grounded {id : String} (listed : id ∈ t.scopes.map (·.id)) :
    ParentWalk.Grounded t.parentOf (fun _ => true) id := by
  obtain ⟨s, here, rfl⟩ := List.mem_map.mp listed
  obtain ⟨root, rooted, isGlobal, path⟩ := tree.reaches s here
  generalize s.id = id at path
  induction path using Relation.ReflTransGen.head_induction_on with
  | refl =>
      have found := (Topology.scope_iff tree.distinct).mpr ⟨rooted, rfl⟩
      exact ⟨0, .root (Topology.parentOf_top.mpr ⟨root, found, isGlobal⟩)⟩
  | head link _ ih =>
      obtain ⟨n, height⟩ := ih
      exact ⟨n + 1, .up ((Topology.parentLink_iff tree.distinct).mp link).2 rfl height⟩

/-- The top of a walk is the global scope. -/
theorem top_eq {id : String} {root : Scope} (rooted : root ∈ t.scopes)
    (isGlobal : root.kind = .global) (top : t.parentOf id = none) : id = root.id := by
  obtain ⟨s, found, sGlobal⟩ := Topology.parentOf_top.mp top
  obtain ⟨listed, rfl⟩ := Topology.scope_some found
  obtain ⟨_, -, -, only⟩ := tree.oneRoot
  rw [only s listed sGlobal, only root rooted isGlobal]

end IsTree

section NewTopology

variable {scopes : List Scope} {sites : List Site} {zones : List ManagementZone}

theorem rootID_cases :
    (∃ root ∈ scopes, root.kind = .global ∧ (topologyOf scopes sites zones).rootID = root.id) ∨
    ((∀ s ∈ scopes, s.kind ≠ .global) ∧ (topologyOf scopes sites zones).rootID = "") := by
  unfold topologyOf
  cases found : scopes.find? fun s => decide (s.kind = .global) with
  | none =>
      rw [List.find?_eq_none] at found
      exact .inr ⟨fun s listed => by simpa using found s listed, by simp⟩
  | some root =>
      exact .inl ⟨root, List.mem_of_find?_eq_some found, by simpa using List.find?_some found,
        by simp⟩

/-- The root of a tree is its global scope. -/
theorem IsTree.exists_root (tree : IsTree scopes) : ∃ root ∈ scopes, root.kind = .global ∧
    (∀ s ∈ scopes, s.kind = .global → s = root) ∧
    (topologyOf scopes sites zones).rootID = root.id := by
  obtain ⟨root, listed, isGlobal, only⟩ := tree.oneRoot
  refine ⟨root, listed, isGlobal, only, ?_⟩
  rcases @rootID_cases scopes sites zones with ⟨root', listed', isGlobal', same⟩ | ⟨none, -⟩
  · rw [same, only root' listed' isGlobal']
  · exact absurd isGlobal (none root listed)

theorem passes_scopeChecks {t : Topology} : Passes (scopeChecks t) ↔
    (∀ s ∈ t.scopes, s.Valid) ∧ (t.scopes.map (·.id)).Nodup ∧
    (t.scopes.Pairwise fun a b => a.kind = .global → b.kind ≠ .global) ∧ t.rootID ≠ "" ∧
    t.Closed := by
  have known : (∀ s ∈ t.scopes,
      (decide (s.kind ≠ .global) && (t.scope s.parentID).isNone) = false) ↔ t.Closed := by
    refine forall₂_congr fun s _ => ?_
    rw [← Topology.scope_isSome]
    by_cases top : s.kind = .global <;> simp [top]
  rw [scopeChecks, passes_append, passes_append, passes_scopeSteps, passes_map, known]
  simp [and_assoc]

/-- **The first tests and the walks accept exactly the trees.** -/
theorem isTree_iff :
    (Passes (scopeChecks (topologyOf scopes sites zones)) ∧
      (topologyOf scopes sites zones).validatePaths (scopes.map (·.id)) = some (.ok ())) ↔
      IsTree scopes := by
  rw [passes_scopeChecks, Topology.validatePaths_ok]
  constructor
  · rintro ⟨⟨valid, distinct, apart, rooted, closed⟩, paths⟩
    obtain ⟨root, listed, isGlobal, isRoot⟩ := rootID_cases.resolve_right fun none => rooted none.2
    refine ⟨valid, distinct, ⟨root, listed, isGlobal, fun s here sGlobal => ?_⟩, fun s here => ?_⟩
    · by_contra other
      have symmetric : Std.Symm fun a b : Scope => a.kind = .global → b.kind ≠ .global :=
        ⟨fun a b once second first => once first second⟩
      exact apart.forall here listed other sGlobal isGlobal
    · have known : s.id ∈ scopes.map (·.id) := List.mem_map_of_mem here
      have climbed := Topology.validatePathToRoot_ok.mp (paths s.id known)
      obtain ⟨-, above, -⟩ := ParentWalk.climb_ok climbed
      rw [isRoot] at above
      exact ⟨root, listed, isGlobal, (Topology.above_iff distinct closed known).mp above⟩
  · intro tree
    obtain ⟨root, listed, isGlobal, only, isRoot⟩ := @IsTree.exists_root scopes sites zones tree
    have closed := @IsTree.closed (topologyOf scopes sites zones) tree
    refine ⟨⟨tree.valid, tree.distinct, ?_, ?_, closed⟩, fun id known => ?_⟩
    · refine List.Pairwise.imp_of_mem (fun {a b} here here' other sGlobal sGlobal' => ?_)
        (List.Nodup.of_map _ tree.distinct)
      exact other ((only a here sGlobal).trans (only b here' sGlobal').symm)
    · rw [isRoot]
      exact (tree.valid root listed).id.nonempty
    · have grounded := @IsTree.grounded (topologyOf scopes sites zones) tree id known
      have enough : ((topologyOf scopes sites zones).scopes.map (·.id)).length <
          (topologyOf scopes sites zones).scopes.length + 1 := by simp
      obtain ⟨top, climbed⟩ := (ParentWalk.climb_ok_iff closed.up known enough).mpr grounded
      have last := (ParentWalk.climb_ok climbed).1
      rw [@IsTree.top_eq (topologyOf scopes sites zones) tree _ _ listed isGlobal last] at climbed
      rw [Topology.validatePathToRoot_ok, climbed, isRoot]

/-- **`NewTopology` ends** on all lists. -/
theorem newTopology_ends : newTopology scopes sites zones ≠ none := by
  unfold newTopology
  dsimp only
  split
  · exact nofun
  · next passed =>
      have closed := (passes_scopeChecks.mp (firstFailure_passes.mp passed)).2.2.2.2
      have ends := closed.paths_end (List.Subset.refl _)
      split
      · next unfinished => exact absurd unfinished ends
      · exact nofun
      · split <;> exact nofun

/-- **`NewTopology` accepts exactly the trees with bound sites and zones.** -/
theorem newTopology_ok_iff {t : Topology} : newTopology scopes sites zones = some (.ok t) ↔
    t = topologyOf scopes sites zones ∧ IsTree scopes ∧ t.Bound := by
  rw [← @isTree_iff scopes sites zones, ← Topology.passes_bindingChecks]
  unfold newTopology
  dsimp only
  split
  · next e failed =>
      refine iff_of_false nofun fun accepted => ?_
      rw [firstFailure_passes.mpr accepted.2.1.1] at failed
      cases failed
  · next passed =>
      have checked := firstFailure_passes.mp passed
      split
      · next unfinished =>
          refine iff_of_false nofun fun accepted => ?_
          exact absurd (unfinished.symm.trans accepted.2.1.2) nofun
      · next e failed =>
          refine iff_of_false nofun fun accepted => ?_
          exact absurd (failed.symm.trans accepted.2.1.2) nofun
      · next walked =>
          split
          · next e failed =>
              refine iff_of_false nofun ?_
              rintro ⟨rfl, -, bound⟩
              rw [firstFailure_passes.mpr bound] at failed
              cases failed
          · next bound =>
              constructor
              · intro same
                cases same
                exact ⟨rfl, ⟨checked, walked⟩, firstFailure_passes.mp bound⟩
              · rintro ⟨rfl, -, -⟩
                rfl

end NewTopology

/-! ## Containment -/

namespace IsTree

variable {t : Topology} (tree : IsTree t.scopes)

include tree

theorem id_nonempty {id : String} (listed : id ∈ t.scopes.map (·.id)) : id ≠ "" := by
  obtain ⟨s, here, rfl⟩ := List.mem_map.mp listed
  exact (tree.valid s here).id.nonempty

/-- The loop answers whether the scope lies below the ancestor. -/
theorem containsLoop_of_height {ancestor id : String} {n : Nat}
    (height : ParentWalk.Height t.parentOf (fun _ => true) id n) :
    ∀ {fuel : Nat}, id ∈ t.scopes.map (·.id) → n < fuel →
      ∃ answer, t.containsLoop ancestor fuel id = some answer ∧
        (answer = true ↔ ParentWalk.Above t.parentOf id ancestor) := by
  induction height with
  | @root id top =>
      intro fuel listed enough
      obtain ⟨fuel, rfl⟩ : ∃ k, fuel = k + 1 := ⟨fuel - 1, by omega⟩
      rw [Topology.containsLoop, if_neg (tree.id_nonempty listed)]
      split
      · next same => exact ⟨true, rfl, iff_of_true rfl (same ▸ .refl)⟩
      · next other =>
          obtain ⟨s, found, isGlobal⟩ := Topology.parentOf_top.mp top
          rw [found]
          dsimp only
          rw [if_pos isGlobal]
          refine ⟨false, rfl, iff_of_false nofun fun above => ?_⟩
          rcases Relation.ReflTransGen.cases_head above with same | ⟨up, edge, -⟩
          · exact other same
          · rw [top] at edge
            cases edge
  | @up id next n edge _ _ ih =>
      intro fuel listed enough
      obtain ⟨fuel, rfl⟩ : ∃ k, fuel = k + 1 := ⟨fuel - 1, by omega⟩
      rw [Topology.containsLoop, if_neg (tree.id_nonempty listed)]
      split
      · next same => exact ⟨true, rfl, iff_of_true rfl (same ▸ .refl)⟩
      · next other =>
          have known := tree.closed.up id listed next edge
          obtain ⟨s, found, below, rfl⟩ := (Topology.parentOf_known listed).mp edge
          rw [found]
          dsimp only
          rw [if_neg below]
          obtain ⟨answer, answered, meaning⟩ := ih known (Nat.lt_of_succ_lt_succ enough)
          refine ⟨answer, answered, meaning.trans ⟨.head edge, fun above => ?_⟩⟩
          rcases Relation.ReflTransGen.cases_head above with same | ⟨up, edge', rest⟩
          · exact absurd same other
          · rw [edge, Option.some.injEq] at edge'
            exact edge' ▸ rest

/-- **The loop of `Contains` ends** in a tree. -/
theorem containsLoop_ends {id : String} (listed : id ∈ t.scopes.map (·.id)) (ancestor : String) :
    ∃ answer, t.containsLoop ancestor (t.scopes.length + 1) id = some answer ∧
      (answer = true ↔ Relation.ReflTransGen (ParentLink t.scopes) id ancestor) := by
  obtain ⟨n, height⟩ := tree.grounded listed
  have few := height.lt_length tree.closed.up listed
  rw [List.length_map] at few
  obtain ⟨answer, answered, meaning⟩ :=
    @containsLoop_of_height t tree ancestor id n height (t.scopes.length + 1) listed
      (Nat.lt_succ_of_lt few)
  exact ⟨answer, answered, meaning.trans (Topology.above_iff tree.distinct tree.closed listed)⟩

/-- **`Contains` is the closure of the parent links** between known scopes. -/
theorem contains_iff {ancestor descendant : String} : t.contains ancestor descendant = true ↔
    (t.scope ancestor).isSome ∧ (t.scope descendant).isSome ∧
      Relation.ReflTransGen (ParentLink t.scopes) descendant ancestor := by
  unfold Topology.contains
  by_cases known : (t.scope ancestor).isSome ∧ (t.scope descendant).isSome
  · have listed := Topology.scope_isSome.mp known.1
    have listed' := Topology.scope_isSome.mp known.2
    obtain ⟨answer, answered, meaning⟩ := tree.containsLoop_ends listed' ancestor
    have named : ¬ (ancestor = "" ∨ descendant = "") :=
      not_or.mpr ⟨tree.id_nonempty listed, tree.id_nonempty listed'⟩
    have present : ¬ ((t.scope ancestor).isNone ∨ (t.scope descendant).isNone) := by
      simpa [← Option.isSome_iff_ne_none] using known
    rw [if_neg named, if_neg present, answered, Option.getD_some, meaning]
    exact ⟨fun path => ⟨known.1, known.2, path⟩, fun all => all.2.2⟩
  · refine iff_of_false ?_ fun all => known ⟨all.1, all.2.1⟩
    split
    · simp
    · split
      · simp
      · next present =>
          refine absurd ?_ known
          simpa [← Option.isSome_iff_ne_none] using present

theorem contains_refl {id : String} (known : (t.scope id).isSome) : t.contains id id = true :=
  tree.contains_iff.mpr ⟨known, known, .refl⟩

theorem contains_trans {a b c : String} (first : t.contains a b = true)
    (second : t.contains b c = true) : t.contains a c = true := by
  obtain ⟨known, -, path⟩ := tree.contains_iff.mp first
  obtain ⟨-, known', path'⟩ := tree.contains_iff.mp second
  exact tree.contains_iff.mpr ⟨known, known', path'.trans path⟩

theorem contains_antisymm {a b : String} (above : t.contains a b = true)
    (below : t.contains b a = true) : a = b := by
  obtain ⟨known, known', path⟩ := tree.contains_iff.mp above
  obtain ⟨-, -, path'⟩ := tree.contains_iff.mp below
  have listed := Topology.scope_isSome.mp known
  have listed' := Topology.scope_isSome.mp known'
  exact (tree.grounded listed).antisymm
    ((Topology.above_iff tree.distinct tree.closed listed).mpr path')
    ((Topology.above_iff tree.distinct tree.closed listed').mpr path)

/-- Of two scopes that contain a third one, one contains the other. -/
theorem contains_chain {a b d : String} (first : t.contains a d = true)
    (second : t.contains b d = true) : t.contains a b = true ∨ t.contains b a = true := by
  obtain ⟨known, under, path⟩ := tree.contains_iff.mp first
  obtain ⟨known', -, path'⟩ := tree.contains_iff.mp second
  have climb : ∀ {x y : String}, x ∈ t.scopes.map (·.id) →
      (ParentWalk.Above t.parentOf x y ↔ Relation.ReflTransGen (ParentLink t.scopes) x y) :=
    Topology.above_iff tree.distinct tree.closed
  have listed := Topology.scope_isSome.mp under
  rcases ParentWalk.above_total ((climb listed).mpr path) ((climb listed).mpr path') with up | up
  · exact .inr (tree.contains_iff.mpr ⟨known', known,
      (climb (Topology.scope_isSome.mp known)).mp up⟩)
  · exact .inl (tree.contains_iff.mpr ⟨known, known',
      (climb (Topology.scope_isSome.mp known')).mp up⟩)

end IsTree

/-! ## The order of the lists -/

namespace Topology

variable {t t' : Topology}

theorem containsLoop_congr (same : ∀ id, t.scope id = t'.scope id) (ancestor : String)
    (fuel : Nat) (current : String) :
    t.containsLoop ancestor fuel current = t'.containsLoop ancestor fuel current := by
  induction fuel generalizing current with
  | zero => rfl
  | succ fuel ih =>
      rw [containsLoop, containsLoop, same]
      split
      · rfl
      · split
        · rfl
        · split
          · rfl
          · split
            · rfl
            · exact ih _

theorem contains_congr (same : ∀ id, t.scope id = t'.scope id)
    (length : t.scopes.length = t'.scopes.length) (ancestor descendant : String) :
    t.contains ancestor descendant = t'.contains ancestor descendant := by
  rw [contains, contains, same, same, length, containsLoop_congr same]

/-- What is bound to one index is bound to another one with the same answers, in any order. -/
theorem Bound.perm (bound : t.Bound) (sameScope : ∀ id, t.scope id = t'.scope id)
    (length : t.scopes.length = t'.scopes.length) (sites : t.sites.Perm t'.sites)
    (zones : t.zones.Perm t'.zones) : t'.Bound := by
  have distinct : (t.sites.map (·.id)).Nodup := by
    rw [List.Nodup, List.pairwise_map]
    exact bound.sitesApart.imp fun apart => apart.1
  have sameSite : ∀ id, t.site id = t'.site id := find?_key_perm sites distinct
  have sameContains := contains_congr sameScope length
  refine ⟨fun s listed => ?_, ?_, fun z listed => ?_, (zones.map _).nodup_iff.mp bound.zonesApart⟩
  · have valid := bound.sites s (sites.mem_iff.mpr listed)
    rwa [validateSite, sameScope] at valid
  · exact (sites.pairwise_iff fun apart => ⟨apart.1.symm, apart.2.symm⟩).mp bound.sitesApart
  · have valid := bound.zones z (zones.mem_iff.mpr listed)
    simpa only [validateManagementZone, sameScope, sameSite, sameContains] using valid

end Topology

theorem IsTree.perm {scopes scopes' : List Scope} (perm : scopes.Perm scopes')
    (tree : IsTree scopes) : IsTree scopes' := by
  have links : ParentLink scopes = ParentLink scopes' := by
    funext child parent
    simp only [ParentLink, perm.mem_iff]
  refine ⟨fun s listed => tree.valid s (perm.mem_iff.mpr listed),
    (perm.map _).nodup_iff.mp tree.distinct, ?_, fun s listed => ?_⟩
  · obtain ⟨root, listed, isGlobal, only⟩ := tree.oneRoot
    exact ⟨root, perm.mem_iff.mp listed, isGlobal, fun s here =>
      only s (perm.mem_iff.mpr here)⟩
  · obtain ⟨root, rooted, isGlobal, path⟩ := tree.reaches s (perm.mem_iff.mpr listed)
    exact ⟨root, perm.mem_iff.mp rooted, isGlobal, links ▸ path⟩

section

variable {scopes scopes' : List Scope} {sites sites' : List Site}
  {zones zones' : List ManagementZone}

/-- Reordered lists are accepted like the lists. -/
theorem newTopology_perm_ok (scopePerm : scopes.Perm scopes') (sitePerm : sites.Perm sites')
    (zonePerm : zones.Perm zones') {t : Topology}
    (accepted : newTopology scopes sites zones = some (.ok t)) :
    ∃ t', newTopology scopes' sites' zones' = some (.ok t') := by
  obtain ⟨rfl, tree, bound⟩ := newTopology_ok_iff.mp accepted
  refine ⟨_, newTopology_ok_iff.mpr ⟨rfl, tree.perm scopePerm, ?_⟩⟩
  exact bound.perm (find?_key_perm scopePerm tree.distinct) scopePerm.length_eq sitePerm zonePerm

/-- **Whether the lists are accepted does not depend on their order.** -/
theorem newTopology_perm (scopePerm : scopes.Perm scopes') (sitePerm : sites.Perm sites')
    (zonePerm : zones.Perm zones') :
    (∃ t, newTopology scopes sites zones = some (.ok t)) ↔
      ∃ t, newTopology scopes' sites' zones' = some (.ok t) :=
  ⟨fun ⟨_, accepted⟩ => newTopology_perm_ok scopePerm sitePerm zonePerm accepted,
    fun ⟨_, accepted⟩ =>
      newTopology_perm_ok scopePerm.symm sitePerm.symm zonePerm.symm accepted⟩

/-- The scopes alone are accepted exactly when they are a tree. -/
theorem newTopology_scopes_iff :
    (∃ t, newTopology scopes [] [] = some (.ok t)) ↔ IsTree scopes := by
  constructor
  · rintro ⟨t, accepted⟩
    exact (newTopology_ok_iff.mp accepted).2.1
  · intro tree
    exact ⟨_, newTopology_ok_iff.mpr ⟨rfl, tree, by simp [topologyOf], by simp [topologyOf],
      by simp [topologyOf], by simp [topologyOf]⟩⟩

end

/-- In a tree the root contains every known scope. -/
theorem IsTree.contains_root {scopes : List Scope} {sites : List Site}
    {zones : List ManagementZone} (tree : IsTree scopes) {id : String}
    (known : ((topologyOf scopes sites zones).scope id).isSome) :
    (topologyOf scopes sites zones).contains (topologyOf scopes sites zones).rootID id = true := by
  have whole : IsTree (topologyOf scopes sites zones).scopes := tree
  obtain ⟨root, rooted, isGlobal, only, isRoot⟩ := @IsTree.exists_root scopes sites zones tree
  obtain ⟨s, listed, rfl⟩ := List.mem_map.mp (Topology.scope_isSome.mp known)
  obtain ⟨root', rooted', isGlobal', path⟩ := tree.reaches s listed
  rw [only root' rooted' isGlobal'] at path
  rw [isRoot]
  refine whole.contains_iff.mpr ⟨Topology.scope_isSome.mpr ?_, known, path⟩
  exact List.mem_map_of_mem rooted

/-- **`NewTopology` accepts rooted trees and `Contains` is their order.** -/
theorem topology_is_rooted_tree (scopes : List Scope) (sites : List Site)
    (zones : List ManagementZone) :
    newTopology scopes sites zones ≠ none ∧
    (∀ scopes' sites' zones', scopes.Perm scopes' → sites.Perm sites' → zones.Perm zones' →
      ((∃ t, newTopology scopes sites zones = some (.ok t)) ↔
        ∃ t, newTopology scopes' sites' zones' = some (.ok t))) ∧
    ((∃ t, newTopology scopes [] [] = some (.ok t)) ↔ IsTree scopes) ∧
    ∀ t, newTopology scopes sites zones = some (.ok t) →
      IsTree scopes ∧
      (∀ a, (t.scope a).isSome → t.contains a a = true) ∧
      (∀ a b c, t.contains a b = true → t.contains b c = true → t.contains a c = true) ∧
      (∀ a b, t.contains a b = true → t.contains b a = true → a = b) ∧
      (∀ a d, t.contains a d = true ↔ (t.scope a).isSome ∧ (t.scope d).isSome ∧
        Relation.ReflTransGen (ParentLink scopes) d a) ∧
      (∀ d, (t.scope d).isSome → t.contains t.rootID d = true) ∧
      (∀ a b d, t.contains a d = true → t.contains b d = true →
        t.contains a b = true ∨ t.contains b a = true) ∧
      ∀ a d, (t.scope d).isSome → (t.containsLoop a (t.scopes.length + 1) d).isSome := by
  refine ⟨newTopology_ends, fun _ _ _ => newTopology_perm, newTopology_scopes_iff,
    fun t accepted => ?_⟩
  obtain ⟨rfl, tree, -⟩ := newTopology_ok_iff.mp accepted
  have whole : IsTree (topologyOf scopes sites zones).scopes := tree
  refine ⟨tree, fun _ => whole.contains_refl, fun _ _ _ => whole.contains_trans,
    fun _ _ => whole.contains_antisymm, fun _ _ => whole.contains_iff,
    fun _ => tree.contains_root, fun _ _ _ => whole.contains_chain, fun a d known => ?_⟩
  obtain ⟨answer, answered, -⟩ := whole.containsLoop_ends (Topology.scope_isSome.mp known) a
  rw [answered]
  rfl

def sampleScopes : List Scope :=
  [⟨"rack", .resource, "Rack", "berlin", []⟩, ⟨"root", .global, "Root", "", []⟩,
    ⟨"berlin", .site, "Berlin", "root", [.desiredState]⟩]

def sampleSites : List Site := [⟨"site-1", "Berlin", "berlin"⟩]

def sampleZones : List ManagementZone := [⟨"zone-1", "Racks", "rack", "site-1"⟩]

def sampleTopology : Topology := topologyOf sampleScopes sampleSites sampleZones

theorem topology_is_rooted_tree_sample :
    newTopology sampleScopes sampleSites sampleZones = some (.ok sampleTopology) ∧
      sampleTopology.contains sampleTopology.rootID "rack" = true :=
  have accepted : newTopology sampleScopes sampleSites sampleZones = some (.ok sampleTopology) := by
    decide +kernel
  have known : (sampleTopology.scope "rack").isSome = true := by decide
  have facts := (topology_is_rooted_tree sampleScopes sampleSites sampleZones).2.2.2 _ accepted
  ⟨accepted, facts.2.2.2.2.2.1 "rack" known⟩

end ControlCenter.CoreContracts
