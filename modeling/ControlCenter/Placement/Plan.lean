import ControlCenter.CoreContracts.Metadata
import ControlCenter.CoreContracts.Roles
import ControlCenter.Library.Adjacent
import ControlCenter.Library.Collect
import ControlCenter.Library.Marshal
import ControlCenter.Library.Sorting
import Mathlib.Data.Prod.Lex

/-!
# Placement plans

`internal/placement/plan.go`: a workload is placed on the eligible node that it loads least. A
node is eligible when it is healthy, schedulable, has the role, is in an allowed site and zone, is
not excluded, and has room. The load of a node is the largest share of its three resources in
use, in millionths.

The room is tested without overflow, so what is selected always fits (`fits_iff`). The share is
computed as `(used + need) * 1_000_000 / allocatable` in 64 bits, and the product is reduced
modulo 2^64 (`ppm_toNat`). A share is exact if its product stays below 2^64 and too small
otherwise (`ppm_eq_iff`). So the load of the selected node is either exact or too small, and the
plan names the eligible node with the smallest exact load exactly when it is exact
(`buildPlan_ranked`). A full node can appear half empty (`full_node_selected`).
-/

set_option autoImplicit false

namespace ControlCenter.Placement

open Library CoreContracts

/-! ## Model -/

def planContractV1 : String := "placement.plan/v1"

inductive WorkloadClass where
  | stateless
  | stateful
  | other (text : String)
  deriving DecidableEq

def WorkloadClass.text : WorkloadClass → String
  | .stateless => "stateless"
  | .stateful => "stateful"
  | .other text => text

structure Resources where
  cpuMillicores : UInt64
  memoryMiB : UInt64
  storageGiB : UInt64
  deriving DecidableEq

structure Candidate where
  nodeID : String
  siteID : String
  zoneID : String
  roles : List NodeRole
  healthy : Bool
  schedulable : Bool
  allocatable : Resources
  used : Resources
  deriving DecidableEq

structure Request where
  workloadID : String
  class' : WorkloadClass
  requiredRole : NodeRole
  allowedSites : List String
  allowedZones : List String
  antiAffinityNodeIDs : List String
  resources : Resources
  currentNodeID : String
  migrationAdapter : String
  healthyReplicasOutsideNode : UInt32
  topologyGeneration : UInt64
  topologyResourceVersion : String
  deriving DecidableEq

structure Plan where
  contractVersion : String
  planID : String
  workloadID : String
  selectedNodeID : String
  selectedSiteID : String
  selectedZoneID : String
  resources : Resources
  dominantUtilizationPPM : UInt64
  topologyGeneration : UInt64
  topologyResourceVersion : String
  requiresApprovedChange : Bool
  requiresDurableJob : Bool
  requiresAudit : Bool
  revalidateBeforeExecute : Bool
  planOnly : Bool
  hostMutation : Bool
  deriving DecidableEq

/-- Every error of the package is an invalid plan. -/
def invalid (reason : String) : String := "invalid placement plan: " ++ reason

def identifier (field value : String) : List (Bool × String) :=
  (value == "" || decide (128 < value.utf8ByteSize) || trimSpace value != value,
      invalid (field ++ " is required and must be canonical")) ::
    value.toList.zipIdx.flatMap fun (character, index) =>
      [(!character.isAlphanum && character != '.' && character != '_' &&
            character != ':' && character != '-',
          invalid (field ++ " is not a canonical identifier")),
        ((index == 0 || index == value.utf8ByteSize - 1) && !character.isAlphanum,
          invalid (field ++ " must have alphanumeric ends"))]

def canonicalIDs (field : String) (values : List String) : Except String (List String) := do
  firstFailure (values.flatMap fun value => identifier field (trimSpace value))
  let result := (values.map trimSpace).insertionSort (· ≤ ·)
  firstFailure (adjacentChecks (fun before value => value == before)
    (fun _ value => invalid (field ++ " contains duplicate " ++ quoted value)) result)
  return result

def contains (values : List String) (wanted : String) : Bool :=
  values[searchStrings values wanted]? == some wanted

def allowed (value : String) (allowedValues : List String) : Bool :=
  allowedValues.isEmpty || contains allowedValues value

/-- Some quantity is zero. -/
def Resources.anyZero (r : Resources) : Bool :=
  r.cpuMillicores == 0 || r.memoryMiB == 0 || r.storageGiB == 0

/-- Some quantity of the first is larger than that of the second. -/
def Resources.anyAbove (r limit : Resources) : Bool :=
  decide (limit.cpuMillicores < r.cpuMillicores) || decide (limit.memoryMiB < r.memoryMiB) ||
    decide (limit.storageGiB < r.storageGiB)

/-- The tests of a trimmed request before its lists. -/
def Request.scalarChecks (r : Request) : List (Bool × String) :=
  identifier "workload_id" r.workloadID ++
  [(r.class' != .stateless && r.class' != .stateful,
      invalid ("unsupported workload class " ++ quoted r.class'.text)),
    (!r.requiredRole.valid, invalid "required_role is not canonical"),
    (r.resources.anyZero, invalid "resource requirements must be positive"),
    (r.topologyGeneration == 0, invalid "topology_generation is required")] ++
  identifier "topology_resource_version" r.topologyResourceVersion

/-- The tests of the two optional names, after the lists. -/
def Request.optionalChecks (r : Request) : List (Bool × String) :=
  (if r.currentNodeID = "" then [] else identifier "current_node_id" r.currentNodeID) ++
  (if r.migrationAdapter = "" then [] else identifier "migration_adapter" r.migrationAdapter)

def Request.trimmed (r : Request) : Request :=
  { r with
    workloadID := trimSpace r.workloadID
    currentNodeID := trimSpace r.currentNodeID
    migrationAdapter := trimSpace r.migrationAdapter
    topologyResourceVersion := trimSpace r.topologyResourceVersion }

def normalizeRequest (request : Request) : Except String Request := do
  firstFailure request.trimmed.scalarChecks
  let sites ← canonicalIDs "allowed_sites" request.allowedSites
  let zones ← canonicalIDs "allowed_zones" request.allowedZones
  let apart ← canonicalIDs "anti_affinity_node_ids" request.antiAffinityNodeIDs
  firstFailure request.trimmed.optionalChecks
  return { request.trimmed with
    allowedSites := sites, allowedZones := zones, antiAffinityNodeIDs := apart }

def Candidate.trimmed (c : Candidate) : Candidate :=
  { c with
    nodeID := trimSpace c.nodeID
    siteID := trimSpace c.siteID
    zoneID := trimSpace c.zoneID }

/-- The tests of a trimmed candidate. The source goes over the three names in the order of a
map. -/
def Candidate.checks (c : Candidate) : List (Bool × String) :=
  identifier "node_id" c.nodeID ++ identifier "site_id" c.siteID ++
  identifier "zone_id" c.zoneID ++
  [(c.allocatable.anyZero,
      invalid ("candidate " ++ quoted c.nodeID ++ " has zero allocatable resource")),
    (c.used.anyAbove c.allocatable,
      invalid ("candidate " ++ quoted c.nodeID ++ " usage exceeds allocatable resources")),
    (c.roles.isEmpty, invalid ("candidate " ++ quoted c.nodeID ++ " has no roles"))] ++
  c.roles.map fun role =>
    (!role.valid, invalid ("candidate " ++ quoted c.nodeID ++ " has invalid role"))

def sortRoles (roles : List NodeRole) : List NodeRole :=
  roles.insertionSort fun a b => a.text ≤ b.text

def normalizeCandidate (candidate : Candidate) : Except String Candidate := do
  let c := candidate.trimmed
  firstFailure c.checks
  firstFailure (adjacentChecks (fun before role => role == before)
    (fun _ _ => invalid ("candidate " ++ quoted c.nodeID ++ " repeats a role"))
    (sortRoles c.roles))
  return { c with roles := sortRoles c.roles }

def fits (candidate : Candidate) (need : Resources) : Bool :=
  decide (need.cpuMillicores ≤
    candidate.allocatable.cpuMillicores - candidate.used.cpuMillicores) &&
  decide (need.memoryMiB ≤ candidate.allocatable.memoryMiB - candidate.used.memoryMiB) &&
  decide (need.storageGiB ≤ candidate.allocatable.storageGiB - candidate.used.storageGiB)

/-- The share of one resource, in 64 bits. -/
def ppm (used need allocatable : UInt64) : UInt64 := (used + need) * 1000000 / allocatable

/-- The first of the three shares in descending order. -/
def dominantPPM (candidate : Candidate) (need : Resources) : UInt64 :=
  max (max
    (ppm candidate.used.cpuMillicores need.cpuMillicores candidate.allocatable.cpuMillicores)
    (ppm candidate.used.memoryMiB need.memoryMiB candidate.allocatable.memoryMiB))
    (ppm candidate.used.storageGiB need.storageGiB candidate.allocatable.storageGiB)

/-- The test that lets a candidate into the ranking. -/
def Request.admits (request : Request) (candidate : Candidate) : Bool :=
  candidate.healthy && candidate.schedulable && candidate.roles.contains request.requiredRole &&
    allowed candidate.siteID request.allowedSites &&
    allowed candidate.zoneID request.allowedZones &&
    !contains request.antiAffinityNodeIDs candidate.nodeID && fits candidate request.resources

structure Ranked where
  candidate : Candidate
  score : UInt64
  deriving DecidableEq

def rankedLess (a b : Ranked) : Bool :=
  if a.score ≠ b.score then decide (a.score < b.score)
  else decide (a.candidate.nodeID < b.candidate.nodeID)

def Resources.json (r : Resources) : Json :=
  .record [("cpu_millicores", .nat r.cpuMillicores.toNat), ("memory_mib", .nat r.memoryMiB.toNat),
    ("storage_gib", .nat r.storageGiB.toNat)]

def Candidate.json (c : Candidate) : Json :=
  .record [("node_id", .string c.nodeID), ("site_id", .string c.siteID),
    ("zone_id", .string c.zoneID), ("roles", .arr (c.roles.map fun role => .string role.text)),
    ("healthy", .bool c.healthy), ("schedulable", .bool c.schedulable),
    ("allocatable", c.allocatable.json), ("used", c.used.json)]

/-- A list that is left out when it is empty. -/
def jsonStrings (name : String) (values : List String) : List (String × Json) :=
  if values = [] then [] else [(name, .arr (values.map Json.string))]

def Request.json (r : Request) : Json :=
  .record ([("workload_id", .string r.workloadID), ("class", .string r.class'.text),
      ("required_role", .string r.requiredRole.text)] ++
    jsonStrings "allowed_sites" r.allowedSites ++ jsonStrings "allowed_zones" r.allowedZones ++
    jsonStrings "anti_affinity_node_ids" r.antiAffinityNodeIDs ++
    [("resources", r.resources.json)] ++ Json.omitEmpty "current_node_id" r.currentNodeID ++
    Json.omitEmpty "migration_adapter" r.migrationAdapter ++
    [("healthy_replicas_outside_node", .nat r.healthyReplicasOutsideNode.toNat),
      ("topology_generation", .nat r.topologyGeneration.toNat),
      ("topology_resource_version", .string r.topologyResourceVersion)])

def planOf (request : Request) (selected : Ranked) : Plan :=
  let fingerprint := Json.record [("request", request.json),
    ("selected", selected.candidate.json), ("score", .nat selected.score.toNat)]
  { contractVersion := planContractV1
    planID := "plc-" ++ String.ofList ((sha256Hex fingerprint.bytes).toList.take 24)
    workloadID := request.workloadID
    selectedNodeID := selected.candidate.nodeID
    selectedSiteID := selected.candidate.siteID
    selectedZoneID := selected.candidate.zoneID
    resources := request.resources
    dominantUtilizationPPM := selected.score
    topologyGeneration := request.topologyGeneration
    topologyResourceVersion := request.topologyResourceVersion
    requiresApprovedChange := true
    requiresDurableJob := true
    requiresAudit := true
    revalidateBeforeExecute := true
    planOnly := true
    hostMutation := false }

/-- The eligible candidates in the order of their scores. -/
def rank (request : Request) (candidates : List Candidate) : List Ranked :=
  ((candidates.filter request.admits).map fun c => ⟨c, dominantPPM c request.resources⟩)
    |>.insertionSort fun a b => rankedLess b a = false

/-- The first ranked candidate, if the workload may move there. -/
def choose (request : Request) : List Ranked → Except String Ranked
  | [] => .error (invalid "no healthy schedulable candidate satisfies placement constraints")
  | selected :: _ =>
      if request.class' = .stateful ∧ request.currentNodeID ≠ "" ∧
          selected.candidate.nodeID ≠ request.currentNodeID ∧
          (request.migrationAdapter = "" ∨ request.healthyReplicasOutsideNode = 0) then
        .error (invalid ("stateful move requires a migration adapter and a healthy replica " ++
          "outside the current node"))
      else .ok selected

/-- The normal request and what is selected for it. -/
def select (raw : Request) (candidates : List Candidate) : Except String (Request × Ranked) := do
  let request ← normalizeRequest raw
  firstFailure [(candidates.isEmpty || decide (4096 < candidates.length),
    invalid "candidates must contain between 1 and 4096 nodes")]
  let known ← collect normalizeCandidate Candidate.nodeID
    (fun c => invalid ("duplicate candidate " ++ quoted c.nodeID)) [] candidates
  let selected ← choose request (rank request known)
  return (request, selected)

def buildPlan (raw : Request) (candidates : List Candidate) : Except String Plan := do
  let (request, selected) ← select raw candidates
  return planOf request selected

/-! ## Lists of names -/

theorem canonicalIDs_ok {field : String} {values result : List String} :
    canonicalIDs field values = .ok result ↔
      (∀ value ∈ values, Passes (identifier field (trimSpace value))) ∧
      (values.map trimSpace).Nodup ∧ result = (values.map trimSpace).insertionSort (· ≤ ·) := by
  have sorted := List.pairwise_insertionSort (· ≤ ·) (values.map trimSpace)
  have apart := @isChain_ne_iff_nodup _ _ _ id _ sorted
  rw [List.map_id, (List.perm_insertionSort _ _).nodup_iff] at apart
  simp only [canonicalIDs, except_check_ok, firstFailure_passes, passes_adjacentChecks,
    beq_eq_false_iff_ne, ← apart, id_eq, ne_comm, pure, Except.pure, Except.ok.injEq,
    @eq_comm _ _ result]
  simp only [Passes, List.forall_mem_flatMap]

theorem canonicalIDs_perm {field : String} {values values' result : List String}
    (perm : values.Perm values') (canonical : canonicalIDs field values = .ok result) :
    canonicalIDs field values' = .ok result := by
  obtain ⟨named, distinct, rfl⟩ := canonicalIDs_ok.mp canonical
  have trimmed := perm.map trimSpace
  refine canonicalIDs_ok.mpr ⟨fun value listed => named value (perm.mem_iff.mpr listed),
    trimmed.nodup_iff.mp distinct, ?_⟩
  exact insertionSort_eq_of_perm _ trimmed fun a _ b _ => le_antisymm

/-- On a sorted list the search finds what is there. -/
theorem contains_iff {values : List String} (sorted : values.Pairwise (· ≤ ·)) {wanted : String} :
    contains values wanted = true ↔ wanted ∈ values := by
  simp only [contains, searchStrings, beq_iff_eq]
  induction values with
  | nil => simp
  | cons value rest ih =>
      obtain ⟨below, sorted⟩ := List.pairwise_cons.mp sorted
      by_cases reached : wanted ≤ value
      · simp only [List.findIdx_cons, decide_eq_true reached, cond_true, List.getElem?_cons_zero,
          Option.some.injEq, List.mem_cons]
        constructor
        · exact fun same => .inl same.symm
        · rintro (same | later)
          · exact same.symm
          · exact le_antisymm (below wanted later) reached
      · have other : wanted ≠ value := fun same => reached same.le
        simp [List.findIdx_cons, reached, ih sorted, other]

theorem contains_canonicalIDs {field : String} {values result : List String}
    (canonical : canonicalIDs field values = .ok result) {wanted : String} :
    contains result wanted = true ↔ wanted ∈ values.map trimSpace := by
  obtain ⟨-, -, rfl⟩ := canonicalIDs_ok.mp canonical
  rw [contains_iff (List.pairwise_insertionSort _ _), List.mem_insertionSort]

theorem allowed_canonicalIDs {field : String} {values result : List String}
    (canonical : canonicalIDs field values = .ok result) {value : String} :
    allowed value result = true ↔ values = [] ∨ value ∈ values.map trimSpace := by
  have empty : result.isEmpty = true ↔ values = [] := by
    obtain ⟨-, -, rfl⟩ := canonicalIDs_ok.mp canonical
    rw [List.isEmpty_iff_length_eq_zero, List.length_insertionSort, List.length_map,
      List.length_eq_zero_iff]
  rw [allowed, Bool.or_eq_true, empty, contains_canonicalIDs canonical]

/-! ## Requests and candidates -/

/-- What a normal request keeps of the raw one. -/
structure Request.Normal (raw request : Request) : Prop where
  scalars : Passes raw.trimmed.scalarChecks
  sites : canonicalIDs "allowed_sites" raw.allowedSites = .ok request.allowedSites
  zones : canonicalIDs "allowed_zones" raw.allowedZones = .ok request.allowedZones
  apart : canonicalIDs "anti_affinity_node_ids" raw.antiAffinityNodeIDs =
    .ok request.antiAffinityNodeIDs
  optional : Passes raw.trimmed.optionalChecks
  rest : request = { raw.trimmed with
    allowedSites := request.allowedSites
    allowedZones := request.allowedZones
    antiAffinityNodeIDs := request.antiAffinityNodeIDs }

theorem normalizeRequest_ok {raw request : Request} :
    normalizeRequest raw = .ok request ↔ raw.Normal request := by
  rw [normalizeRequest, except_check_ok, firstFailure_passes]
  simp only [except_bind_ok, pure, Except.pure, Except.ok.injEq]
  constructor
  · rintro ⟨scalars, sites, first, zones, second, apart, third, ⟨⟩, optional, rfl⟩
    exact ⟨scalars, first, second, third, firstFailure_passes.mp optional, rfl⟩
  · rintro ⟨scalars, first, second, third, optional, rest⟩
    exact ⟨scalars, _, first, _, second, _, third, (), firstFailure_passes.mpr optional, rest.symm⟩

/-- The roles of the contract. -/
def contractRoles : List NodeRole :=
  [.managementNode, .globalController, .siteController, .controllerClusterMember, .workerNode,
    .managedNode, .agent, .dataNode, .consensusNode, .repositoryNode, .telemetryNode,
    .backupRepositoryNode, .edgeGateway]

theorem mem_contractRoles {role : NodeRole} (valid : role.valid = true) : role ∈ contractRoles := by
  cases role with
  | other text => cases valid
  | _ => simp [contractRoles]

theorem role_eq_of_text {a b : NodeRole} (valid : a.valid = true) (valid' : b.valid = true)
    (same : a.text = b.text) : a = b := by
  have apart : ∀ a ∈ contractRoles, ∀ b ∈ contractRoles, a.text = b.text → a = b := by
    decide +kernel
  exact apart a (mem_contractRoles valid) b (mem_contractRoles valid') same

instance : Std.Total fun a b : NodeRole => a.text ≤ b.text := ⟨fun a b => le_total a.text b.text⟩

instance : IsTrans NodeRole fun a b => a.text ≤ b.text := ⟨fun _ _ _ => le_trans⟩

theorem sortRoles_perm (roles : List NodeRole) : (sortRoles roles).Perm roles :=
  List.perm_insertionSort _ _

theorem sortRoles_eq {roles roles' : List NodeRole} (valid : ∀ role ∈ roles, role.valid = true)
    (perm : roles.Perm roles') : sortRoles roles = sortRoles roles' :=
  insertionSort_eq_of_perm _ perm fun a listed b listed' first second =>
    role_eq_of_text (valid a listed) (valid b listed') (le_antisymm first second)

/-- What a normal candidate keeps of the raw one. -/
structure Candidate.Normal (raw c : Candidate) : Prop where
  checks : Passes raw.trimmed.checks
  distinct : (sortRoles raw.roles).IsChain fun before role => (role == before) = false
  form : c = { raw.trimmed with roles := sortRoles raw.roles }

theorem normalizeCandidate_ok {raw c : Candidate} :
    normalizeCandidate raw = .ok c ↔ raw.Normal c := by
  simp only [normalizeCandidate, except_check_ok, firstFailure_passes, passes_adjacentChecks, pure,
    Except.pure, Except.ok.injEq, @eq_comm _ _ c]
  exact ⟨fun ⟨checks, distinct, form⟩ => ⟨checks, distinct, form⟩,
    fun ⟨checks, distinct, form⟩ => ⟨checks, distinct, form⟩⟩

/-- The candidates agree up to the order of their roles. -/
structure Candidate.Reordered (c c' : Candidate) : Prop where
  roles : c.roles.Perm c'.roles
  rest : c' = { c with roles := c'.roles }

theorem Candidate.Normal.reordered {raw raw' c : Candidate} (normal : raw.Normal c)
    (same : raw.Reordered raw') : raw'.Normal c := by
  obtain ⟨checks, distinct, rfl⟩ := normal
  obtain ⟨perm, rest⟩ := same
  have valid : ∀ role ∈ raw.roles, role.valid = true := by
    rw [Candidate.checks, passes_append, passes_map] at checks
    simpa [Candidate.trimmed] using checks.2
  have sorted := sortRoles_eq valid perm
  rw [rest]
  refine ⟨?_, sorted ▸ distinct, by rw [sorted]; rfl⟩
  have empty : raw'.roles.isEmpty = raw.roles.isEmpty := by
    rw [Bool.eq_iff_iff, List.isEmpty_iff, List.isEmpty_iff]
    exact ⟨fun none => List.perm_nil.mp (none ▸ perm), fun none => List.nil_perm.mp (none ▸ perm)⟩
  simp only [Candidate.checks, Candidate.trimmed, passes_append, passes_cons, passes_nil,
    passes_map, empty] at checks ⊢
  exact ⟨checks.1, fun role listed => checks.2 role (perm.mem_iff.mpr listed)⟩

/-! ## Shares -/

section

variable {used need allocatable : UInt64}

/-- The subtraction does not wrap, because no more is in use than there is. -/
theorem room_iff (within : ¬ allocatable < used) :
    need ≤ allocatable - used ↔ used.toNat + need.toNat ≤ allocatable.toNat := by
  have below := UInt64.not_lt.mp within
  rw [UInt64.le_iff_toNat_le, UInt64.toNat_sub_of_le _ _ below]
  rw [UInt64.le_iff_toNat_le] at below
  omega

/-- The share of a resource over the natural numbers. -/
def exactShare (used need allocatable : UInt64) : Nat :=
  1000000 * (used.toNat + need.toNat) / allocatable.toNat

theorem ppm_toNat (room : used.toNat + need.toNat ≤ allocatable.toNat) :
    (ppm used need allocatable).toNat =
      1000000 * (used.toNat + need.toNat) % 2 ^ 64 / allocatable.toNat := by
  have small := allocatable.toNat_lt
  have sum : (used.toNat + need.toNat) % 2 ^ 64 = used.toNat + need.toNat :=
    Nat.mod_eq_of_lt (by omega)
  rw [ppm, UInt64.toNat_div, UInt64.toNat_mul, UInt64.toNat_add, sum, Nat.mul_comm]
  rfl

theorem ppm_le (room : used.toNat + need.toNat ≤ allocatable.toNat) :
    (ppm used need allocatable).toNat ≤ exactShare used need allocatable := by
  rw [ppm_toNat room, exactShare]
  exact Nat.div_le_div_right (Nat.mod_le _ _)

/-- **A share is exact exactly when its product does not wrap.** -/
theorem ppm_eq_iff (room : used.toNat + need.toNat ≤ allocatable.toNat) :
    (ppm used need allocatable).toNat = exactShare used need allocatable ↔
      1000000 * (used.toNat + need.toNat) < 2 ^ 64 := by
  have small := allocatable.toNat_lt
  rw [ppm_toNat room, exactShare]
  constructor
  · intro same
    by_contra wraps
    -- what is lost is at least the capacity
    have positive : 0 < allocatable.toNat := by omega
    have lost : 1000000 * (used.toNat + need.toNat) % 2 ^ 64 + allocatable.toNat ≤
        1000000 * (used.toNat + need.toNat) := by omega
    have smaller := Nat.div_le_div_right (c := allocatable.toNat) lost
    rw [Nat.add_div_right _ positive] at smaller
    omega
  · intro fits
    rw [Nat.mod_eq_of_lt fits]

theorem exactShare_le (room : used.toNat + need.toNat ≤ allocatable.toNat) :
    exactShare used need allocatable ≤ 1000000 := by
  refine Nat.div_le_of_le_mul ?_
  rw [Nat.mul_comm allocatable.toNat]
  exact Nat.mul_le_mul_left _ room

theorem toNat_max (a b : UInt64) : (max a b).toNat = max a.toNat b.toNat := by
  change (if a ≤ b then b else a).toNat = _
  simp only [max_def, UInt64.le_iff_toNat_le]
  split_ifs <;> rfl

end

/-- The workload fits into what is left of each resource. -/
structure Fits (c : Candidate) (need : Resources) : Prop where
  cpu : c.used.cpuMillicores.toNat + need.cpuMillicores.toNat ≤ c.allocatable.cpuMillicores.toNat
  memory : c.used.memoryMiB.toNat + need.memoryMiB.toNat ≤ c.allocatable.memoryMiB.toNat
  storage : c.used.storageGiB.toNat + need.storageGiB.toNat ≤ c.allocatable.storageGiB.toNat

theorem fits_iff {c : Candidate} {need : Resources}
    (within : c.used.anyAbove c.allocatable = false) : fits c need = true ↔ Fits c need := by
  simp only [Resources.anyAbove, Bool.or_eq_false_iff, decide_eq_false_iff_not] at within
  simp only [fits, Bool.and_eq_true, decide_eq_true_eq, room_iff within.1.1, room_iff within.1.2,
    room_iff within.2]
  exact ⟨fun ⟨⟨cpu, memory⟩, storage⟩ => ⟨cpu, memory, storage⟩,
    fun ⟨cpu, memory, storage⟩ => ⟨⟨cpu, memory⟩, storage⟩⟩

/-- The largest share over the natural numbers. -/
def exactPPM (c : Candidate) (need : Resources) : Nat :=
  max (max
    (exactShare c.used.cpuMillicores need.cpuMillicores c.allocatable.cpuMillicores)
    (exactShare c.used.memoryMiB need.memoryMiB c.allocatable.memoryMiB))
    (exactShare c.used.storageGiB need.storageGiB c.allocatable.storageGiB)

/-- The product of a resource with the largest share does not reach 2^64. -/
def Exact (c : Candidate) (need : Resources) : Prop :=
  1000000 * (c.used.cpuMillicores.toNat + need.cpuMillicores.toNat) < 2 ^ 64 ∧
      exactShare c.used.cpuMillicores need.cpuMillicores c.allocatable.cpuMillicores =
        exactPPM c need ∨
    1000000 * (c.used.memoryMiB.toNat + need.memoryMiB.toNat) < 2 ^ 64 ∧
      exactShare c.used.memoryMiB need.memoryMiB c.allocatable.memoryMiB = exactPPM c need ∨
    1000000 * (c.used.storageGiB.toNat + need.storageGiB.toNat) < 2 ^ 64 ∧
      exactShare c.used.storageGiB need.storageGiB c.allocatable.storageGiB = exactPPM c need

theorem dominantPPM_le {c : Candidate} {need : Resources} (room : Fits c need) :
    (dominantPPM c need).toNat ≤ exactPPM c need := by
  rw [dominantPPM, toNat_max, toNat_max]
  exact max_le_max (max_le_max (ppm_le room.cpu) (ppm_le room.memory)) (ppm_le room.storage)

theorem dominantPPM_eq_iff {c : Candidate} {need : Resources} (room : Fits c need) :
    (dominantPPM c need).toNat = exactPPM c need ↔ Exact c need := by
  have cpu := ppm_le room.cpu
  have memory := ppm_le room.memory
  have storage := ppm_le room.storage
  rw [Exact, ← ppm_eq_iff room.cpu, ← ppm_eq_iff room.memory, ← ppm_eq_iff room.storage,
    dominantPPM, toNat_max, toNat_max, exactPPM]
  omega

theorem exactPPM_le {c : Candidate} {need : Resources} (room : Fits c need) :
    exactPPM c need ≤ 1000000 :=
  max_le (max_le (exactShare_le room.cpu) (exactShare_le room.memory)) (exactShare_le room.storage)

/-! ## Eligible candidates -/

/-- The candidate may take the workload. -/
structure Eligible (request : Request) (c : Candidate) : Prop where
  healthy : c.healthy = true
  schedulable : c.schedulable = true
  role : request.requiredRole ∈ c.roles
  site : request.allowedSites = [] ∨ trimSpace c.siteID ∈ request.allowedSites.map trimSpace
  zone : request.allowedZones = [] ∨ trimSpace c.zoneID ∈ request.allowedZones.map trimSpace
  apart : trimSpace c.nodeID ∉ request.antiAffinityNodeIDs.map trimSpace
  room : Fits c request.resources

theorem Candidate.Normal.within {raw c : Candidate} (normal : raw.Normal c) :
    raw.used.anyAbove raw.allocatable = false := by
  have checks := normal.checks
  simp only [Candidate.checks, passes_append, passes_cons] at checks
  exact checks.1.2.2.1

theorem admits_iff {raw request : Request} {rawCandidate c : Candidate}
    (normal : raw.Normal request) (normal' : rawCandidate.Normal c) :
    request.admits c = true ↔ Eligible raw rawCandidate := by
  have within := normal'.within
  obtain ⟨-, -, rfl⟩ := normal'
  have role : request.requiredRole = raw.requiredRole := by rw [normal.rest]; rfl
  have resources : request.resources = raw.resources := by rw [normal.rest]; rfl
  have listed : (sortRoles rawCandidate.roles).contains raw.requiredRole = true ↔
      raw.requiredRole ∈ rawCandidate.roles := by
    rw [List.contains_iff_mem, (sortRoles_perm _).mem_iff]
  have room : fits { rawCandidate.trimmed with roles := sortRoles rawCandidate.roles }
      raw.resources = true ↔ Fits rawCandidate raw.resources := fits_iff within
  simp only [Request.admits, Bool.and_eq_true, Bool.not_eq_true', role, resources, listed, room,
    allowed_canonicalIDs normal.sites, allowed_canonicalIDs normal.zones,
    ← Bool.not_eq_true, contains_canonicalIDs normal.apart]
  constructor
  · rintro ⟨⟨⟨⟨⟨⟨healthy, schedulable⟩, role⟩, site⟩, zone⟩, apart⟩, room⟩
    exact ⟨healthy, schedulable, role, site, zone, apart, room⟩
  · rintro ⟨healthy, schedulable, role, site, zone, apart, room⟩
    exact ⟨⟨⟨⟨⟨⟨healthy, schedulable⟩, role⟩, site⟩, zone⟩, apart⟩, room⟩

/-! ## The ranking -/

/-- The order of the ranking as a key. -/
def Ranked.key (r : Ranked) : Nat ×ₗ String := toLex (r.score.toNat, r.candidate.nodeID)

theorem rankedLess_iff {a b : Ranked} : rankedLess a b = true ↔ a.key < b.key := by
  rw [rankedLess, Ranked.key, Ranked.key, Prod.Lex.toLex_lt_toLex]
  by_cases same : a.score = b.score
  · simp [same]
  · have apart : a.score.toNat ≠ b.score.toNat := fun equal => same (UInt64.toNat_inj.mp equal)
    simp [same, apart, UInt64.lt_iff_toNat_lt]

theorem rankedLess_eq_false {a b : Ranked} : rankedLess b a = false ↔ a.key ≤ b.key := by
  rw [← Bool.not_eq_true, rankedLess_iff, not_lt]

instance : Std.Total fun a b : Ranked => rankedLess b a = false where
  total a b := by
    simp only [rankedLess_eq_false]
    exact le_total _ _

instance : IsTrans Ranked fun a b => rankedLess b a = false where
  trans a b c := by
    simp only [rankedLess_eq_false]
    exact le_trans

section

variable {request : Request} {known known' : List Candidate}

theorem mem_rank {r : Ranked} : r ∈ rank request known ↔
    r.candidate ∈ known ∧ request.admits r.candidate = true ∧
      r.score = dominantPPM r.candidate request.resources := by
  rw [rank, List.mem_insertionSort, List.mem_map]
  constructor
  · rintro ⟨c, listed, rfl⟩
    obtain ⟨member, admitted⟩ := List.mem_filter.mp listed
    exact ⟨member, admitted, rfl⟩
  · rintro ⟨member, admitted, score⟩
    exact ⟨r.candidate, List.mem_filter.mpr ⟨member, admitted⟩, by rw [← score]⟩

/-- What is chosen is ranked first. -/
theorem choose_ok {selected : Ranked}
    (chosen : choose request (rank request known) = .ok selected) :
    selected ∈ rank request known ∧ ∀ r ∈ rank request known, selected.key ≤ r.key := by
  have sorted := List.pairwise_insertionSort (fun a b : Ranked => rankedLess b a = false)
    ((known.filter request.admits).map fun c => ⟨c, dominantPPM c request.resources⟩)
  rw [← rank] at sorted
  cases ranked : rank request known with
  | nil => simp [ranked, choose] at chosen
  | cons first rest =>
      rw [ranked] at chosen sorted
      rw [choose] at chosen
      split_ifs at chosen
      cases chosen
      refine ⟨List.mem_cons_self, fun r listed => ?_⟩
      rcases List.mem_cons.mp listed with rfl | later
      · exact le_rfl
      · exact rankedLess_eq_false.mp ((List.pairwise_cons.mp sorted).1 r later)

/-- The order of the candidates does not matter, because their ids differ. -/
theorem rank_perm (distinct : (known.map Candidate.nodeID).Nodup) (perm : known.Perm known') :
    rank request known = rank request known' := by
  refine insertionSort_eq_of_perm _ ((perm.filter _).map _) ?_
  intro a listed b listed' first second
  have same := le_antisymm (rankedLess_eq_false.mp first) (rankedLess_eq_false.mp second)
  obtain ⟨c, member, rfl⟩ := List.mem_map.mp listed
  obtain ⟨c', member', rfl⟩ := List.mem_map.mp listed'
  have ids : c.nodeID = c'.nodeID := congrArg (fun key => (ofLex key).2) same
  rw [List.inj_on_of_nodup_map distinct (List.mem_filter.mp member).1
    (List.mem_filter.mp member').1 ids]

end

/-! ## Plans -/

theorem select_ok {raw request : Request} {candidates : List Candidate} {selected : Ranked} :
    select raw candidates = .ok (request, selected) ↔ raw.Normal request ∧
      (candidates.isEmpty || decide (4096 < candidates.length)) = false ∧
      ∃ known, candidates.Forall₂ Candidate.Normal known ∧
        (known.map Candidate.nodeID).Nodup ∧
        choose request (rank request known) = .ok selected := by
  simp only [select, except_bind_ok, normalizeRequest_ok, pure, Except.pure, Except.ok.injEq,
    Prod.mk.injEq, collect_ok, normalizeCandidate_ok]
  constructor
  · rintro ⟨_, normal, ⟨⟩, size, known, ⟨forms, distinct⟩, _, chosen, rfl, rfl⟩
    exact ⟨normal, by simpa using firstFailure_passes.mp size, known, forms, distinct, chosen⟩
  · rintro ⟨normal, size, known, forms, distinct, chosen⟩
    exact ⟨_, normal, (), firstFailure_passes.mpr (by simpa using size), known,
      ⟨forms, distinct⟩, _, chosen, rfl, rfl⟩

theorem buildPlan_ok {raw : Request} {candidates : List Candidate} {plan : Plan} :
    buildPlan raw candidates = .ok plan ↔ ∃ request selected,
      select raw candidates = .ok (request, selected) ∧ plan = planOf request selected := by
  simp only [buildPlan, except_bind_ok, pure, Except.pure, Except.ok.injEq, Prod.exists]
  exact ⟨fun ⟨request, selected, found, same⟩ => ⟨request, selected, found, same.symm⟩,
    fun ⟨request, selected, found, same⟩ => ⟨request, selected, found, same.symm⟩⟩

/-- The requests agree up to the order of their lists. -/
structure Request.Reordered (request request' : Request) : Prop where
  sites : request.allowedSites.Perm request'.allowedSites
  zones : request.allowedZones.Perm request'.allowedZones
  apart : request.antiAffinityNodeIDs.Perm request'.antiAffinityNodeIDs
  rest : request' = { request with
    allowedSites := request'.allowedSites
    allowedZones := request'.allowedZones
    antiAffinityNodeIDs := request'.antiAffinityNodeIDs }

/-- The lists agree up to the order of the candidates and of their roles. -/
def Reordered (candidates candidates' : List Candidate) : Prop :=
  ∃ middle, candidates.Forall₂ Candidate.Reordered middle ∧ middle.Perm candidates'

theorem Request.Normal.reordered {raw raw' request : Request} (normal : raw.Normal request)
    (same : raw.Reordered raw') : raw'.Normal request := by
  have trimmed : raw'.trimmed = { raw.trimmed with
      allowedSites := raw'.allowedSites
      allowedZones := raw'.allowedZones
      antiAffinityNodeIDs := raw'.antiAffinityNodeIDs } := by
    rw [same.rest]
    rfl
  refine ⟨?_, canonicalIDs_perm same.sites normal.sites, canonicalIDs_perm same.zones normal.zones,
    canonicalIDs_perm same.apart normal.apart, ?_, ?_⟩
  · rw [trimmed]
    exact normal.scalars
  · rw [trimmed]
    exact normal.optional
  · rw [trimmed]
    exact normal.rest

theorem forms_reordered {raws raws' items : List Candidate}
    (same : raws.Forall₂ Candidate.Reordered raws') (forms : raws.Forall₂ Candidate.Normal items) :
    raws'.Forall₂ Candidate.Normal items := by
  induction same generalizing items with
  | nil => exact forms
  | cons pair _ ih =>
      cases forms with
      | cons form forms => exact .cons (form.reordered pair) (ih forms)

theorem select_reordered {raw raw' request : Request} {candidates candidates' : List Candidate}
    {selected : Ranked} (same : raw.Reordered raw') (same' : Reordered candidates candidates')
    (found : select raw candidates = .ok (request, selected)) :
    select raw' candidates' = .ok (request, selected) := by
  obtain ⟨normal, size, known, forms, distinct, chosen⟩ := select_ok.mp found
  obtain ⟨middle, pairs, perm⟩ := same'
  obtain ⟨known', forms', distinct', perm'⟩ :=
    forms_perm perm (forms_reordered pairs forms) distinct
  have length : candidates.length = candidates'.length := pairs.length_eq.trans perm.length_eq
  refine select_ok.mpr ⟨normal.reordered same, ?_, known', forms', distinct', ?_⟩
  · have empty : candidates.isEmpty = candidates'.isEmpty := by
      rw [Bool.eq_iff_iff, List.isEmpty_iff_length_eq_zero, List.isEmpty_iff_length_eq_zero, length]
    rwa [← empty, ← length]
  · rwa [← rank_perm distinct perm']

/-- The place of a candidate in the ranking: its score as it is computed, then its node id. -/
def place (need : Resources) (c : Candidate) : Nat ×ₗ String :=
  toLex ((dominantPPM c need).toNat, trimSpace c.nodeID)

/-- The plan states the largest exact share of the candidate. No eligible candidate has a smaller
one, and of equal ones the smaller node id is taken. -/
structure RankedExactly (raw : Request) (candidates : List Candidate) (plan : Plan)
    (selected : Candidate) : Prop where
  stated : plan.dominantUtilizationPPM.toNat = exactPPM selected raw.resources
  least : ∀ other ∈ candidates, Eligible raw other →
    exactPPM selected raw.resources < exactPPM other raw.resources ∨
    exactPPM selected raw.resources = exactPPM other raw.resources ∧
      trimSpace selected.nodeID ≤ trimSpace other.nodeID

/-- What is selected stands for an eligible candidate with the earliest place. -/
theorem select_earliest {raw request : Request} {candidates : List Candidate} {selected : Ranked}
    (found : select raw candidates = .ok (request, selected)) :
    ∃ c ∈ candidates, Candidate.Normal c selected.candidate ∧ Eligible raw c ∧
      selected.score = dominantPPM c raw.resources ∧
      ∀ other ∈ candidates, Eligible raw other →
        place raw.resources c ≤ place raw.resources other := by
  obtain ⟨normal, -, known, forms, distinct, chosen⟩ := select_ok.mp found
  obtain ⟨listed, first⟩ := choose_ok chosen
  obtain ⟨member, admitted, score⟩ := mem_rank.mp listed
  obtain ⟨c, inside, form⟩ := exists_of_forall₂ forms.flip selected.candidate member
  have resources : request.resources = raw.resources := by rw [normal.rest]; rfl
  -- the place of a candidate is the key of its normal form
  have keyed : ∀ raw' c', Candidate.Normal raw' c' →
      Ranked.key ⟨c', dominantPPM c' request.resources⟩ = place raw.resources raw' := by
    rintro raw' c' ⟨-, -, rfl⟩
    rw [resources]
    rfl
  have own : selected.key = place raw.resources c := by
    rw [← keyed c _ form, ← score]
  refine ⟨c, inside, form, (admits_iff normal form).mp admitted, ?_, fun other known' may => ?_⟩
  · rw [score, resources, form.form]
    rfl
  · obtain ⟨c', member', form'⟩ := exists_of_forall₂ forms other known'
    have ranked := first ⟨c', dominantPPM c' request.resources⟩
      (mem_rank.mpr ⟨member', (admits_iff normal form').mpr may, rfl⟩)
    rwa [own, keyed other c' form'] at ranked

/-- The candidate with the earliest place is ranked exactly when its own score is exact: other
scores are at most the exact shares. -/
theorem rankedExactly_iff {raw : Request} {candidates : List Candidate} {plan : Plan}
    {c : Candidate} (room : Fits c raw.resources)
    (stated : plan.dominantUtilizationPPM = dominantPPM c raw.resources)
    (earliest : ∀ other ∈ candidates, Eligible raw other →
      place raw.resources c ≤ place raw.resources other) :
    RankedExactly raw candidates plan c ↔ Exact c raw.resources := by
  rw [← dominantPPM_eq_iff room, ← stated]
  refine ⟨RankedExactly.stated, fun exact => ⟨exact, fun other known may => ?_⟩⟩
  have before := earliest other known may
  rw [place, place, Prod.Lex.toLex_le_toLex, ← stated, exact] at before
  have below := dominantPPM_le may.room
  rcases before with less | ⟨same, before⟩
  · exact .inl (less.trans_le below)
  · rcases below.lt_or_eq with less | equal
    · exact .inl (same.trans_lt less)
    · exact .inr ⟨same.trans equal, before⟩

/-- **Plans rank exactly when the load of the selected node does not wrap.** What a plan selects
is eligible, its largest exact share is at most a million, and no eligible candidate has an
earlier place. The plan ranks exactly if and only if the product of a resource with the largest
share of that candidate stays below 2^64. It does not depend on the order of the candidates, roles
and id lists. -/
theorem buildPlan_ranked (raw : Request) (candidates : List Candidate) (plan : Plan)
    (built : buildPlan raw candidates = .ok plan) :
    (∃ selected ∈ candidates, Eligible raw selected ∧
      plan.selectedNodeID = trimSpace selected.nodeID ∧
      plan.selectedSiteID = trimSpace selected.siteID ∧
      plan.selectedZoneID = trimSpace selected.zoneID ∧
      exactPPM selected raw.resources ≤ 1000000 ∧
      (∀ other ∈ candidates, Eligible raw other →
        place raw.resources selected ≤ place raw.resources other) ∧
      (RankedExactly raw candidates plan selected ↔ Exact selected raw.resources)) ∧
    ∀ raw' candidates', raw.Reordered raw' → Reordered candidates candidates' →
      buildPlan raw' candidates' = .ok plan := by
  obtain ⟨request, selected, found, rfl⟩ := buildPlan_ok.mp built
  refine ⟨?_, fun raw' candidates' same same' =>
    buildPlan_ok.mpr ⟨request, selected, select_reordered same same' found, rfl⟩⟩
  obtain ⟨c, inside, form, eligible, scored, earliest⟩ := select_earliest found
  refine ⟨c, inside, eligible, ?_, ?_, ?_, exactPPM_le eligible.room, earliest,
    rankedExactly_iff eligible.room scored earliest⟩
  · rw [planOf, form.form]
    rfl
  · rw [planOf, form.form]
    rfl
  · rw [planOf, form.form]
    rfl

/-- A request for one of each resource. -/
def sampleRequest : Request :=
  ⟨"work", .stateless, .workerNode, [], [], [], ⟨1, 1, 1⟩, "", "", 0, 1, "v1"⟩

/-- A node with so many cores, of which so many are in use. -/
def sampleCandidate (id : String) (cpu used : UInt64) : Candidate :=
  ⟨id, "site", "zone", [.workerNode], true, true, ⟨cpu, 100, 100⟩, ⟨used, 0, 0⟩⟩

theorem buildPlan_ranked_sample :
    ∃ plan, buildPlan sampleRequest [sampleCandidate "b" 100 49, sampleCandidate "a" 100 59] =
      .ok plan ∧ ∃ selected ∈ [sampleCandidate "b" 100 49, sampleCandidate "a" 100 59],
        plan.dominantUtilizationPPM.toNat = exactPPM selected sampleRequest.resources := by
  have found : select sampleRequest [sampleCandidate "b" 100 49, sampleCandidate "a" 100 59] =
      .ok (sampleRequest, ⟨sampleCandidate "b" 100 49, 500000⟩) := by decide +kernel
  have built := buildPlan_ok.mpr ⟨_, _, found, rfl⟩
  refine ⟨_, built, ?_⟩
  obtain ⟨selected, listed, -, -, -, -, -, -, exact⟩ := (buildPlan_ranked _ _ _ built).1
  refine ⟨selected, listed, (exact.mpr ?_).stated⟩
  rcases List.mem_pair.mp listed with rfl | rfl <;> exact .inl ⟨by decide, by decide⟩

/-- A node without a free core is scored 475712 and selected before one that is half full. -/
theorem full_node_selected :
    ∃ plan, buildPlan sampleRequest
        [sampleCandidate "full" 35184372088832 35184372088831, sampleCandidate "half" 100 49] =
      .ok plan ∧ plan.selectedNodeID = "full" ∧ plan.dominantUtilizationPPM = 475712 ∧
      exactPPM (sampleCandidate "full" 35184372088832 35184372088831) sampleRequest.resources =
        1000000 ∧
      exactPPM (sampleCandidate "half" 100 49) sampleRequest.resources = 500000 := by
  have found : select sampleRequest
      [sampleCandidate "full" 35184372088832 35184372088831, sampleCandidate "half" 100 49] =
      .ok (sampleRequest, ⟨sampleCandidate "full" 35184372088832 35184372088831, 475712⟩) := by
    decide +kernel
  exact ⟨_, buildPlan_ok.mpr ⟨_, _, found, rfl⟩, rfl, rfl, by decide, by decide⟩

end ControlCenter.Placement
