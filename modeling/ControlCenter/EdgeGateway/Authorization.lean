import ControlCenter.CoreContracts.Network
import ControlCenter.Library.Collect
import ControlCenter.Library.Marshal
import ControlCenter.Library.TwoRuns
import ControlCenter.NetworkPolicy.Forwarding

/-!
# Edge gateway authorisation

A request names one operation, the node it is meant for and two interfaces of that node.
`buildAuthorizationPlan` looks for the role assignment, the interfaces and their zones in an
inventory and answers with a plan or with the code of the refusal.

The loop that walks from an interface to its topmost parent is given one step more than there
are interfaces, which is enough for every inventory, also one whose parents form a cycle. The
answer does not depend on the order of the inventory, and a plan rests on one role assignment
and on two paths of interfaces that stay on the node and never meet
(`buildAuthorizationPlan_safe`): the ends of the paths differ, and two paths that meet have
the same end (`disjoint_of_tops_ne`).

The identifiers of a target are checked in the order of a map; here they are checked in the
order of the fields. A match without an object id stands for no match in the source, and no
valid assignment has one; here it is `none`.
-/

set_option autoImplicit false

namespace ControlCenter.EdgeGateway

open Library CoreContracts
open Library.ParentWalk (Above Grounded Height above_total)
open NetworkPolicy (authorizeForwarding)

/-! ## Requests and plans -/

def requestSchemaVersion : String := "network.edge-gateway.authorization-request/v1"
def planSchemaVersion : String := "network.edge-gateway.authorization-plan/v1"

inductive DenyCode where
  | requestInvalid
  | operationExplicitRequired
  | operationUnsupported
  | planOnly
  | edgeRoleRequired
  | approvalRequired
  | capabilityRequired
  | distinctInterfacesRequired
  | interfaceNotFound
  | interfaceBoundaryMismatch
  | zoneNotFound
  | zoneBoundaryMismatch
  | wanZoneRequired
  | lanZoneRequired
  | inventoryInvalid
  | networkSafetyPolicy
  deriving DecidableEq

/-- A refusal: its code is stable, its detail is for operators. -/
structure Denial where
  code : DenyCode
  detail : String
  deriving DecidableEq

inductive Mode where
  | plan
  | other (text : String)
  deriving DecidableEq

def Mode.text : Mode → String
  | .plan => "plan"
  | .other text => text

inductive Operation where
  | routing
  | nat
  | portForwarding
  | other (text : String)
  deriving DecidableEq

def Operation.text : Operation → String
  | .routing => "routing"
  | .nat => "nat"
  | .portForwarding => "port-forwarding"
  | .other text => text

inductive Capability where
  | routingPlan
  | natPlan
  | portForwardingPlan
  | other (text : String)
  deriving DecidableEq

def Capability.text : Capability → String
  | .routingPlan => "network.edge.routing.plan"
  | .natPlan => "network.edge.nat.plan"
  | .portForwardingPlan => "network.edge.port-forwarding.plan"
  | .other text => text

inductive ApprovalDecision where
  | approved
  | other (text : String)
  deriving DecidableEq

structure Approval where
  id : String
  policyID : String
  decision : ApprovalDecision
  deriving DecidableEq

structure Target where
  nodeID : String
  scopeID : String
  siteID : String
  wanInterfaceID : String
  lanInterfaceID : String
  deriving DecidableEq

structure AuthorizationRequest where
  schemaVersion : String
  mode : Mode
  operation : Operation
  target : Target
  approval : Approval
  capability : Capability
  deriving DecidableEq

structure Inventory where
  roleAssignments : List RoleAssignment
  zones : List NetworkZone
  interfaces : List NetworkInterface

structure Evidence where
  edgeRoleAssignmentID : String
  edgeRoleResourceVersion : String
  wanInterfaceID : String
  wanZoneID : String
  lanInterfaceID : String
  lanZoneID : String
  approvalID : String
  approvalPolicyID : String
  capability : Capability
  deriving DecidableEq

inductive PlanStep where
  | validateEdgeRole
  | validateApproval
  | validateCapability
  | validateWANLAN
  | emitAuthorizedPlan
  deriving DecidableEq

def PlanStep.text : PlanStep → String
  | .validateEdgeRole => "validate-edge-role"
  | .validateApproval => "validate-explicit-approval"
  | .validateCapability => "validate-operation-capability"
  | .validateWANLAN => "validate-distinct-wan-lan-interfaces"
  | .emitAuthorizedPlan => "emit-authorized-plan"

structure AuthorizationPlan where
  schemaVersion : String
  planID : String
  mode : Mode
  operation : Operation
  target : Target
  requiredCapability : Capability
  evidence : Evidence
  steps : List PlanStep
  authorized : Bool
  productionMutationEnabled : Bool
  deriving DecidableEq

/-! ## The request -/

/-- An identifier has at most 255 characters. -/
def validIdentifier (value : String) : Bool := identifierPattern value

/-- The capability an operation needs, if the operation is supported. -/
def Operation.required : Operation → Option Capability
  | .routing => some .routingPlan
  | .nat => some .natPlan
  | .portForwarding => some .portForwardingPlan
  | .other _ => none

def Target.identifiers (target : Target) : List (String × String) :=
  [("target.node_id", target.nodeID), ("target.scope_id", target.scopeID),
    ("target.site_id", target.siteID), ("target.wan_interface_id", target.wanInterfaceID),
    ("target.lan_interface_id", target.lanInterfaceID)]

/-- The value, or the refusal if there is none. -/
def orDeny {α : Type} (found : Option α) (denial : Denial) : Except Denial α :=
  found.elim (.error denial) .ok

/-- The two values, or the refusal if one of them is missing. -/
def bothOrDeny {α : Type} (first second : Option α) (denial : Denial) : Except Denial (α × α) :=
  match first, second with
  | some a, some b => .ok (a, b)
  | _, _ => .error denial

def validateRequest (request : AuthorizationRequest) : Except Denial Capability := do
  let _ ← firstFailure
    [(request.schemaVersion != requestSchemaVersion,
        ⟨.requestInvalid, "schema_version must be " ++ quoted requestSchemaVersion⟩),
      (["", "auto", "automatic"].contains request.operation.text,
        ⟨.operationExplicitRequired,
          "routing, NAT, or port-forwarding must be selected explicitly"⟩)]
  let capability ← orDeny request.operation.required
    ⟨.operationUnsupported, "operation " ++ quoted request.operation.text ++ " is not supported"⟩
  let _ ← firstFailure
    ((request.mode != .plan, ⟨.planOnly, "only side-effect-free plan mode is available"⟩) ::
      request.target.identifiers.map fun (name, value) =>
        (!validIdentifier value, ⟨.requestInvalid, name ++ " is not a valid identifier"⟩))
  .ok capability

/-! ## The inventory -/

/-- The assignment makes the target node an edge gateway of the target site and scope. -/
def isEdgeAssignment (target : Target) (a : RoleAssignment) : Bool :=
  a.role == .edgeGateway && a.targetNodeID == target.nodeID && a.scopeID == target.scopeID &&
    a.siteID == target.siteID && a.toObjectMetadata.validate.isOk &&
    validIdentifier a.serviceIdentityID

/-- The loop over the assignments, with the match found so far. -/
def explicitEdgeAssignment (target : Target) :
    Option RoleAssignment → List RoleAssignment → Except Denial (Option RoleAssignment)
  | found, [] => .ok found
  | found, a :: rest =>
      if !isEdgeAssignment target a then explicitEdgeAssignment target found rest
      else if found.isSome then
        .error ⟨.inventoryInvalid, "multiple Edge Gateway assignments match the target boundary"⟩
      else explicitEdgeAssignment target (some a) rest

/-- The records by their keys, if all are acceptable and no two share a key. -/
def index {α : Type} (valid : α → Bool) (key : α → String) (invalid repeated : String)
    (values : List α) : Except Denial (List α) :=
  collect (fun v => if valid v then .ok v else .error ⟨.inventoryInvalid, invalid⟩) key
    (fun _ => ⟨.inventoryInvalid, repeated⟩) [] values

def indexInterfaces : List NetworkInterface → Except Denial (List NetworkInterface) :=
  index (fun i => validIdentifier i.id && validIdentifier i.networkZoneID) (·.id)
    "network interface inventory contains an invalid identifier"
    "network interface inventory contains duplicate IDs"

def indexZones : List NetworkZone → Except Denial (List NetworkZone) :=
  index (fun zone => validIdentifier zone.id && zone.kind.valid) (·.id)
    "network zone inventory contains an invalid record"
    "network zone inventory contains duplicate IDs"

def zoneByID (zones : List NetworkZone) (id : String) : Option NetworkZone :=
  zones.find? fun zone => zone.id == id

/-- How a run stops without a plan: refused, or out of steps in the walk over parents. -/
inductive Stop where
  | denied (denial : Denial)
  | unfinished
  deriving DecidableEq

/-- The code of a refusal. -/
def Stop.code : Stop → Option DenyCode
  | .denied denial => some denial.code
  | .unfinished => none

/-- A step that may refuse. -/
def orStop {α : Type} (step : Except Denial α) : Except Stop α := step.mapError .denied

/-- The id of the topmost parent, with the ids seen on the way. -/
def interfaceRoot (interfaces : List NetworkInterface) :
    (fuel : Nat) → (seen : List String) → (current : NetworkInterface) → Except Stop String
  | 0, _, _ => .error .unfinished
  | fuel + 1, seen, current =>
      if current.id ∈ seen then
        .error (.denied
          ⟨.inventoryInvalid, "network interface inventory contains a parent cycle"⟩)
      else if current.parentInterfaceID = "" then .ok current.id
      else
        match interfaceByID interfaces current.parentInterfaceID with
        | none => .error (.denied
            ⟨.inventoryInvalid, "network interface inventory contains a missing parent"⟩)
        | some parent =>
            if parent.nodeID ≠ current.nodeID ∨ parent.siteID ≠ current.siteID ∨
                parent.scopeID ≠ current.scopeID then
              .error (.denied ⟨.inventoryInvalid,
                "network interface parent crosses a node, site, or scope boundary"⟩)
            else interfaceRoot interfaces fuel (current.id :: seen) parent

def interfaceMatchesTarget (i : NetworkInterface) (target : Target) : Bool :=
  i.nodeID == target.nodeID && i.siteID == target.siteID && i.scopeID == target.scopeID

def zoneMatchesTarget (zone : NetworkZone) (target : Target) : Bool :=
  zone.siteID == target.siteID && zone.scopeID == target.scopeID

/-! ## The plan -/

/-- The plan of a request, before it has a name. -/
def unnamedPlan (request : AuthorizationRequest) (inventory : Inventory) :
    Except Stop AuthorizationPlan := do
  let requiredCapability ← orStop (validateRequest request)
  let found ← orStop (explicitEdgeAssignment request.target none inventory.roleAssignments)
  let assignment ← orStop (orDeny found ⟨.edgeRoleRequired, "target node has no valid explicit " ++
    "Edge Gateway role assignment in the requested site and scope"⟩)
  let _ ← orStop (firstFailure
    [(!validIdentifier request.approval.id || !validIdentifier request.approval.policyID ||
        request.approval.decision != .approved,
        ⟨.approvalRequired, "an explicit approved policy decision is required"⟩),
      (request.capability != requiredCapability,
        ⟨.capabilityRequired, "operation requires capability " ++ quoted requiredCapability.text⟩),
      (request.target.wanInterfaceID == request.target.lanInterfaceID,
        ⟨.distinctInterfacesRequired, "WAN and LAN interfaces must be distinct"⟩)])
  let interfaces ← orStop (indexInterfaces inventory.interfaces)
  let (wanInterface, lanInterface) ← orStop (bothOrDeny
    (interfaceByID interfaces request.target.wanInterfaceID)
    (interfaceByID interfaces request.target.lanInterfaceID)
    ⟨.interfaceNotFound, "both explicitly named interfaces must exist"⟩)
  let _ ← orStop (firstFailure
    [(!interfaceMatchesTarget wanInterface request.target ||
        !interfaceMatchesTarget lanInterface request.target, ⟨.interfaceBoundaryMismatch,
          "interfaces must belong to the target node, site, and scope"⟩)])
  let wanRoot ← interfaceRoot interfaces (interfaces.length + 1) [] wanInterface
  let lanRoot ← interfaceRoot interfaces (interfaces.length + 1) [] lanInterface
  let _ ← orStop (firstFailure
    [(wanRoot == lanRoot, ⟨.distinctInterfacesRequired,
      "WAN and LAN interfaces must use distinct interface paths"⟩)])
  let zones ← orStop (indexZones inventory.zones)
  let (wanZone, lanZone) ← orStop (bothOrDeny (zoneByID zones wanInterface.networkZoneID)
    (zoneByID zones lanInterface.networkZoneID)
    ⟨.zoneNotFound, "both interface zones must exist"⟩)
  let _ ← orStop (firstFailure
    [(!zoneMatchesTarget wanZone request.target || !zoneMatchesTarget lanZone request.target,
        ⟨.zoneBoundaryMismatch, "zones must belong to the requested site and scope"⟩),
      (wanZone.kind != .wan, ⟨.wanZoneRequired, "wan_interface_id must reference a WAN zone"⟩),
      (lanZone.kind != .lan, ⟨.lanZoneRequired, "lan_interface_id must reference a LAN zone"⟩)])
  let _ ← orStop ((authorizeForwarding ⟨.wan, .lan, true, true⟩).mapError fun _ =>
    ⟨.networkSafetyPolicy, "network forwarding safety baseline denied the plan"⟩)
  .ok {
    schemaVersion := planSchemaVersion
    planID := ""
    mode := .plan
    operation := request.operation
    target := request.target
    requiredCapability := requiredCapability
    evidence := {
      edgeRoleAssignmentID := assignment.objectID
      edgeRoleResourceVersion := assignment.resourceVersion
      wanInterfaceID := wanInterface.id
      wanZoneID := wanZone.id
      lanInterfaceID := lanInterface.id
      lanZoneID := lanZone.id
      approvalID := request.approval.id
      approvalPolicyID := request.approval.policyID
      capability := request.capability }
    steps := [.validateEdgeRole, .validateApproval, .validateCapability, .validateWANLAN,
      .emitAuthorizedPlan]
    authorized := true
    productionMutationEnabled := false }

def Target.json (target : Target) : Json :=
  .record [("node_id", .string target.nodeID), ("scope_id", .string target.scopeID),
    ("site_id", .string target.siteID), ("wan_interface_id", .string target.wanInterfaceID),
    ("lan_interface_id", .string target.lanInterfaceID)]

def Evidence.json (evidence : Evidence) : Json :=
  .record [("edge_role_assignment_id", .string evidence.edgeRoleAssignmentID),
    ("edge_role_resource_version", .string evidence.edgeRoleResourceVersion),
    ("wan_interface_id", .string evidence.wanInterfaceID),
    ("wan_zone_id", .string evidence.wanZoneID),
    ("lan_interface_id", .string evidence.lanInterfaceID),
    ("lan_zone_id", .string evidence.lanZoneID), ("approval_id", .string evidence.approvalID),
    ("approval_policy_id", .string evidence.approvalPolicyID),
    ("capability", .string evidence.capability.text)]

def AuthorizationPlan.json (plan : AuthorizationPlan) : Json :=
  .record [("schema_version", .string plan.schemaVersion), ("plan_id", .string plan.planID),
    ("mode", .string plan.mode.text), ("operation", .string plan.operation.text),
    ("target", plan.target.json), ("required_capability", .string plan.requiredCapability.text),
    ("evidence", plan.evidence.json),
    ("steps", .arr (plan.steps.map fun step => .string step.text)),
    ("authorized", .bool plan.authorized),
    ("production_mutation_enabled", .bool plan.productionMutationEnabled)]

/-- The name of a plan: the digest of its document without a name. -/
def planID (plan : AuthorizationPlan) : String :=
  "edge-plan:" ++ sha256Hex ({ plan with planID := "" } : AuthorizationPlan).json.bytes

def buildAuthorizationPlan (request : AuthorizationRequest) (inventory : Inventory) :
    Except Stop AuthorizationPlan :=
  (unnamedPlan request inventory).map fun plan => { plan with planID := planID plan }

/-! ## What the steps answer -/

@[simp] theorem orStop_ok {α : Type} {step : Except Denial α} {a : α} :
    orStop step = .ok a ↔ step = .ok a := mapError_ok

@[simp] theorem orDeny_ok {α : Type} {found : Option α} {denial : Denial} {a : α} :
    orDeny found denial = .ok a ↔ found = some a := by
  cases found <;> simp [orDeny]

@[simp] theorem bothOrDeny_ok {α : Type} {first second : Option α} {denial : Denial} {a b : α} :
    bothOrDeny first second denial = .ok (a, b) ↔ first = some a ∧ second = some b := by
  cases first <;> cases second <;> simp [bothOrDeny]

/-- The only match, if there is one. -/
def onlyMatch : List RoleAssignment → Except Denial (Option RoleAssignment)
  | [] => .ok none
  | [a] => .ok (some a)
  | _ => .error
      ⟨.inventoryInvalid, "multiple Edge Gateway assignments match the target boundary"⟩

theorem onlyMatch_some {found : List RoleAssignment} {a : RoleAssignment} :
    onlyMatch found = .ok (some a) ↔ found = [a] := by
  match found with
  | [] => simp [onlyMatch]
  | [b] => simp [onlyMatch]
  | _ :: _ :: _ => simp [onlyMatch]

theorem onlyMatch_perm {found found' : List RoleAssignment} (perm : found.Perm found') :
    onlyMatch found = onlyMatch found' := by
  match found', perm with
  | [], perm => rw [List.perm_nil.mp perm]
  | [a], perm => rw [List.perm_singleton.mp perm]
  | _ :: _ :: _, perm =>
      match found, perm.length_eq with
      | _ :: _ :: _, _ => rfl

theorem explicitEdgeAssignment_eq {target : Target} {found : Option RoleAssignment}
    {assignments : List RoleAssignment} :
    explicitEdgeAssignment target found assignments =
      onlyMatch (found.toList ++ assignments.filter (isEdgeAssignment target)) := by
  induction assignments generalizing found with
  | nil => cases found <;> rfl
  | cons a rest ih =>
      unfold explicitEdgeAssignment
      by_cases edge : isEdgeAssignment target a = true
      · cases found with
        | none => simp [edge, ih]
        | some b => simp [edge, onlyMatch]
      · simp [edge, ih]

section Index

variable {α : Type} {valid : α → Bool} {key : α → String} {invalid repeated : String}
  {values values' items : List α}

theorem index_ok : index valid key invalid repeated values = .ok items ↔
    items = values ∧ (∀ v ∈ values, valid v = true) ∧ (values.map key).Nodup := by
  have canonical : ∀ v item, (if valid v = true then Except.ok v else
      .error (⟨.inventoryInvalid, invalid⟩ : Denial)) = .ok item ↔ valid v = true ∧ v = item := by
    intro v item
    split <;> simp [*]
  simp only [index, collect_ok, canonical, List.forall₂_and_left, List.forall₂_eq_eq_eq]
  constructor
  · rintro ⟨⟨acceptable, rfl⟩, distinct⟩
    exact ⟨rfl, acceptable, distinct⟩
  · rintro ⟨rfl, acceptable, distinct⟩
    exact ⟨⟨acceptable, rfl⟩, distinct⟩

theorem index_code {denial : Denial}
    (failed : index valid key invalid repeated values = .error denial) :
    denial.code = .inventoryInvalid := by
  have refused : ∀ v e, (if valid v = true then Except.ok v else
      .error (⟨.inventoryInvalid, invalid⟩ : Denial)) = .error e → e.code = .inventoryInvalid := by
    intro v e failed
    split at failed
    · cases failed
    · cases failed
      rfl
  exact collect_error refused (fun _ => rfl) failed

end Index

/-! ## Every run ends -/

/-- The run did not stop for want of steps. -/
def Finished {α : Type} (run : Except Stop α) : Prop := run ≠ .error .unfinished

theorem finished_orStop {α : Type} (step : Except Denial α) : Finished (orStop step) := by
  cases step <;> simp [Finished, orStop, Except.mapError]

theorem Finished.bind {α β : Type} {first : Except Stop α} {next : α → Except Stop β}
    (done : Finished first) (then_ : ∀ a, first = .ok a → Finished (next a)) :
    Finished (first >>= next) := by
  cases first with
  | error e => exact fun stopped => done (by cases stopped; rfl)
  | ok a => exact then_ a rfl

/-- The ids seen are different ids of interfaces, so there are no more of them. -/
theorem interfaceRoot_finished {interfaces : List NetworkInterface} {fuel : Nat}
    {seen : List String} {current : NetworkInterface} (listed : current ∈ interfaces)
    (distinct : seen.Nodup) (inside : seen ⊆ interfaces.map (·.id))
    (enough : interfaces.length < fuel + seen.length) :
    Finished (interfaceRoot interfaces fuel seen current) := by
  induction fuel generalizing seen current with
  | zero =>
      have few := (List.subperm_of_subset distinct inside).length_le
      rw [List.length_map] at few
      omega
  | succ fuel ih =>
      unfold interfaceRoot
      split
      · simp [Finished]
      next fresh =>
        split
        · simp [Finished]
        · split
          · simp [Finished]
          next parent found =>
            split
            · simp [Finished]
            · refine ih (List.mem_of_find?_eq_some found) (List.nodup_cons.mpr ⟨fresh, distinct⟩)
                (List.cons_subset.mpr ⟨List.mem_map_of_mem listed, inside⟩) ?_
              rw [List.length_cons]
              omega

/-- A walk from an interface of the inventory ends. -/
theorem interfaceRoot_start {interfaces : List NetworkInterface} {id : String}
    {i : NetworkInterface} (found : interfaceByID interfaces id = some i) :
    Finished (interfaceRoot interfaces (interfaces.length + 1) [] i) :=
  interfaceRoot_finished (List.mem_of_find?_eq_some found) List.nodup_nil
    (List.nil_subset _) (by simp)

theorem unnamedPlan_finished (request : AuthorizationRequest) (inventory : Inventory) :
    Finished (unnamedPlan request inventory) := by
  unfold unnamedPlan
  refine (finished_orStop _).bind fun _ _ => (finished_orStop _).bind fun _ _ =>
    (finished_orStop _).bind fun _ _ => (finished_orStop _).bind fun _ _ =>
    (finished_orStop _).bind fun interfaces _ => (finished_orStop _).bind fun pair found => ?_
  obtain ⟨wan, lan⟩ := pair
  obtain ⟨wanFound, lanFound⟩ := bothOrDeny_ok.mp (orStop_ok.mp found)
  refine (finished_orStop _).bind fun _ _ => (interfaceRoot_start wanFound).bind fun _ _ =>
    (interfaceRoot_start lanFound).bind fun _ _ => (finished_orStop _).bind fun _ _ =>
    (finished_orStop _).bind fun _ _ => (finished_orStop _).bind fun zones _ => ?_
  obtain ⟨wanZone, lanZone⟩ := zones
  exact (finished_orStop _).bind fun _ _ => (finished_orStop _).bind fun _ _ => nofun

/-! ## The order of the inventory -/

/-- The inventory lists the same records. -/
structure Inventory.Reordered (inventory inventory' : Inventory) : Prop where
  roleAssignments : inventory.roleAssignments.Perm inventory'.roleAssignments
  zones : inventory.zones.Perm inventory'.zones
  interfaces : inventory.interfaces.Perm inventory'.interfaces

/-- Two ways to stop with one code. -/
def SameCode (e e' : Stop) : Prop := e.code = e'.code

theorem alike_refl {α : Type} (x : Except Stop α) : Alike SameCode Eq x x :=
  Alike.refl (fun e => (rfl : SameCode e e)) x

/-- Runs that begin with the same step. -/
theorem alike_step {α β : Type} {first : Except Stop α} {next next' : α → Except Stop β}
    (alike : ∀ a, Alike SameCode Eq (next a) (next' a)) :
    Alike SameCode Eq (first >>= next) (first >>= next') := by
  refine (alike_refl first).bind ?_
  rintro a _ rfl
  exact alike a

theorem index_alike {α : Type} {valid : α → Bool} {key : α → String} {invalid repeated : String}
    {values values' : List α} (perm : values.Perm values') :
    Alike SameCode (fun items items' => items.Perm items' ∧ (items.map key).Nodup)
      (orStop (index valid key invalid repeated values))
      (orStop (index valid key invalid repeated values')) := by
  cases first : index valid key invalid repeated values with
  | ok items =>
      obtain ⟨rfl, acceptable, distinct⟩ := index_ok.mp first
      have second : index valid key invalid repeated values' = .ok values' :=
        index_ok.mpr ⟨rfl, fun v listed => acceptable v (perm.mem_iff.mpr listed),
          (perm.map key).nodup_iff.mp distinct⟩
      rw [second]
      exact .ok ⟨perm, distinct⟩
  | error denial =>
      cases second : index valid key invalid repeated values' with
      | ok items =>
          obtain ⟨rfl, acceptable, distinct⟩ := index_ok.mp second
          have again : index valid key invalid repeated values = .ok values :=
            index_ok.mpr ⟨rfl, fun v listed => acceptable v (perm.mem_iff.mp listed),
              (perm.map key).nodup_iff.mpr distinct⟩
          rw [first] at again
          cases again
      | error denial' =>
          exact .error (congrArg some ((index_code first).trans (index_code second).symm))

theorem explicitEdgeAssignment_perm {target : Target}
    {assignments assignments' : List RoleAssignment} (perm : assignments.Perm assignments') :
    explicitEdgeAssignment target none assignments =
      explicitEdgeAssignment target none assignments' := by
  rw [explicitEdgeAssignment_eq, explicitEdgeAssignment_eq]
  exact onlyMatch_perm (perm.filter (isEdgeAssignment target))

theorem interfaceRoot_congr {interfaces interfaces' : List NetworkInterface}
    (same : interfaceByID interfaces = interfaceByID interfaces') (fuel : Nat)
    (seen : List String) (current : NetworkInterface) :
    interfaceRoot interfaces fuel seen current = interfaceRoot interfaces' fuel seen current := by
  induction fuel generalizing seen current with
  | zero => rfl
  | succ fuel ih => simp only [interfaceRoot, same, ih]

theorem unnamedPlan_alike (request : AuthorizationRequest) {inventory inventory' : Inventory}
    (reordered : inventory.Reordered inventory') :
    Alike SameCode Eq (unnamedPlan request inventory) (unnamedPlan request inventory') := by
  unfold unnamedPlan
  rw [explicitEdgeAssignment_perm reordered.roleAssignments]
  refine alike_step fun _ => alike_step fun _ => alike_step fun _ => alike_step fun _ =>
    (index_alike reordered.interfaces).bind fun interfaces interfaces' indexed => ?_
  have byID : interfaceByID interfaces = interfaceByID interfaces' :=
    funext fun id => find?_key_perm indexed.1 indexed.2 id
  rw [byID, indexed.1.length_eq]
  simp only [interfaceRoot_congr byID]
  refine alike_step fun (wan, lan) => alike_step fun _ => alike_step fun _ => alike_step fun _ =>
    alike_step fun _ => (index_alike reordered.zones).bind fun zones zones' listed => ?_
  have zoneEq : zoneByID zones = zoneByID zones' :=
    funext fun id => find?_key_perm listed.1 listed.2 id
  rw [zoneEq]
  exact alike_refl _

/-! ## Paths of interfaces -/

section Paths

variable {interfaces : List NetworkInterface}

/-- The walk from an interface to its topmost parent, along interfaces of one node, site and
scope. -/
structure Path (interfaces : List NetworkInterface) (i : NetworkInterface) (top : String) :
    Prop where
  ends : parentInterface interfaces top = none
  reaches : Above (parentInterface interfaces) i.id top
  finite : Grounded (parentInterface interfaces) (fun id => (interfaceByID interfaces id).isSome)
    i.id
  inside : ∀ ancestor, Above (parentInterface interfaces) i.id ancestor →
    ∃ j ∈ interfaces, j.id = ancestor ∧ j.nodeID = i.nodeID ∧ j.siteID = i.siteID ∧
      j.scopeID = i.scopeID

theorem interfaceByID_some {id : String} {i : NetworkInterface}
    (found : interfaceByID interfaces id = some i) : i ∈ interfaces ∧ i.id = id :=
  ⟨List.mem_of_find?_eq_some found, by simpa using List.find?_some found⟩

theorem interfaceByID_self {id : String} {i : NetworkInterface}
    (found : interfaceByID interfaces id = some i) : interfaceByID interfaces i.id = some i := by
  rw [(interfaceByID_some found).2, found]

theorem zoneByID_some {zones : List NetworkZone} {id : String} {zone : NetworkZone}
    (found : zoneByID zones id = some zone) : zone ∈ zones ∧ zone.id = id :=
  ⟨List.mem_of_find?_eq_some found, by simpa using List.find?_some found⟩

/-- An interface without a parent is a path of its own. -/
theorem Path.single {i : NetworkInterface} (found : interfaceByID interfaces i.id = some i)
    (root : i.parentInterfaceID = "") : Path interfaces i i.id := by
  have ends : parentInterface interfaces i.id = none := by simp [parentInterface, found, root]
  refine ⟨ends, .refl, ⟨0, .root ends⟩, fun ancestor above => ?_⟩
  rcases Relation.ReflTransGen.cases_head above with rfl | ⟨up, edge, -⟩
  · exact ⟨i, (interfaceByID_some found).1, rfl, rfl, rfl, rfl⟩
  · rw [ends] at edge
    cases edge

/-- A path is longer by an interface within the boundary of its parent. -/
theorem Path.up {i parent : NetworkInterface} {top : String}
    (found : interfaceByID interfaces i.id = some i) (named : i.parentInterfaceID ≠ "")
    (parentFound : interfaceByID interfaces i.parentInterfaceID = some parent)
    (boundary : parent.nodeID = i.nodeID ∧ parent.siteID = i.siteID ∧ parent.scopeID = i.scopeID)
    (path : Path interfaces parent top) : Path interfaces i top := by
  obtain ⟨-, sameID⟩ := interfaceByID_some parentFound
  have step : parentInterface interfaces i.id = some parent.id := by
    simp [parentInterface, found, named, sameID]
  obtain ⟨n, height⟩ := path.finite
  refine ⟨path.ends, .head step path.reaches,
    ⟨n + 1, .up step (by rw [sameID, parentFound]; rfl) height⟩, fun ancestor above => ?_⟩
  rcases Relation.ReflTransGen.cases_head above with rfl | ⟨up, edge, above⟩
  · exact ⟨i, (interfaceByID_some found).1, rfl, rfl, rfl, rfl⟩
  · rw [step] at edge
    cases edge
    obtain ⟨j, listed, same, node, site, scope⟩ := path.inside ancestor above
    exact ⟨j, listed, same, node.trans boundary.1, site.trans boundary.2.1,
      scope.trans boundary.2.2⟩

theorem interfaceRoot_ok {fuel : Nat} {seen : List String} {current : NetworkInterface}
    {top : String} (found : interfaceByID interfaces current.id = some current)
    (walked : interfaceRoot interfaces fuel seen current = .ok top) :
    Path interfaces current top := by
  induction fuel generalizing seen current with
  | zero => cases walked
  | succ fuel ih =>
      unfold interfaceRoot at walked
      split at walked
      · cases walked
      · split at walked
        next root =>
          cases walked
          exact .single found root
        next named =>
          split at walked
          · cases walked
          next parent parentFound =>
            split at walked
            · cases walked
            next boundary =>
              simp only [not_or, not_not] at boundary
              exact .up found named parentFound boundary
                (ih (interfaceByID_self parentFound) walked)

/-- **Paths with different ends share no interface.** -/
theorem disjoint_of_tops_ne {i j : NetworkInterface} {top top' : String}
    (path : Path interfaces i top) (path' : Path interfaces j top') (differ : top ≠ top')
    {ancestor : String} (above : Above (parentInterface interfaces) i.id ancestor) :
    ¬ Above (parentInterface interfaces) j.id ancestor := fun above' =>
  differ (ParentWalk.top_eq_of_meet path.ends path'.ends path.reaches path'.reaches above above')

end Paths

/-! ## What an authorised plan rests on -/

/-- The chain of parents of the interface ends, and every interface on it belongs to the target
node, site and scope. -/
structure StaysOnTarget (interfaces : List NetworkInterface) (target : Target)
    (i : NetworkInterface) : Prop where
  finite : Grounded (parentInterface interfaces) (fun id => (interfaceByID interfaces id).isSome)
    i.id
  inside : ∀ ancestor, Above (parentInterface interfaces) i.id ancestor →
    ∃ j ∈ interfaces, j.id = ancestor ∧ j.nodeID = target.nodeID ∧ j.siteID = target.siteID ∧
      j.scopeID = target.scopeID

/-- The assignment makes the target node an edge gateway of the target site and scope. -/
@[mk_iff] structure AssignsEdge (target : Target) (a : RoleAssignment) : Prop where
  role : a.role = .edgeGateway
  node : a.targetNodeID = target.nodeID
  scope : a.scopeID = target.scopeID
  site : a.siteID = target.siteID
  metadata : a.toObjectMetadata.Valid
  service : validIdentifier a.serviceIdentityID = true

theorem isEdgeAssignment_iff {target : Target} {a : RoleAssignment} :
    isEdgeAssignment target a = true ↔ AssignsEdge target a := by
  have valid : a.toObjectMetadata.validate.isOk = true ↔ a.toObjectMetadata.Valid := by
    rw [← ObjectMetadata.passes_checks, ← firstFailure_passes, ObjectMetadata.validate]
    cases firstFailure a.toObjectMetadata.checks <;> simp [Except.isOk, Except.toBool]
  simp only [isEdgeAssignment, Bool.and_eq_true, beq_iff_eq, valid, and_assoc, assignsEdge_iff]

/-- The records behind a plan. -/
structure RestsOn (request : AuthorizationRequest) (inventory : Inventory)
    (plan : AuthorizationPlan) (a : RoleAssignment) (wan lan : NetworkInterface)
    (wanZone lanZone : NetworkZone) : Prop where
  onlyAssignment : ∃ before after, inventory.roleAssignments = before ++ a :: after ∧
    AssignsEdge request.target a ∧ ∀ other ∈ before ++ after, ¬ AssignsEdge request.target other
  approved : request.approval.decision = .approved
  capability : request.operation.required = some request.capability
  distinctIDs : (inventory.interfaces.map (·.id)).Nodup
  wanInterface : wan ∈ inventory.interfaces ∧ wan.id = request.target.wanInterfaceID
  lanInterface : lan ∈ inventory.interfaces ∧ lan.id = request.target.lanInterfaceID
  wanSide : wanZone ∈ inventory.zones ∧ wanZone.id = wan.networkZoneID ∧ wanZone.kind = .wan ∧
    wanZone.siteID = request.target.siteID ∧ wanZone.scopeID = request.target.scopeID
  lanSide : lanZone ∈ inventory.zones ∧ lanZone.id = lan.networkZoneID ∧ lanZone.kind = .lan ∧
    lanZone.siteID = request.target.siteID ∧ lanZone.scopeID = request.target.scopeID
  wanPath : StaysOnTarget inventory.interfaces request.target wan
  lanPath : StaysOnTarget inventory.interfaces request.target lan
  disjoint : ∀ ancestor, Above (parentInterface inventory.interfaces) wan.id ancestor →
    ¬ Above (parentInterface inventory.interfaces) lan.id ancestor
  evidence : plan.evidence = ⟨a.objectID, a.resourceVersion, wan.id, wanZone.id, lan.id,
    lanZone.id, request.approval.id, request.approval.policyID, request.capability⟩

theorem validateRequest_capability {request : AuthorizationRequest} {capability : Capability}
    (valid : validateRequest request = .ok capability) :
    request.operation.required = some capability := by
  simp only [validateRequest, except_bind_ok, orDeny_ok] at valid
  obtain ⟨_, _, _, required, _, _, same⟩ := valid
  cases same
  exact required

theorem Path.staysOnTarget {interfaces : List NetworkInterface} {i : NetworkInterface}
    {top : String} {target : Target} (path : Path interfaces i top)
    (onTarget : interfaceMatchesTarget i target = true) : StaysOnTarget interfaces target i := by
  refine ⟨path.finite, fun ancestor above => ?_⟩
  obtain ⟨j, listed, same, node, site, scope⟩ := path.inside ancestor above
  simp only [interfaceMatchesTarget, Bool.and_eq_true, beq_iff_eq] at onTarget
  exact ⟨j, listed, same, node.trans onTarget.1.1, site.trans onTarget.1.2,
    scope.trans onTarget.2⟩

theorem unnamedPlan_restsOn {request : AuthorizationRequest} {inventory : Inventory}
    {plan : AuthorizationPlan} (built : unnamedPlan request inventory = .ok plan) :
    ∃ a wan lan wanZone lanZone, RestsOn request inventory plan a wan lan wanZone lanZone := by
  simp only [unnamedPlan, except_bind_ok, orStop_ok, orDeny_ok] at built
  obtain ⟨required, valid, _, matched, a, rfl, ⟨⟩, grants, interfaces, indexed, ⟨wan, lan⟩, both,
    ⟨⟩, onTarget, wanRoot, wanWalk, lanRoot, lanWalk, ⟨⟩, differ, zones, zonesIndexed,
    ⟨wanZone, lanZone⟩, bothZones, ⟨⟩, zoneChecks, _, _, same⟩ := built
  cases same
  simp only [firstFailure_passes, passes_cons, passes_nil, and_true, Bool.or_eq_false_iff,
    Bool.not_eq_false', bne_eq_false_iff_eq, beq_eq_false_iff_ne]
    at grants onTarget differ zoneChecks
  obtain ⟨⟨_, approved⟩, capability, -⟩ := grants
  obtain ⟨rfl, -, distinct⟩ := index_ok.mp indexed
  obtain ⟨rfl, -, -⟩ := index_ok.mp zonesIndexed
  obtain ⟨wanFound, lanFound⟩ := bothOrDeny_ok.mp both
  obtain ⟨wanZoneFound, lanZoneFound⟩ := bothOrDeny_ok.mp bothZones
  rw [explicitEdgeAssignment_eq, onlyMatch_some, Option.toList_none, List.nil_append,
    List.filter_eq_cons_iff] at matched
  obtain ⟨before, after, split, first, own, last⟩ := matched
  simp only [zoneMatchesTarget, Bool.and_eq_true, beq_iff_eq] at zoneChecks
  have wanPath := interfaceRoot_ok (interfaceByID_self wanFound) wanWalk
  have lanPath := interfaceRoot_ok (interfaceByID_self lanFound) lanWalk
  refine ⟨a, wan, lan, wanZone, lanZone, ?_⟩
  exact {
    onlyAssignment := ⟨before, after, split, isEdgeAssignment_iff.mp own,
      fun other listed assigns => (List.mem_append.mp listed).elim
        (fun earlier => first other earlier (isEdgeAssignment_iff.mpr assigns))
        fun later => List.filter_eq_nil_iff.mp last other later (isEdgeAssignment_iff.mpr assigns)⟩
    approved := approved
    capability := capability ▸ validateRequest_capability valid
    distinctIDs := distinct
    wanInterface := interfaceByID_some wanFound
    lanInterface := interfaceByID_some lanFound
    wanSide := ⟨(zoneByID_some wanZoneFound).1, (zoneByID_some wanZoneFound).2, zoneChecks.2.1,
      zoneChecks.1.1⟩
    lanSide := ⟨(zoneByID_some lanZoneFound).1, (zoneByID_some lanZoneFound).2, zoneChecks.2.2,
      zoneChecks.1.2⟩
    wanPath := wanPath.staysOnTarget onTarget.1
    lanPath := lanPath.staysOnTarget onTarget.2
    disjoint := fun _ above => disjoint_of_tops_ne wanPath lanPath differ above
    evidence := rfl }

/-- **Authorisation is independent of the order of the inventory and safe.** Every run ends, on
any inventory. A reordered inventory gives the same plan, name included, or the same code of
refusal. A plan rests on the only assignment of the role to the target, on an approval and the
capability of the operation, and on a WAN and a LAN interface of the target whose chains of
parents end, stay on the target and share no interface. -/
theorem buildAuthorizationPlan_safe (request : AuthorizationRequest) (inventory : Inventory) :
    buildAuthorizationPlan request inventory ≠ .error .unfinished ∧
    (∀ inventory', inventory.Reordered inventory' →
      (buildAuthorizationPlan request inventory').mapError Stop.code =
        (buildAuthorizationPlan request inventory).mapError Stop.code) ∧
    ∀ plan, buildAuthorizationPlan request inventory = .ok plan →
      ∃ a wan lan wanZone lanZone, RestsOn request inventory plan a wan lan wanZone lanZone := by
  refine ⟨fun stopped => ?_, fun inventory' reordered => ?_, fun plan built => ?_⟩
  · cases run : unnamedPlan request inventory with
    | error e =>
        rw [buildAuthorizationPlan, run] at stopped
        cases stopped
        exact unnamedPlan_finished request inventory run
    | ok plan =>
        rw [buildAuthorizationPlan, run] at stopped
        cases stopped
  · have alike : Alike SameCode Eq (buildAuthorizationPlan request inventory)
        (buildAuthorizationPlan request inventory') := by
      refine (unnamedPlan_alike request reordered).map ?_
      rintro plan _ rfl
      rfl
    exact alike.mapError_eq.symm
  · obtain ⟨unnamed, run, rfl⟩ := except_map_ok.mp built
    obtain ⟨a, wan, lan, wanZone, lanZone, rests⟩ := unnamedPlan_restsOn run
    exact ⟨a, wan, lan, wanZone, lanZone, { rests with evidence := rests.evidence }⟩

/-- Routing on a node between two interfaces. -/
def sampleRequest : AuthorizationRequest where
  schemaVersion := requestSchemaVersion
  mode := .plan
  operation := .routing
  target := ⟨"node-1", "scope-1", "site-1", "uplink-100", "lan0"⟩
  approval := ⟨"approval-1", "policy-1", .approved⟩
  capability := .routingPlan

def sampleInterface (id zone parent : String) : NetworkInterface where
  id := id
  nodeID := "node-1"
  name := id
  kind := .physical
  scopeID := "scope-1"
  siteID := "site-1"
  networkZoneID := zone
  macAddress := ""
  operationalState := .up
  addresses := []
  mtu := 1500
  linkSpeedMbps := 1000
  parentInterfaceID := parent
  vlanID := none

/-- The uplink is a VLAN of a physical interface. -/
def sampleInventory : Inventory where
  roleAssignments := [{
    objectID := "edge-1"
    scopeID := "scope-1"
    ownerScope := "scope-1"
    generation := 1
    resourceVersion := "v1"
    createdAt := 1
    updatedAt := 1
    targetNodeID := "node-1"
    serviceIdentityID := "service-1"
    role := .edgeGateway
    siteID := "site-1"
    managementZoneID := "" }]
  zones := [⟨"zone-wan", "WAN", .wan, "scope-1", "site-1"⟩,
    ⟨"zone-lan", "LAN", .lan, "scope-1", "site-1"⟩]
  interfaces := [sampleInterface "eth0" "zone-wan" "", sampleInterface "lan0" "zone-lan" "",
    sampleInterface "uplink-100" "zone-wan" "eth0"]

def sampleReversed : Inventory where
  roleAssignments := sampleInventory.roleAssignments
  zones := sampleInventory.zones.reverse
  interfaces := sampleInventory.interfaces.reverse

theorem buildAuthorizationPlan_safe_sample :
    buildAuthorizationPlan sampleRequest sampleInventory ≠ .error .unfinished ∧
    (buildAuthorizationPlan sampleRequest sampleReversed).mapError Stop.code =
      (buildAuthorizationPlan sampleRequest sampleInventory).mapError Stop.code ∧
    ∃ plan, buildAuthorizationPlan sampleRequest sampleInventory = .ok plan ∧
      ∃ a wan lan wanZone lanZone,
        RestsOn sampleRequest sampleInventory plan a wan lan wanZone lanZone := by
  obtain ⟨ends, order, rests⟩ := buildAuthorizationPlan_safe sampleRequest sampleInventory
  have reordered : sampleInventory.Reordered sampleReversed :=
    ⟨.refl _, (List.reverse_perm _).symm, (List.reverse_perm _).symm⟩
  obtain ⟨unnamed, run⟩ := @exists_of_isOk _ _ (unnamedPlan sampleRequest sampleInventory)
    (by decide +kernel)
  have built : buildAuthorizationPlan sampleRequest sampleInventory =
      .ok { unnamed with planID := planID unnamed } := except_map_ok.mpr ⟨unnamed, run, rfl⟩
  exact ⟨ends, order sampleReversed reordered, _, built, rests _ built⟩

end ControlCenter.EdgeGateway
