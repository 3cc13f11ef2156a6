import ControlCenter.CoreContracts.RoleAssignments

/-!
# Network zones and interfaces

`internal/corecontracts/network.go`: a complete set of network zones and of the interfaces of
nodes. `ValidateNetworkContracts` goes over the zones, over the interfaces and over their
parents, and then walks from every interface to its topmost parent.

The set is accepted exactly when it is valid record by record and as a whole
(`validateNetworkContracts_ok_iff`). The walks end on any parents
(`validateNetworkContracts_ends`). In an accepted set the interfaces form a forest within
their nodes (`interface_forest`).

The lower case of characters that are not ASCII and the canonical CIDR prefixes are those of
the standard library and are given (`NetworkText`).
-/

set_option autoImplicit false

namespace ControlCenter.CoreContracts

open Library

/-! ## Records -/

/-- What the standard library says about texts. -/
structure NetworkText where
  /-- The lower case of a character that is not ASCII. -/
  lower : Char → Char
  /-- `netip.ParsePrefix` reads the text as a prefix that is no IPv4-mapped one, and writes the
  same text. -/
  canonicalPrefix : String → Bool

inductive NetworkZoneKind where
  | unassigned
  | wan
  | lan
  | management
  | dmz
  | cluster
  | storage
  | backup
  | trusted
  | other (text : String)
  deriving DecidableEq

def NetworkZoneKind.text : NetworkZoneKind → String
  | .unassigned => "unassigned"
  | .wan => "wan"
  | .lan => "lan"
  | .management => "management"
  | .dmz => "dmz"
  | .cluster => "cluster"
  | .storage => "storage"
  | .backup => "backup"
  | .trusted => "trusted"
  | .other text => text

/-- The kind is one of the contract. -/
def NetworkZoneKind.valid : NetworkZoneKind → Bool
  | .other _ => false
  | _ => true

inductive NetworkInterfaceKind where
  | physical
  | bond
  | bridge
  | vlan
  | virtual
  | other (text : String)
  deriving DecidableEq

def NetworkInterfaceKind.text : NetworkInterfaceKind → String
  | .physical => "physical"
  | .bond => "bond"
  | .bridge => "bridge"
  | .vlan => "vlan"
  | .virtual => "virtual"
  | .other text => text

def NetworkInterfaceKind.valid : NetworkInterfaceKind → Bool
  | .other _ => false
  | _ => true

inductive NetworkLinkState where
  | up
  | down
  | unknown
  | other (text : String)
  deriving DecidableEq

def NetworkLinkState.text : NetworkLinkState → String
  | .up => "up"
  | .down => "down"
  | .unknown => "unknown"
  | .other text => text

def NetworkLinkState.valid : NetworkLinkState → Bool
  | .other _ => false
  | _ => true

structure NetworkZone where
  id : String
  name : String
  kind : NetworkZoneKind
  scopeID : String
  siteID : String
  deriving DecidableEq

structure NetworkInterface where
  id : String
  nodeID : String
  name : String
  kind : NetworkInterfaceKind
  scopeID : String
  siteID : String
  networkZoneID : String
  macAddress : String
  operationalState : NetworkLinkState
  addresses : List String
  mtu : UInt32
  linkSpeedMbps : UInt64
  parentInterfaceID : String
  vlanID : Option UInt16
  deriving DecidableEq

def maxNetworkInterfacesPerNode : Nat := 64

def maxNetworkInterfaceAddresses : Nat := 64

/-! ## Validation -/

/-- A message about an invalid network contract. -/
def networkError (message : String) : String :=
  "invalid distributed network contract: " ++ message

def validateNetworkZone (t : Topology) (zone : NetworkZone) : List (Bool × String) :=
  let own := fun e => "zone " ++ quoted zone.id ++ ": " ++ e
  relabel networkError
    (validateIdentifier "network_zone.id" zone.id ++
      relabel own (validateDisplayName "network_zone.name" zone.name) ++
      [(!zone.kind.valid,
        "zone " ++ quoted zone.id ++ " has unsupported kind " ++ quoted zone.kind.text)] ++
      relabel own (validateIdentifier "network_zone.scope_id" zone.scopeID) ++
      relabel own (validateIdentifier "network_zone.site_id" zone.siteID) ++
      foundChecks (t.site zone.siteID)
        ("zone " ++ quoted zone.id ++ " has unknown site " ++ quoted zone.siteID) fun site =>
        [(!t.contains site.scopeID zone.scopeID, "zone " ++ quoted zone.id ++ " scope " ++
          quoted zone.scopeID ++ " is outside site " ++ quoted zone.siteID)])

/-- A node is known at a site when an assignment binds it there. -/
def nodeAtSite (assignments : List RoleAssignment) (siteID nodeID : String) : Bool :=
  assignments.any fun a => a.siteID != "" && a.siteID == siteID && a.targetNodeID == nodeID

/-- Six pairs of lower hexadecimal digits with colons between them: what `net.ParseMAC` reads as
six bytes and writes as the same text. -/
def canonicalMAC (address : String) : Bool :=
  address.toList.length == 17 && address.toList.zipIdx.all fun (c, index) =>
    if index % 3 = 2 then c == ':'
    else c.isDigit || (decide ('a' ≤ c) && decide (c ≤ 'f'))

def macChecks (i : NetworkInterface) : List (Bool × String) :=
  if i.macAddress ≠ "" then
    [(!canonicalMAC i.macAddress,
      "interface " ++ quoted i.id ++ " requires a canonical 48-bit mac_address")]
  else
    [(decide (i.kind = .physical), "physical interface " ++ quoted i.id ++ " requires mac_address")]

def vlanChecks (i : NetworkInterface) : List (Bool × String) :=
  if i.kind = .vlan then
    [(i.parentInterfaceID == "" || i.vlanID.all fun vlan => vlan == 0 || decide (4094 < vlan),
      "VLAN interface " ++ quoted i.id ++ " requires parent_interface_id and vlan_id 1..4094")]
  else
    [(i.vlanID.isSome, "non-VLAN interface " ++ quoted i.id ++ " must not declare vlan_id")]

/-- The tests of the site, the zone and the node of an interface. -/
def interfacePlaceChecks (t : Topology) (zones : List NetworkZone)
    (assignments : List RoleAssignment) (i : NetworkInterface) : List (Bool × String) :=
  foundChecks (t.site i.siteID)
    ("interface " ++ quoted i.id ++ " has unknown site " ++ quoted i.siteID) (fun site =>
    [(!t.contains site.scopeID i.scopeID, "interface " ++ quoted i.id ++ " scope " ++
      quoted i.scopeID ++ " is outside site " ++ quoted i.siteID)]) ++
  foundChecks (zones.find? fun z => z.id == i.networkZoneID)
    ("interface " ++ quoted i.id ++ " has unknown network zone " ++ quoted i.networkZoneID)
    (fun zone =>
    [(zone.siteID != i.siteID || !t.contains zone.scopeID i.scopeID, "interface " ++ quoted i.id ++
      " scope/site is outside network zone " ++ quoted i.networkZoneID)]) ++
  [(!nodeAtSite assignments i.siteID i.nodeID, "interface " ++ quoted i.id ++
    " references node " ++ quoted i.nodeID ++ " without a role assignment at site " ++
    quoted i.siteID)]

def validateNetworkInterface (text : NetworkText) (t : Topology) (zones : List NetworkZone)
    (assignments : List RoleAssignment) (i : NetworkInterface) : List (Bool × String) :=
  let own := fun e => "interface " ++ quoted i.id ++ ": " ++ e
  relabel networkError
    (relabel own
      (validateIdentifier "network_interface.id" i.id ++
        validateIdentifier "network_interface.node_id" i.nodeID ++
        validateIdentifier "network_interface.scope_id" i.scopeID ++
        validateIdentifier "network_interface.site_id" i.siteID ++
        validateIdentifier "network_interface.network_zone_id" i.networkZoneID ++
        validateDisplayName "network_interface.name" i.name) ++
      [(!i.kind.valid,
          "interface " ++ quoted i.id ++ " has unsupported kind " ++ quoted i.kind.text),
        (!i.operationalState.valid, "interface " ++ quoted i.id ++
          " has unsupported operational_state " ++ quoted i.operationalState.text)] ++
      interfacePlaceChecks t zones assignments i ++
      [(decide (i.mtu < 68) || decide (65535 < i.mtu),
          "interface " ++ quoted i.id ++ " MTU must be between 68 and 65535"),
        (decide (10000000 < i.linkSpeedMbps),
          "interface " ++ quoted i.id ++ " link_speed_mbps exceeds the supported maximum")] ++
      macChecks i ++
      [(decide (maxNetworkInterfaceAddresses < i.addresses.length),
          "interface " ++ quoted i.id ++ " exceeds 64 addresses")] ++
      distinctChecks id
        (fun _ address => [(!text.canonicalPrefix address, "interface " ++ quoted i.id ++
          " address " ++ quoted address ++ " must be a canonical IPv4 or IPv6 CIDR prefix")])
        (fun _ _ => [])
        (fun address => "interface " ++ quoted i.id ++ " repeats address " ++ quoted address)
        0 [] i.addresses ++
      vlanChecks i ++
      [(i.parentInterfaceID != "" && decide (i.kind ≠ .vlan) && decide (i.kind ≠ .virtual),
          "interface " ++ quoted i.id ++ " kind " ++ quoted i.kind.text ++
            " must not declare parent_interface_id")])

/-- `strings.ToLower`. -/
def NetworkText.toLower (text : NetworkText) (s : String) : String :=
  String.ofList (s.toList.map fun c => if c.val < 128 then c.toLower else text.lower c)

/-- What only one record may have. -/
inductive NetworkKey where
  | zone (id : String)
  | interface (id : String)
  | name (key : String)
  | vlan (key : String)
  deriving DecidableEq

def networkZoneSteps (t : Topology) (zone : NetworkZone) : List (Registration NetworkKey String) :=
  [.tests (validateNetworkZone t zone),
    .claim (.zone zone.id) zone.id fun _ =>
      networkError ("duplicate network zone " ++ quoted zone.id)]

/-- The key of the name of an interface on its node. -/
def nameKey (text : NetworkText) (i : NetworkInterface) : String :=
  i.nodeID ++ "\x00" ++ text.toLower i.name

/-- The rounds of the loop over the interfaces, after those that are done. -/
def interfaceSteps (text : NetworkText) (t : Topology) (zones : List NetworkZone)
    (assignments : List RoleAssignment) : (done : List NetworkInterface) →
    List NetworkInterface → List (Registration NetworkKey String)
  | _, [] => []
  | done, i :: rest =>
      [.tests (validateNetworkInterface text t zones assignments i),
        .claim (.interface i.id) i.id fun _ =>
          networkError ("duplicate network interface " ++ quoted i.id),
        .claim (.name (nameKey text i)) i.id fun other =>
          networkError ("interfaces " ++ quoted other ++ " and " ++ quoted i.id ++
            " repeat name " ++ quoted i.name ++ " on node " ++ quoted i.nodeID),
        .tests [(decide (maxNetworkInterfacesPerNode <
            done.countP (fun other => other.nodeID == i.nodeID) + 1),
          networkError ("node " ++ quoted i.nodeID ++ " exceeds 64 network interfaces"))]] ++
      interfaceSteps text t zones assignments (i :: done) rest

def interfaceByID (interfaces : List NetworkInterface) (id : String) : Option NetworkInterface :=
  interfaces.find? fun i => i.id == id

/-- The key of a VLAN on its parent. -/
def vlanKey (i : NetworkInterface) : String :=
  i.nodeID ++ "\x00" ++ i.parentInterfaceID ++ "\x00" ++
    i.vlanID.elim "" fun vlan => vlan.toNat.repr

/-- The tests of the parent that an interface names. -/
def parentChecks (interfaces : List NetworkInterface) (i : NetworkInterface) :
    List (Bool × String) :=
  relabel networkError
    (foundChecks (interfaceByID interfaces i.parentInterfaceID)
      ("interface " ++ quoted i.id ++ " references invalid parent " ++ quoted i.parentInterfaceID)
      fun parent =>
      [(parent.id == i.id, "interface " ++ quoted i.id ++ " references invalid parent " ++
          quoted i.parentInterfaceID),
        (parent.nodeID != i.nodeID || parent.siteID != i.siteID || parent.scopeID != i.scopeID,
          "interface " ++ quoted i.id ++ " parent must belong to the same node, site, and scope")])

/-- One round of the loop over the parents. -/
def parentSteps (interfaces : List NetworkInterface) (i : NetworkInterface) :
    List (Registration NetworkKey String) :=
  if i.parentInterfaceID = "" then []
  else
    .tests (parentChecks interfaces i) ::
      if i.kind = .vlan then
        [.claim (.vlan (vlanKey i)) i.id fun other =>
          networkError ("VLAN interfaces " ++ quoted other ++ " and " ++ quoted i.id ++
            " repeat parent/VLAN binding")]
      else []

/-- The step from an interface to its parent. -/
def parentInterface (interfaces : List NetworkInterface) (current : String) : Option String :=
  (interfaceByID interfaces current).bind fun i =>
    if i.parentInterfaceID = "" then none else some i.parentInterfaceID

/-- The walks from each interface. `none` means that a walk did not end. -/
def validateParentPaths (interfaces : List NetworkInterface) :
    List String → Option (Except String Unit)
  | [] => some (.ok ())
  | id :: rest =>
      match ParentWalk.climb (parentInterface interfaces) (interfaces.length + 1) [] id with
      | none => none
      | some (.error _) => some (.error
          (networkError "network interface parent relationship contains a cycle"))
      | some (.ok _) => validateParentPaths interfaces rest

/-- The loops over zones, interfaces and parents. -/
def networkChecks (text : NetworkText) (zones : List NetworkZone)
    (interfaces : List NetworkInterface) (assignments : List RoleAssignment) (t : Topology) :
    List (Bool × String) :=
  registrationChecks [] (zones.flatMap (networkZoneSteps t)) ++
    registrationChecks [] (interfaceSteps text t zones assignments [] interfaces) ++
    registrationChecks [] (interfaces.flatMap (parentSteps interfaces))

/-- The source walks over its map of parents in any order; here they are walked in the order of
the list. -/
def validateNetworkContracts (text : NetworkText) (zones : List NetworkZone)
    (interfaces : List NetworkInterface) (assignments : List RoleAssignment) (t : Topology) :
    Option (Except String Unit) :=
  match firstFailure (networkChecks text zones interfaces assignments t) with
  | .error e => some (.error e)
  | .ok () => validateParentPaths interfaces (interfaces.map (·.id))

/-! ## What the loops pass -/

section Loops

variable {text : NetworkText} {zones : List NetworkZone} {interfaces : List NetworkInterface}
  {assignments : List RoleAssignment} {t : Topology}

theorem passes_networkZoneSteps :
    Passes (registrationChecks [] (zones.flatMap (networkZoneSteps t))) ↔
      (∀ z ∈ zones, Passes (validateNetworkZone t z)) ∧ (zones.map (·.id)).Nodup := by
  rw [passes_registrations (fun z => Passes (validateNetworkZone t z)) fun z => [.zone z.id]]
  · rw [List.Nodup, List.pairwise_map]
    refine and_congr_right fun _ => iff_of_eq (congrArg (List.Pairwise · zones) ?_)
    funext a b
    simp [eq_comm]
  · intro z
    simp [networkZoneSteps, Registration.Good]
  · intro z
    rfl
  · intro z
    simp

theorem interfaceSteps_keys (done rest : List NetworkInterface) :
    (interfaceSteps text t zones assignments done rest).filterMap Registration.key =
      rest.flatMap fun i => [.interface i.id, .name (nameKey text i)] := by
  induction rest generalizing done with
  | nil => rfl
  | cons i rest ih =>
      rw [interfaceSteps, List.filterMap_append, ih, List.flatMap_cons]
      rfl

/-- The interfaces of a node. -/
def onNode (interfaces : List NetworkInterface) (node : String) : Nat :=
  interfaces.countP fun i => i.nodeID == node

theorem onNode_cons (i : NetworkInterface) (rest : List NetworkInterface) (node : String) :
    onNode (i :: rest) node = onNode rest node + if i.nodeID = node then 1 else 0 := by
  rw [onNode, List.countP_cons]
  simp [onNode]

/-- The rounds pass when each interface does and no node has too many. -/
theorem interfaceSteps_good (done rest : List NetworkInterface) :
    (∀ step ∈ interfaceSteps text t zones assignments done rest, step.Good) ↔
      (∀ i ∈ rest, Passes (validateNetworkInterface text t zones assignments i)) ∧
      ∀ node, 0 < onNode rest node →
        onNode done node + onNode rest node ≤ maxNetworkInterfacesPerNode := by
  induction rest generalizing done with
  | nil => simp [interfaceSteps, onNode]
  | cons i rest ih =>
      -- the last interface of a node counts all of them
      have step : (∀ node, 0 < onNode (i :: rest) node →
            onNode done node + onNode (i :: rest) node ≤ maxNetworkInterfacesPerNode) ↔
          onNode done i.nodeID + 1 ≤ maxNetworkInterfacesPerNode ∧
          ∀ node, 0 < onNode rest node →
            onNode (i :: done) node + onNode rest node ≤ maxNetworkInterfacesPerNode := by
        simp only [onNode_cons]
        constructor
        · intro few
          refine ⟨?_, fun node present => ?_⟩
          · have here := few i.nodeID (by simp)
            rw [if_pos rfl] at here
            omega
          · have here := few node (by omega)
            omega
        · rintro ⟨first, few⟩ node present
          by_cases later : 0 < onNode rest node
          · have here := few node later
            omega
          · by_cases own : i.nodeID = node
            · subst own
              rw [if_pos rfl]
              omega
            · rw [if_neg own] at present
              omega
      rw [interfaceSteps, List.forall_mem_append, ih, List.forall_mem_cons, step]
      simp only [List.forall_mem_cons, List.not_mem_nil, false_implies, implies_true, and_true,
        Registration.Good, passes_cons, passes_nil, true_and, decide_eq_false_iff_not, not_lt,
        onNode]
      tauto

theorem passes_interfaceSteps :
    Passes (registrationChecks [] (interfaceSteps text t zones assignments [] interfaces)) ↔
      (∀ i ∈ interfaces, Passes (validateNetworkInterface text t zones assignments i)) ∧
      (∀ node, onNode interfaces node ≤ maxNetworkInterfacesPerNode) ∧
      interfaces.Pairwise fun a b => a.id ≠ b.id ∧ nameKey text a ≠ nameKey text b := by
  have counts : (∀ node, 0 < onNode interfaces node →
      onNode [] node + onNode interfaces node ≤ maxNetworkInterfacesPerNode) ↔
      ∀ node, onNode interfaces node ≤ maxNetworkInterfacesPerNode := by
    refine forall_congr' fun node => ⟨fun few => ?_, fun few _ => by simpa [onNode] using few⟩
    rcases Nat.eq_zero_or_pos (onNode interfaces node) with none | present
    · omega
    · simpa [onNode] using few present
  have apart : (interfaces.flatMap fun i =>
      [NetworkKey.interface i.id, .name (nameKey text i)]).Nodup ↔
      interfaces.Pairwise fun a b => a.id ≠ b.id ∧ nameKey text a ≠ nameKey text b := by
    rw [List.nodup_flatMap, and_iff_right fun _ _ => by simp]
    refine iff_of_eq (congrArg (List.Pairwise · interfaces) ?_)
    funext a b
    simp [eq_comm]
  rw [passes_registrationChecks, interfaceSteps_good, interfaceSteps_keys, counts, apart]
  simp [and_assoc]

/-- The interface is a VLAN on a parent. -/
def NetworkInterface.isBoundVLAN (i : NetworkInterface) : Prop :=
  i.parentInterfaceID ≠ "" ∧ i.kind = .vlan

theorem passes_parentSteps :
    Passes (registrationChecks [] (interfaces.flatMap (parentSteps interfaces))) ↔
      (∀ i ∈ interfaces, i.parentInterfaceID ≠ "" → Passes (parentChecks interfaces i)) ∧
      interfaces.Pairwise fun a b => a.isBoundVLAN → b.isBoundVLAN → vlanKey a ≠ vlanKey b := by
  classical
  rw [passes_registrations
    (fun i => i.parentInterfaceID ≠ "" → Passes (parentChecks interfaces i))
    fun i => if i.isBoundVLAN then [.vlan (vlanKey i)] else []]
  · refine and_congr_right fun _ => iff_of_eq (congrArg (List.Pairwise · interfaces) ?_)
    funext a b
    by_cases first : a.isBoundVLAN <;> by_cases second : b.isBoundVLAN <;>
      simp [first, second, eq_comm]
  · intro i
    unfold parentSteps
    by_cases top : i.parentInterfaceID = ""
    · simp [top]
    · by_cases vlan : i.kind = .vlan <;> simp [top, vlan, Registration.Good]
  · intro i
    unfold parentSteps NetworkInterface.isBoundVLAN
    by_cases top : i.parentInterfaceID = ""
    · simp [top]
    · by_cases vlan : i.kind = .vlan
      · rw [if_neg top, if_pos vlan, if_pos ⟨top, vlan⟩]
        rfl
      · rw [if_neg top, if_neg vlan, if_neg fun both => vlan both.2]
        rfl
  · intro i
    split <;> simp

end Loops

/-! ## The forest -/

section Forest

variable {interfaces : List NetworkInterface}

/-- Every parent that an interface names is known. -/
def ParentsKnown (interfaces : List NetworkInterface) : Prop :=
  ∀ i ∈ interfaces, i.parentInterfaceID ≠ "" → i.parentInterfaceID ∈ interfaces.map (·.id)

theorem interfaceByID_some {id : String} {i : NetworkInterface}
    (found : interfaceByID interfaces id = some i) : i ∈ interfaces ∧ i.id = id :=
  ⟨List.mem_of_find?_eq_some found, by simpa using List.find?_some found⟩

theorem parentInterface_some {id up : String} (edge : parentInterface interfaces id = some up) :
    ∃ i ∈ interfaces, i.id = id ∧ i.parentInterfaceID = up ∧ up ≠ "" := by
  rw [parentInterface, Option.bind_eq_some_iff] at edge
  obtain ⟨i, found, edge⟩ := edge
  obtain ⟨listed, same⟩ := interfaceByID_some found
  split at edge
  · cases edge
  · next named =>
      cases edge
      exact ⟨i, listed, same, rfl, named⟩

theorem passes_parentChecks {i : NetworkInterface} : Passes (parentChecks interfaces i) ↔
    ∃ parent, interfaceByID interfaces i.parentInterfaceID = some parent ∧ parent.id ≠ i.id ∧
      parent.nodeID = i.nodeID ∧ parent.siteID = i.siteID ∧ parent.scopeID = i.scopeID := by
  simp [parentChecks, and_assoc]

theorem parentsKnown_of_checks
    (checked : ∀ i ∈ interfaces, i.parentInterfaceID ≠ "" → Passes (parentChecks interfaces i)) :
    ParentsKnown interfaces := by
  intro i listed named
  obtain ⟨parent, found, -⟩ := passes_parentChecks.mp (checked i listed named)
  obtain ⟨known, same⟩ := interfaceByID_some found
  exact same ▸ List.mem_map_of_mem known

theorem ParentsKnown.up (known : ParentsKnown interfaces) : ∀ id ∈ interfaces.map (·.id), ∀ up,
    parentInterface interfaces id = some up → up ∈ interfaces.map (·.id) := by
  intro id _ up edge
  obtain ⟨i, listed, -, rfl, named⟩ := parentInterface_some edge
  exact known i listed named

theorem validateParentPaths_ends (known : ParentsKnown interfaces) {ids : List String}
    (listed : ids ⊆ interfaces.map (·.id)) : validateParentPaths interfaces ids ≠ none := by
  induction ids with
  | nil => exact nofun
  | cons id rest ih =>
      obtain ⟨here, others⟩ := List.cons_subset.mp listed
      obtain ⟨result, climbed⟩ := ParentWalk.climb_some known.up here List.nodup_nil
        (List.nil_subset _) (show _ < interfaces.length + 1 + 0 by simp)
      rw [validateParentPaths, climbed]
      cases result with
      | error current => exact nofun
      | ok top => exact ih others

theorem validateParentPaths_ok (known : ParentsKnown interfaces) {ids : List String}
    (listed : ids ⊆ interfaces.map (·.id)) :
    validateParentPaths interfaces ids = some (.ok ()) ↔
      ∀ id ∈ ids, ParentWalk.Grounded (parentInterface interfaces) (fun _ => true) id := by
  induction ids with
  | nil => simp [validateParentPaths]
  | cons id rest ih =>
      obtain ⟨here, others⟩ := List.cons_subset.mp listed
      rw [validateParentPaths, List.forall_mem_cons, ← ih others,
        ← ParentWalk.climb_ok_iff known.up here (show _ < interfaces.length + 1 by simp)]
      split
      · next unfinished => simp [unfinished]
      · next current failed => simp [failed]
      · next top climbed => simp [climbed]

end Forest

/-! ## Acceptance -/

/-- The set is valid record by record and as a whole. -/
structure ValidNetwork (text : NetworkText) (zones : List NetworkZone)
    (interfaces : List NetworkInterface) (assignments : List RoleAssignment) (t : Topology) :
    Prop where
  eachZone : ∀ z ∈ zones, Passes (validateNetworkZone t z)
  zonesApart : (zones.map (·.id)).Nodup
  eachInterface : ∀ i ∈ interfaces, Passes (validateNetworkInterface text t zones assignments i)
  few : ∀ node, onNode interfaces node ≤ maxNetworkInterfacesPerNode
  apart : interfaces.Pairwise fun a b => a.id ≠ b.id ∧ nameKey text a ≠ nameKey text b
  parents : ∀ i ∈ interfaces, i.parentInterfaceID ≠ "" → Passes (parentChecks interfaces i)
  vlansApart : interfaces.Pairwise fun a b =>
    a.isBoundVLAN → b.isBoundVLAN → vlanKey a ≠ vlanKey b
  grounded : ∀ i ∈ interfaces,
    ParentWalk.Grounded (parentInterface interfaces) (fun _ => true) i.id

section Acceptance

variable {text : NetworkText} {zones zones' : List NetworkZone}
  {interfaces interfaces' : List NetworkInterface} {assignments assignments' : List RoleAssignment}
  {t : Topology}

/-- **`ValidateNetworkContracts` ends** on all lists. -/
theorem validateNetworkContracts_ends :
    validateNetworkContracts text zones interfaces assignments t ≠ none := by
  unfold validateNetworkContracts
  split
  · exact nofun
  · next passed =>
      have checked := firstFailure_passes.mp passed
      rw [networkChecks, passes_append, passes_parentSteps] at checked
      exact validateParentPaths_ends (parentsKnown_of_checks checked.2.1) (List.Subset.refl _)

/-- **A set is accepted exactly when it is valid.** -/
theorem validateNetworkContracts_ok_iff :
    validateNetworkContracts text zones interfaces assignments t = some (.ok ()) ↔
      ValidNetwork text zones interfaces assignments t := by
  have walks : ∀ {interfaces : List NetworkInterface}, (∀ id ∈ interfaces.map (·.id),
      ParentWalk.Grounded (parentInterface interfaces) (fun _ => true) id) ↔
      ∀ i ∈ interfaces, ParentWalk.Grounded (parentInterface interfaces) (fun _ => true) i.id :=
    List.forall_mem_map
  have split : Passes (networkChecks text zones interfaces assignments t) ↔
      ((∀ z ∈ zones, Passes (validateNetworkZone t z)) ∧ (zones.map (·.id)).Nodup) ∧
      ((∀ i ∈ interfaces, Passes (validateNetworkInterface text t zones assignments i)) ∧
        (∀ node, onNode interfaces node ≤ maxNetworkInterfacesPerNode) ∧
        interfaces.Pairwise fun a b => a.id ≠ b.id ∧ nameKey text a ≠ nameKey text b) ∧
      (∀ i ∈ interfaces, i.parentInterfaceID ≠ "" → Passes (parentChecks interfaces i)) ∧
        interfaces.Pairwise fun a b => a.isBoundVLAN → b.isBoundVLAN → vlanKey a ≠ vlanKey b := by
    rw [networkChecks, passes_append, passes_append, passes_networkZoneSteps,
      passes_interfaceSteps, passes_parentSteps, and_assoc]
  unfold validateNetworkContracts
  cases checked : firstFailure (networkChecks text zones interfaces assignments t) with
  | error e =>
      refine iff_of_false nofun fun valid => ?_
      rw [firstFailure_passes.mpr (split.mpr ⟨⟨valid.eachZone, valid.zonesApart⟩,
        ⟨valid.eachInterface, valid.few, valid.apart⟩, valid.parents, valid.vlansApart⟩)] at checked
      cases checked
  | ok =>
      obtain ⟨⟨validZones, zonesApart⟩, ⟨validInterfaces, few, apart⟩, parents, vlansApart⟩ :=
        split.mp (firstFailure_passes.mp checked)
      dsimp only
      rw [validateParentPaths_ok (parentsKnown_of_checks parents) (List.Subset.refl _), walks]
      exact ⟨fun grounded => ⟨validZones, zonesApart, validInterfaces, few, apart, parents,
        vlansApart, grounded⟩, fun valid => valid.grounded⟩

theorem ValidNetwork.distinct (valid : ValidNetwork text zones interfaces assignments t) :
    (interfaces.map (·.id)).Nodup := by
  rw [List.Nodup, List.pairwise_map]
  exact valid.apart.imp fun both => both.1

/-- A valid set is valid in any order. -/
theorem ValidNetwork.perm (zonePerm : zones.Perm zones')
    (interfacePerm : interfaces.Perm interfaces') (assignmentPerm : assignments.Perm assignments')
    (valid : ValidNetwork text zones interfaces assignments t) :
    ValidNetwork text zones' interfaces' assignments' t := by
  have sameZone : ∀ id, (zones.find? fun z => z.id == id) = zones'.find? fun z => z.id == id :=
    find?_key_perm zonePerm valid.zonesApart
  have sameNode : ∀ site node,
      nodeAtSite assignments site node = nodeAtSite assignments' site node :=
    fun site node => assignmentPerm.any_eq
  have sameInterface : ∀ id, interfaceByID interfaces id = interfaceByID interfaces' id :=
    find?_key_perm interfacePerm valid.distinct
  have sameParent : parentInterface interfaces = parentInterface interfaces' := by
    funext id
    rw [parentInterface, parentInterface, sameInterface]
  refine ⟨fun z listed => valid.eachZone z (zonePerm.mem_iff.mpr listed),
    (zonePerm.map _).nodup_iff.mp valid.zonesApart, fun i listed => ?_, fun node => ?_,
    (interfacePerm.pairwise_iff fun both => ⟨both.1.symm, both.2.symm⟩).mp valid.apart,
    fun i listed named => ?_,
    (interfacePerm.pairwise_iff fun once second first => (once first second).symm).mp
      valid.vlansApart, fun i listed => ?_⟩
  · have here := valid.eachInterface i (interfacePerm.mem_iff.mpr listed)
    simpa only [validateNetworkInterface, interfacePlaceChecks, sameZone, sameNode] using here
  · rw [onNode, ← interfacePerm.countP_eq]
    exact valid.few node
  · have here := valid.parents i (interfacePerm.mem_iff.mpr listed) named
    rwa [parentChecks, sameInterface] at here
  · rw [← sameParent]
    exact valid.grounded i (interfacePerm.mem_iff.mpr listed)

end Acceptance

/-! ## What an accepted set satisfies -/

/-- The link from an interface to the parent it names. -/
def InterfaceLink (interfaces : List NetworkInterface) (child parent : String) : Prop :=
  ∃ i ∈ interfaces, i.id = child ∧ i.parentInterfaceID = parent ∧ parent ≠ ""

/-- The text with its ASCII letters in lower case. -/
def asciiLower (s : String) : String := String.ofList (s.toList.map Char.toLower)

theorem toLower_ascii (c : Char) : c.toLower.val < 128 ↔ c.val < 128 := by
  unfold Char.toLower
  split
  · next upper =>
      have last : c.val.toNat ≤ 90 := upper.2
      show c.val + 32 < 128 ↔ c.val < 128
      rw [UInt32.lt_iff_toNat_lt, UInt32.lt_iff_toNat_lt]
      simp only [UInt32.toNat_add, UInt32.reduceToNat, Nat.reducePow]
      omega
  · rfl

/-- The lower case depends on the letter only, not on its ASCII case. -/
theorem NetworkText.toLower_eq (text : NetworkText) {s s' : String}
    (same : asciiLower s = asciiLower s') : text.toLower s = text.toLower s' := by
  have letters : s.toList.map Char.toLower = s'.toList.map Char.toLower :=
    String.ofList_injective same
  have refines : ∀ s : String, (s.toList.map fun c =>
      if c.val < 128 then c.toLower else text.lower c) =
      (s.toList.map Char.toLower).map fun c => if c.val < 128 then c else text.lower c := by
    intro s
    rw [List.map_map]
    refine List.map_congr_left fun c _ => ?_
    simp only [Function.comp_apply, toLower_ascii]
    split
    · rfl
    · next wide =>
        have unchanged : c.toLower = c := by
          unfold Char.toLower
          rw [dif_neg]
          rintro ⟨-, upper⟩
          have last : c.val.toNat ≤ 90 := upper
          exact wide (UInt32.lt_iff_toNat_lt.mpr (last.trans_lt (by decide)))
        rw [unchanged]
  rw [toLower, toLower, refines, refines, letters]

section Properties

variable {text : NetworkText} {zones : List NetworkZone} {interfaces : List NetworkInterface}
  {assignments : List RoleAssignment} {t : Topology}

theorem interfaceLink_iff (distinct : (interfaces.map (·.id)).Nodup) {child parent : String} :
    InterfaceLink interfaces child parent ↔ parentInterface interfaces child = some parent := by
  constructor
  · rintro ⟨i, listed, rfl, rfl, named⟩
    have found : interfaceByID interfaces i.id = some i := (find?_key distinct).mpr ⟨listed, rfl⟩
    rw [parentInterface, found, Option.bind_some, if_neg named]
  · exact parentInterface_some

/-- No interface is above itself. -/
theorem ValidNetwork.acyclic (valid : ValidNetwork text zones interfaces assignments t)
    (id : String) : ¬ Relation.TransGen (InterfaceLink interfaces) id id := by
  intro cycle
  obtain ⟨next, link, rest⟩ := Relation.TransGen.head'_iff.mp cycle
  have edge : parentInterface interfaces id = some next :=
    (interfaceLink_iff valid.distinct).mp link
  obtain ⟨i, listed, rfl, -, -⟩ := link
  have climbs : ∀ {a b}, Relation.ReflTransGen (InterfaceLink interfaces) a b →
      ParentWalk.Above (parentInterface interfaces) a b := by
    intro a b path
    induction path with
    | refl => exact .refl
    | tail _ step ih => exact ih.tail ((interfaceLink_iff valid.distinct).mp step)
  exact (valid.grounded i listed).acyclic edge (climbs rest)

/-- A VLAN names a parent. -/
theorem ValidNetwork.boundVLAN (valid : ValidNetwork text zones interfaces assignments t)
    {i : NetworkInterface} (listed : i ∈ interfaces) (vlan : i.kind = .vlan) : i.isBoundVLAN := by
  have checks := valid.eachInterface i listed
  simp only [validateNetworkInterface, passes_relabel, passes_append] at checks
  have own := checks.1.2
  simp only [vlanChecks, if_pos vlan, passes_cons, Bool.or_eq_false_iff, beq_eq_false_iff_ne]
    at own
  exact ⟨own.1.1, vlan⟩

/-- The parent of an interface lies on its node, in its site and scope. -/
theorem ValidNetwork.parent (valid : ValidNetwork text zones interfaces assignments t)
    {i : NetworkInterface} (listed : i ∈ interfaces) (named : i.parentInterfaceID ≠ "") :
    ∃ parent ∈ interfaces, parent.id = i.parentInterfaceID ∧ parent.nodeID = i.nodeID ∧
      parent.siteID = i.siteID ∧ parent.scopeID = i.scopeID := by
  obtain ⟨parent, found, -, place⟩ := passes_parentChecks.mp (valid.parents i listed named)
  obtain ⟨known, same⟩ := interfaceByID_some found
  exact ⟨parent, known, same, place⟩

end Properties

/-- **The interfaces form a forest.** The validation ends, its success does not depend on the
order of the lists, and in an accepted set the parent relation has no cycle, every parent lies
on the node, in the site and in the scope of its child, names are unique on each node up to
ASCII case, and no two VLANs share node, parent and VLAN id. -/
theorem interface_forest (text : NetworkText) (zones : List NetworkZone)
    (interfaces : List NetworkInterface) (assignments : List RoleAssignment) (t : Topology) :
    validateNetworkContracts text zones interfaces assignments t ≠ none ∧
    (∀ zones' interfaces' assignments', zones.Perm zones' → interfaces.Perm interfaces' →
      assignments.Perm assignments' →
      (validateNetworkContracts text zones interfaces assignments t = some (.ok ()) ↔
        validateNetworkContracts text zones' interfaces' assignments' t = some (.ok ()))) ∧
    (validateNetworkContracts text zones interfaces assignments t = some (.ok ()) →
      (∀ id, ¬ Relation.TransGen (InterfaceLink interfaces) id id) ∧
      (∀ i ∈ interfaces, i.parentInterfaceID ≠ "" → ∃ parent ∈ interfaces,
        parent.id = i.parentInterfaceID ∧ parent.nodeID = i.nodeID ∧ parent.siteID = i.siteID ∧
          parent.scopeID = i.scopeID) ∧
      (interfaces.map (·.id)).Nodup ∧
      (interfaces.map fun i => (i.nodeID, asciiLower i.name)).Nodup ∧
      ((interfaces.filter fun i => decide (i.kind = .vlan)).map fun i =>
        (i.nodeID, i.parentInterfaceID, i.vlanID)).Nodup) := by
  refine ⟨validateNetworkContracts_ends, fun zones' interfaces' assignments' zonePerm
    interfacePerm assignmentPerm => ?_, fun accepted => ?_⟩
  · rw [validateNetworkContracts_ok_iff, validateNetworkContracts_ok_iff]
    exact ⟨fun valid => valid.perm zonePerm interfacePerm assignmentPerm,
      fun valid => valid.perm zonePerm.symm interfacePerm.symm assignmentPerm.symm⟩
  · have valid := validateNetworkContracts_ok_iff.mp accepted
    refine ⟨valid.acyclic, fun i listed named => valid.parent listed named, valid.distinct, ?_, ?_⟩
    · rw [List.Nodup, List.pairwise_map]
      refine valid.apart.imp fun {a b} both same => both.2 ?_
      rw [Prod.mk.injEq] at same
      rw [nameKey, nameKey, same.1, text.toLower_eq same.2]
    · rw [List.Nodup, List.pairwise_map]
      refine (valid.vlansApart.filter _).imp_of_mem fun {a b} here here' apart same => ?_
      simp only [List.mem_filter, decide_eq_true_eq] at here here'
      rw [Prod.mk.injEq, Prod.mk.injEq] at same
      refine apart (valid.boundVLAN here.1 here.2) (valid.boundVLAN here'.1 here'.2) ?_
      rw [vlanKey, vlanKey, same.1, same.2.1, same.2.2]

/-- A text library in which only ASCII letters have a case and no text is a prefix. -/
def plainText : NetworkText := ⟨fun c => c, fun _ => false⟩

/-- A worker at the site of the sample topology. -/
def sampleWorker : RoleAssignment :=
  { objectID := "worker", scopeID := "rack", ownerScope := "root", generation := 1,
    resourceVersion := "v1", createdAt := 1, updatedAt := 1, targetNodeID := "node-1",
    serviceIdentityID := "workers", role := .workerNode, siteID := "site-1",
    managementZoneID := "" }

def sampleNetworkZone : NetworkZone := ⟨"lan", "Lan", .lan, "rack", "site-1"⟩

/-- An interface of the worker. -/
def sampleInterface (id name : String) (kind : NetworkInterfaceKind) (mac parent : String)
    (vlan : Option UInt16) : NetworkInterface :=
  ⟨id, "node-1", name, kind, "rack", "site-1", "lan", mac, .up, [], 1500, 1000, parent, vlan⟩

def sampleInterfaces : List NetworkInterface :=
  [sampleInterface "vlan-7" "eth0.7" .vlan "" "eth" (some 7),
    sampleInterface "eth" "eth0" .physical "02:00:00:00:00:01" "" none]

theorem interface_forest_sample :
    validateNetworkContracts plainText [sampleNetworkZone] sampleInterfaces [sampleWorker]
      sampleTopology = some (.ok ()) ∧
    ∀ id, ¬ Relation.TransGen (InterfaceLink sampleInterfaces) id id :=
  have accepted : validateNetworkContracts plainText [sampleNetworkZone] sampleInterfaces
      [sampleWorker] sampleTopology = some (.ok ()) := by decide +kernel
  ⟨accepted, ((interface_forest plainText [sampleNetworkZone] sampleInterfaces [sampleWorker]
    sampleTopology).2.2 accepted).1⟩

end ControlCenter.CoreContracts
