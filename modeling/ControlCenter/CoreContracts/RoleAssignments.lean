import ControlCenter.CoreContracts.Roles
import ControlCenter.CoreContracts.Topology

/-!
# Role assignments

`internal/corecontracts/roles.go`: an assignment binds a role and a service identity to a
node. `ValidateRoleAssignment` checks one assignment against the topology, and
`ValidateRoleAssignments` a complete set.

The loop over a set compares each assignment with what its maps remember of those before it.
For a controller that is only the latest identity of the scope and the latest scope of the
identity. Since those before were compared in the same way, the loop refuses exactly the sets
in which two assignments clash (`passes_assignmentChecks`). So no two controllers of one scope
have different identities, whatever their roles and the order of the set
(`no_independent_masters`).
-/

set_option autoImplicit false

namespace ControlCenter.CoreContracts

open Library

structure RoleAssignment extends ObjectMetadata where
  targetNodeID : String
  serviceIdentityID : String
  role : NodeRole
  siteID : String
  managementZoneID : String
  deriving DecidableEq

/-- A message about an invalid assignment. -/
def roleAssignmentError (message : String) : String :=
  "invalid node role assignment: " ++ message

/-! ## One assignment -/

/-- The tests of the site an assignment names. -/
def assignmentSiteChecks (t : Topology) (a : RoleAssignment) : List (Bool × String) :=
  if a.siteID = "" then []
  else
    foundChecks (t.site a.siteID) ("unknown site " ++ quoted a.siteID) fun site =>
      [(!t.contains site.scopeID a.scopeID,
        "assignment scope " ++ quoted a.scopeID ++ " is outside site " ++ quoted a.siteID)]

/-- The scope of the site, or the empty text of the zero site. -/
def siteScopeID (t : Topology) (a : RoleAssignment) : String :=
  if a.siteID = "" then "" else ((t.site a.siteID).map (·.scopeID)).getD ""

/-- The tests that depend on the role. -/
def assignmentRoleChecks (t : Topology) (a : RoleAssignment) (scope : Scope) :
    List (Bool × String) :=
  match a.role with
  | .globalController =>
      [(decide (scope.kind ≠ .global), "global controller must be assigned to a global scope"),
        (a.siteID != "", "global controller cannot be restricted to a site")]
  | .siteController =>
      [(a.siteID == "", "site controller requires site_id"),
        (decide (scope.kind ≠ .site) || siteScopeID t a != a.scopeID,
          "site controller must be assigned directly to its site scope")]
  | .controllerClusterMember =>
      [(decide (scope.kind ≠ .global) && decide (scope.kind ≠ .site),
          "controller cluster member requires a global or site scope"),
        (decide (scope.kind = .global) && a.siteID != "",
          "global controller cluster member cannot be restricted to a site"),
        (decide (scope.kind = .site) && (a.siteID == "" || siteScopeID t a != a.scopeID),
          "site controller cluster member must reference its site")]
  | .edgeGateway => [(a.siteID == "", "edge gateway requires site_id")]
  | _ => []

/-- The tests of the zone an assignment names. -/
def assignmentZoneChecks (t : Topology) (a : RoleAssignment) : List (Bool × String) :=
  if a.managementZoneID = "" then []
  else
    foundChecks (t.managementZone a.managementZoneID)
      ("unknown management zone " ++ quoted a.managementZoneID) fun zone =>
      [(!t.contains zone.scopeID a.scopeID, "assignment scope " ++ quoted a.scopeID ++
          " is outside management zone " ++ quoted a.managementZoneID),
        (a.siteID != "" && zone.siteID != "" && zone.siteID != a.siteID,
          "site " ++ quoted a.siteID ++ " and management zone " ++ quoted a.managementZoneID ++
            " disagree")]

def roleAssignmentChecks (t : Topology) (a : RoleAssignment) : List (Bool × String) :=
  relabel roleAssignmentError
    (relabel ContractError.text a.toObjectMetadata.checks ++
      validateIdentifier "target_node_id" a.targetNodeID ++
      validateIdentifier "service_identity_id" a.serviceIdentityID ++
      [(!a.role.valid, "unsupported role " ++ quoted a.role.text)] ++
      foundChecks (t.scope a.scopeID) ("unknown assignment scope " ++ quoted a.scopeID) fun scope =>
        [(!t.contains a.ownerScope a.scopeID, "owner scope " ++ quoted a.ownerScope ++
            " is not an ancestor of assignment scope " ++ quoted a.scopeID),
          (a.ownerScope != t.rootID && !t.isDelegated a.ownerScope .desiredState,
            "owner scope " ++ quoted a.ownerScope ++ " has no desired-state delegation")] ++
        assignmentSiteChecks t a ++ assignmentRoleChecks t a scope ++ assignmentZoneChecks t a)

def validateRoleAssignment (a : RoleAssignment) (t : Topology) : Except String Unit :=
  firstFailure (roleAssignmentChecks t a)

/-! ## A set of assignments -/

/-- The node, role and service identity of an assignment, as one key. -/
def bindingKey (a : RoleAssignment) : String :=
  a.targetNodeID ++ "\x00" ++ a.role.text ++ "\x00" ++ a.serviceIdentityID

def RoleAssignment.isController (a : RoleAssignment) : Bool :=
  decide (a.role = .globalController ∨ a.role = .siteController ∨
    a.role = .controllerClusterMember)

/-- The comparison of an assignment with those done before it, the latest first. What a map of
the source holds for a key is the entry of the latest assignment that has it. -/
def clashChecks (done : List RoleAssignment) (a : RoleAssignment) : List (Bool × String) :=
  let binding := done.find? fun b => bindingKey b == bindingKey a
  let inScope := done.find? fun b => b.isController && b.scopeID == a.scopeID
  let identified := done.find? fun b =>
    b.isController && b.serviceIdentityID == a.serviceIdentityID
  [(done.any fun b => b.objectID == a.objectID,
      "duplicate assignment object " ++ quoted a.objectID),
    (binding.isSome, "assignments " ++ quoted (binding.elim "" (·.objectID)) ++ " and " ++
      quoted a.objectID ++ " duplicate a node/role/service binding")] ++
  if a.isController then
    [(inScope.any fun b => b.serviceIdentityID != a.serviceIdentityID,
        "scope " ++ quoted a.scopeID ++ " declares independent " ++ a.role.text ++
          " identities " ++ quoted (inScope.elim "" (·.serviceIdentityID)) ++ " and " ++
          quoted a.serviceIdentityID),
      (identified.any fun b => b.scopeID != a.scopeID,
        "controller service identity " ++ quoted a.serviceIdentityID ++ " is shared by scopes " ++
          quoted (identified.elim "" (·.scopeID)) ++ " and " ++ quoted a.scopeID)]
  else []

/-- The loop over a set, after assignments that are done. -/
def assignmentChecks (t : Topology) : (done : List RoleAssignment) → List RoleAssignment →
    List (Bool × String)
  | _, [] => []
  | done, a :: rest =>
      roleAssignmentChecks t a ++ relabel roleAssignmentError (clashChecks done a) ++
        assignmentChecks t (a :: done) rest

def validateRoleAssignments (assignments : List RoleAssignment) (t : Topology) :
    Except String Unit :=
  firstFailure (assignmentChecks t [] assignments)

/-! ## Clashes -/

/-- Two assignments do not clash. -/
structure Compatible (a b : RoleAssignment) : Prop where
  objectID : a.objectID ≠ b.objectID
  binding : bindingKey a ≠ bindingKey b
  controllers : a.isController = true → b.isController = true →
    (a.scopeID = b.scopeID ↔ a.serviceIdentityID = b.serviceIdentityID)

theorem Compatible.symm {a b : RoleAssignment} (compatible : Compatible a b) : Compatible b a :=
  ⟨compatible.objectID.symm, compatible.binding.symm, fun first second => by
    rw [eq_comm, compatible.controllers second first, eq_comm]⟩

/-- The latest assignment with a key stands for all of them, when these agree. -/
theorem find?_any_iff {done : List RoleAssignment} {selects : RoleAssignment → Bool}
    {differs : RoleAssignment → Bool}
    (agree : ∀ b ∈ done, ∀ c ∈ done, selects b = true → selects c = true →
      differs b = differs c) :
    (done.find? selects).any differs = false ↔
      ∀ b ∈ done, selects b = true → differs b = false := by
  cases found : done.find? selects with
  | none =>
      rw [List.find?_eq_none] at found
      exact iff_of_true rfl fun b listed chosen => absurd chosen (found b listed)
  | some latest =>
      have listed := List.mem_of_find?_eq_some found
      have chosen := List.find?_some found
      rw [Option.any_some]
      exact ⟨fun same b here selected => (agree b here latest listed selected chosen).trans same,
        fun all => all latest listed chosen⟩

/-- Controllers that do not clash agree on scope and identity. -/
theorem controllers_agree {done : List RoleAssignment} (apart : done.Pairwise Compatible)
    {b c : RoleAssignment} (here : b ∈ done) (here' : c ∈ done) (first : b.isController = true)
    (second : c.isController = true) :
    b.scopeID = c.scopeID ↔ b.serviceIdentityID = c.serviceIdentityID := by
  have : Std.Symm Compatible := ⟨fun _ _ => Compatible.symm⟩
  by_cases same : b = c
  · subst same
    exact iff_of_true rfl rfl
  · exact (apart.forall here here' same).controllers first second

/-- **One round refuses exactly the clashes,** when those done before do not clash. -/
theorem passes_clashChecks {done : List RoleAssignment} (apart : done.Pairwise Compatible)
    {a : RoleAssignment} :
    Passes (clashChecks done a) ↔ ∀ b ∈ done, Compatible b a := by
  have objects : (done.any fun b => b.objectID == a.objectID) = false ↔
      ∀ b ∈ done, b.objectID ≠ a.objectID := by simp
  have bindings : (done.find? fun b => bindingKey b == bindingKey a).isSome = false ↔
      ∀ b ∈ done, bindingKey b ≠ bindingKey a := by simp
  -- what the latest controller says of the scope or of the identity, all of them say
  have inScope : ((done.find? fun b => b.isController && b.scopeID == a.scopeID).any
      fun b => b.serviceIdentityID != a.serviceIdentityID) = false ↔
      ∀ b ∈ done, b.isController = true → b.scopeID = a.scopeID →
        b.serviceIdentityID = a.serviceIdentityID := by
    rw [find?_any_iff]
    · simp
    · intro b here c here' chosen chosen'
      simp only [Bool.and_eq_true, beq_iff_eq] at chosen chosen'
      rw [(controllers_agree apart here here' chosen.1 chosen'.1).mp
        (chosen.2.trans chosen'.2.symm)]
  have identified : ((done.find? fun b => b.isController &&
        b.serviceIdentityID == a.serviceIdentityID).any fun b => b.scopeID != a.scopeID) = false ↔
      ∀ b ∈ done, b.isController = true → b.serviceIdentityID = a.serviceIdentityID →
        b.scopeID = a.scopeID := by
    rw [find?_any_iff]
    · simp
    · intro b here c here' chosen chosen'
      simp only [Bool.and_eq_true, beq_iff_eq] at chosen chosen'
      rw [(controllers_agree apart here here' chosen.1 chosen'.1).mpr
        (chosen.2.trans chosen'.2.symm)]
  unfold clashChecks
  dsimp only
  by_cases controller : a.isController = true
  · simp only [controller, if_true, passes_append, passes_cons, passes_nil, and_true, objects,
      bindings, inScope, identified]
    constructor
    · rintro ⟨⟨objectIDs, keys⟩, scopes, identities⟩ b here
      exact ⟨objectIDs b here, keys b here, fun first _ =>
        ⟨scopes b here first, identities b here first⟩⟩
    · intro all
      exact ⟨⟨fun b here => (all b here).objectID, fun b here => (all b here).binding⟩,
        fun b here first => ((all b here).controllers first controller).mp,
        fun b here first => ((all b here).controllers first controller).mpr⟩
  · rw [if_neg controller]
    simp only [passes_append, passes_cons, passes_nil, and_true, objects, bindings]
    constructor
    · rintro ⟨objectIDs, keys⟩ b here
      exact ⟨objectIDs b here, keys b here, fun _ second => absurd second controller⟩
    · intro all
      exact ⟨fun b here => (all b here).objectID, fun b here => (all b here).binding⟩

/-- An assignment that is valid by itself. -/
def RoleAssignment.Valid (a : RoleAssignment) (t : Topology) : Prop :=
  Passes (roleAssignmentChecks t a)

/-- **The loop passes when each assignment is valid and no two clash.** -/
theorem passes_assignmentChecks {t : Topology} {done rest : List RoleAssignment}
    (apart : done.Pairwise Compatible) :
    Passes (assignmentChecks t done rest) ↔ (∀ a ∈ rest, a.Valid t) ∧ rest.Pairwise Compatible ∧
      ∀ a ∈ rest, ∀ b ∈ done, Compatible b a := by
  induction rest generalizing done with
  | nil => simp [assignmentChecks]
  | cons a rest ih =>
      rw [assignmentChecks, passes_append, passes_append, passes_relabel, passes_clashChecks apart]
      simp only [List.forall_mem_cons, List.pairwise_cons]
      constructor
      · rintro ⟨⟨valid, free⟩, later⟩
        have grown : (a :: done).Pairwise Compatible :=
          List.pairwise_cons.mpr ⟨fun b here => (free b here).symm, apart⟩
        obtain ⟨valids, others, clear⟩ := (ih grown).mp later
        exact ⟨⟨valid, valids⟩, ⟨fun b here => clear b here a List.mem_cons_self, others⟩, free,
          fun b here c done => clear b here c (List.mem_cons_of_mem _ done)⟩
      · rintro ⟨⟨valid, valids⟩, ⟨first, others⟩, free, clear⟩
        have grown : (a :: done).Pairwise Compatible :=
          List.pairwise_cons.mpr ⟨fun b here => (free b here).symm, apart⟩
        refine ⟨⟨valid, free⟩, (ih grown).mpr ⟨valids, others, fun b here c done => ?_⟩⟩
        rcases List.mem_cons.mp done with rfl | earlier
        · exact first b here
        · exact clear b here c earlier

/-! ## Keys of bindings -/

theorem IsIdentifier.noZero {value : String} (identifier : IsIdentifier value) :
    '\x00' ∉ value.toList := by
  intro inside
  simp only [IsIdentifier, validateIdentifier, passes_cons, Bool.not_eq_false'] at identifier
  have matched : identifierPattern value = true := identifier.2.2.1
  rcases boundedPattern_chars matched _ inside with letter | inner
  · exact absurd letter (by decide)
  · exact absurd inner (by decide)

/-- The roles of the contract. -/
def NodeRole.known : List NodeRole :=
  [.managementNode, .globalController, .siteController, .controllerClusterMember, .workerNode,
    .managedNode, .agent, .dataNode, .consensusNode, .repositoryNode, .telemetryNode,
    .backupRepositoryNode, .edgeGateway]

theorem NodeRole.mem_known {role : NodeRole} (valid : role.valid = true) : role ∈ known := by
  cases role with
  | other text => cases valid
  | _ => decide

theorem NodeRole.text_inj {role role' : NodeRole} (valid : role.valid = true)
    (valid' : role'.valid = true) (same : role.text = role'.text) : role = role' := by
  have distinct : ∀ role ∈ known, ∀ role' ∈ known, role.text = role'.text → role = role' := by
    decide
  exact distinct role (mem_known valid) role' (mem_known valid') same

theorem NodeRole.text_noZero {role : NodeRole} (valid : role.valid = true) :
    '\x00' ∉ role.text.toList := by
  have printable : ∀ role ∈ known, '\x00' ∉ role.text.toList := by decide
  exact printable role (mem_known valid)

namespace RoleAssignment.Valid

variable {a b : RoleAssignment} {t : Topology}

theorem fields (valid : a.Valid t) :
    IsIdentifier a.targetNodeID ∧ IsIdentifier a.serviceIdentityID ∧ a.role.valid = true := by
  simp only [Valid, roleAssignmentChecks, passes_relabel, passes_append, passes_cons,
    passes_validateIdentifier, Bool.not_eq_false'] at valid
  exact ⟨valid.1.1.1.2, valid.1.1.2, valid.1.2.1⟩

/-- The key of a binding determines its parts. -/
theorem bindingKey_inj (valid : a.Valid t) (valid' : b.Valid t) : bindingKey a = bindingKey b ↔
    (a.targetNodeID, a.role, a.serviceIdentityID) =
      (b.targetNodeID, b.role, b.serviceIdentityID) := by
  obtain ⟨node, service, role⟩ := valid.fields
  obtain ⟨node', service', role'⟩ := valid'.fields
  simp only [Prod.mk.injEq]
  constructor
  · intro same
    have texts := congrArg String.toList same
    simp only [bindingKey, String.toList_append] at texts
    obtain ⟨front, services⟩ := append_separator_inj service.noZero service'.noZero texts
    obtain ⟨nodes, roles⟩ := append_separator_inj (NodeRole.text_noZero role)
      (NodeRole.text_noZero role') front
    exact ⟨String.toList_injective nodes, NodeRole.text_inj role role'
      (String.toList_injective roles), String.toList_injective services⟩
  · rintro ⟨nodes, roles, services⟩
    rw [bindingKey, bindingKey, nodes, roles, services]

end RoleAssignment.Valid

/-! ## No independent masters -/

/-- What the set of assignments must satisfy as a whole. -/
structure RolesApart (assignments : List RoleAssignment) : Prop where
  objectIDs : (assignments.map (·.objectID)).Nodup
  bindings : (assignments.map fun a => (a.targetNodeID, a.role, a.serviceIdentityID)).Nodup
  controllers : ∀ a ∈ assignments, ∀ b ∈ assignments, a.isController = true →
    b.isController = true → (a.scopeID = b.scopeID ↔ a.serviceIdentityID = b.serviceIdentityID)

theorem rolesApart_iff {t : Topology} {assignments : List RoleAssignment}
    (valid : ∀ a ∈ assignments, a.Valid t) :
    assignments.Pairwise Compatible ↔ RolesApart assignments := by
  constructor
  · intro apart
    refine ⟨?_, ?_, fun a here b here' => controllers_agree apart here here'⟩
    · rw [List.Nodup, List.pairwise_map]
      exact apart.imp fun compatible => compatible.objectID
    · rw [List.Nodup, List.pairwise_map]
      refine apart.imp_of_mem fun {a b} here here' compatible same => compatible.binding ?_
      exact ((valid a here).bindingKey_inj (valid b here')).mpr same
  · rintro ⟨objectIDs, bindings, controllers⟩
    rw [List.Nodup, List.pairwise_map] at objectIDs bindings
    refine (objectIDs.and bindings).imp_of_mem fun {a b} here here' both => ?_
    exact ⟨both.1, fun same => both.2 (((valid a here).bindingKey_inj (valid b here')).mp same),
      controllers a here b here'⟩

/-- **A set is accepted exactly when each assignment is valid and the set has no duplicates and
no independent masters.** -/
theorem validateRoleAssignments_ok_iff {t : Topology} {assignments : List RoleAssignment} :
    validateRoleAssignments assignments t = .ok () ↔
      (∀ a ∈ assignments, validateRoleAssignment a t = .ok ()) ∧ RolesApart assignments := by
  rw [validateRoleAssignments, firstFailure_passes, passes_assignmentChecks List.Pairwise.nil]
  simp only [validateRoleAssignment, firstFailure_passes, List.not_mem_nil, false_implies,
    implies_true, and_true]
  exact and_congr_right rolesApart_iff

theorem RolesApart.perm {assignments assignments' : List RoleAssignment}
    (perm : assignments.Perm assignments') (apart : RolesApart assignments) :
    RolesApart assignments' :=
  ⟨(perm.map _).nodup_iff.mp apart.objectIDs, (perm.map _).nodup_iff.mp apart.bindings,
    fun a here b here' => apart.controllers a (perm.mem_iff.mpr here) b (perm.mem_iff.mpr here')⟩

/-- **No independent masters.** A set of assignments is accepted exactly when every assignment
is valid, object ids are distinct, no two assignments share node, role and service identity,
and among the controllers each scope has one identity and each identity one scope. The order of
the set does not matter. -/
theorem no_independent_masters (assignments : List RoleAssignment) (t : Topology) :
    (validateRoleAssignments assignments t = .ok () ↔
      (∀ a ∈ assignments, validateRoleAssignment a t = .ok ()) ∧
      (assignments.map (·.objectID)).Nodup ∧
      (assignments.map fun a => (a.targetNodeID, a.role, a.serviceIdentityID)).Nodup ∧
      ∀ a ∈ assignments, ∀ b ∈ assignments, a.isController = true → b.isController = true →
        (a.scopeID = b.scopeID ↔ a.serviceIdentityID = b.serviceIdentityID)) ∧
    ∀ assignments', assignments.Perm assignments' →
      (validateRoleAssignments assignments t = .ok () ↔
        validateRoleAssignments assignments' t = .ok ()) := by
  constructor
  · rw [validateRoleAssignments_ok_iff]
    exact and_congr_right fun _ =>
      ⟨fun apart => ⟨apart.objectIDs, apart.bindings, apart.controllers⟩,
        fun parts => ⟨parts.1, parts.2.1, parts.2.2⟩⟩
  · intro assignments' perm
    rw [validateRoleAssignments_ok_iff, validateRoleAssignments_ok_iff]
    refine and_congr (forall_congr' fun a => ?_) ⟨fun apart => apart.perm perm,
      fun apart => apart.perm perm.symm⟩
    rw [perm.mem_iff]

/-- A member of the global controller cluster on a node. -/
def sampleMember (objectID node : String) : RoleAssignment :=
  { objectID, scopeID := "root", ownerScope := "root", generation := 1, resourceVersion := "v1",
    createdAt := 1, updatedAt := 1, targetNodeID := node, serviceIdentityID := "control-plane",
    role := .controllerClusterMember, siteID := "", managementZoneID := "" }

theorem no_independent_masters_sample :
    validateRoleAssignments [sampleMember "a" "node-1", sampleMember "b" "node-2"]
      sampleTopology = .ok () ∧
    validateRoleAssignments [sampleMember "b" "node-2", sampleMember "a" "node-1"]
      sampleTopology = .ok () :=
  have accepted : validateRoleAssignments [sampleMember "a" "node-1", sampleMember "b" "node-2"]
      sampleTopology = .ok () := by decide +kernel
  ⟨accepted, ((no_independent_masters _ sampleTopology).2 _ (.swap _ _ [])).mp accepted⟩

end ControlCenter.CoreContracts
