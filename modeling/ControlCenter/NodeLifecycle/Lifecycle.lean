import ControlCenter.CoreContracts.Metadata

/-!
# The lifecycle of a node

`internal/nodelifecycle/lifecycle.go`: the lifecycle object of one node, the table of allowed
transitions with the evidence each of them requires, and the validators of an initial object
and of a transition. A storage adapter calls them before it writes; nothing here changes state.

A transition is accepted exactly when it is `Accepted` (`validateTransition_ok`): the table
has a rule for the two states, the request is of the rule's type and passed the checks the
rule requires, and the next object is the successor of the current one.
-/

set_option autoImplicit false

namespace ControlCenter.Lifecycle

open Library CoreContracts

def maxReasonLength : Nat := 512

/-! ## States, transition types and checks -/

/-- The state of a node. `other` stands for a text that is none of the contract's states. -/
inductive State where
  | discovered
  | enrolling
  | ready
  | degraded
  | draining
  | maintenance
  | updating
  | replacing
  | removing
  | offline
  | recovering
  | retired
  | other (text : String)
  deriving DecidableEq

def State.text : State → String
  | .discovered => "discovered"
  | .enrolling => "enrolling"
  | .ready => "ready"
  | .degraded => "degraded"
  | .draining => "draining"
  | .maintenance => "maintenance"
  | .updating => "updating"
  | .replacing => "replacing"
  | .removing => "removing"
  | .offline => "offline"
  | .recovering => "recovering"
  | .retired => "retired"
  | .other text => text

def State.valid : State → Bool
  | .other _ => false
  | _ => true

/-- Operator intent, or a report of progress or health. -/
inductive TransitionType where
  | desired
  | observation
  | other (text : String)
  deriving DecidableEq

def TransitionType.text : TransitionType → String
  | .desired => "desired"
  | .observation => "observation"
  | .other text => text

def TransitionType.valid : TransitionType → Bool
  | .other _ => false
  | _ => true

/-- An attestation that an edge may require. -/
inductive EvidenceCheck where
  | enrollmentAuthorized
  | identityVerified
  | readinessPassed
  | maintenancePreflightPassed
  | schedulingDisabled
  | schedulingEnabled
  | drainComplete
  | noActiveJobs
  | noActivePlacements
  | statefulWorkloadsSafe
  | operationApproved
  | operationCancelled
  | rollbackVerified
  | updateVerified
  | replacementNodeReady
  | stateSynchronized
  | switchoverVerified
  | replacementHealthVerified
  | removalApproved
  | removalVerified
  | recoveryStarted
  | recoveryVerified
  | retirementApproved
  | noManagedState
  | other (text : String)
  deriving DecidableEq

def EvidenceCheck.text : EvidenceCheck → String
  | .enrollmentAuthorized => "enrollment-authorized"
  | .identityVerified => "identity-verified"
  | .readinessPassed => "readiness-passed"
  | .maintenancePreflightPassed => "maintenance-preflight-passed"
  | .schedulingDisabled => "scheduling-disabled"
  | .schedulingEnabled => "scheduling-enabled"
  | .drainComplete => "drain-complete"
  | .noActiveJobs => "no-active-jobs"
  | .noActivePlacements => "no-active-placements"
  | .statefulWorkloadsSafe => "stateful-workloads-safe"
  | .operationApproved => "operation-approved"
  | .operationCancelled => "operation-cancelled"
  | .rollbackVerified => "rollback-verified"
  | .updateVerified => "update-verified"
  | .replacementNodeReady => "replacement-node-ready"
  | .stateSynchronized => "state-synchronized"
  | .switchoverVerified => "switchover-verified"
  | .replacementHealthVerified => "replacement-health-verified"
  | .removalApproved => "removal-approved"
  | .removalVerified => "removal-verified"
  | .recoveryStarted => "recovery-started"
  | .recoveryVerified => "recovery-verified"
  | .retirementApproved => "retirement-approved"
  | .noManagedState => "no-managed-state"
  | .other text => text

def EvidenceCheck.valid : EvidenceCheck → Bool
  | .other _ => false
  | _ => true

structure TransitionEvidence where
  passedChecks : List EvidenceCheck
  deriving DecidableEq

structure NodeLifecycle extends ObjectMetadata where
  state : State
  stateChangedAt : Time
  reason : String
  deriving DecidableEq

/-- The request for a transition. Its target is the source's `To`. -/
structure TransitionRequest where
  target : State
  typeOf : TransitionType
  reason : String
  precondition : ObjectPrecondition
  evidence : TransitionEvidence
  deriving DecidableEq

/-- The errors of the package. -/
inductive LifecycleError where
  | invalidLifecycle (text : String)
  | invalidEvidence (text : String)
  | contract (e : ContractError)
  | within (label : String) (e : LifecycleError)
  deriving DecidableEq

/-! ## The table of transitions -/

structure TransitionRule where
  typeOf : TransitionType
  requiredChecks : List EvidenceCheck
  deriving DecidableEq

def drainChecks : List EvidenceCheck :=
  [.maintenancePreflightPassed, .schedulingDisabled, .drainComplete, .noActiveJobs,
    .noActivePlacements, .statefulWorkloadsSafe]

def transitionRules : State → List (State × TransitionRule)
  | .discovered =>
      [(.enrolling, ⟨.desired, [.enrollmentAuthorized]⟩),
        (.retired, ⟨.desired, [.retirementApproved, .noManagedState]⟩)]
  | .enrolling =>
      [(.ready, ⟨.observation, [.identityVerified, .readinessPassed]⟩),
        (.degraded, ⟨.observation, []⟩),
        (.offline, ⟨.observation, []⟩),
        (.retired, ⟨.desired, [.retirementApproved, .noManagedState]⟩)]
  | .ready =>
      [(.degraded, ⟨.observation, []⟩),
        (.draining, ⟨.desired, [.maintenancePreflightPassed, .schedulingDisabled]⟩),
        (.offline, ⟨.observation, []⟩)]
  | .degraded =>
      [(.ready, ⟨.observation, [.readinessPassed]⟩),
        (.draining, ⟨.desired, [.maintenancePreflightPassed, .schedulingDisabled]⟩),
        (.offline, ⟨.observation, []⟩),
        (.recovering, ⟨.observation, [.recoveryStarted]⟩)]
  | .draining =>
      [(.maintenance, ⟨.observation, drainChecks⟩),
        (.ready, ⟨.desired, [.operationCancelled, .schedulingEnabled, .readinessPassed]⟩),
        (.degraded, ⟨.observation, []⟩),
        (.offline, ⟨.observation, []⟩)]
  | .maintenance =>
      [(.ready, ⟨.desired, [.schedulingEnabled, .readinessPassed]⟩),
        (.updating, ⟨.desired, [.operationApproved, .maintenancePreflightPassed]⟩),
        (.replacing, ⟨.desired, [.operationApproved, .replacementNodeReady, .stateSynchronized]⟩),
        (.removing, ⟨.desired, [.operationApproved, .removalApproved] ++ drainChecks⟩),
        (.degraded, ⟨.observation, []⟩),
        (.offline, ⟨.observation, []⟩)]
  | .updating =>
      [(.ready, ⟨.observation, [.updateVerified, .schedulingEnabled, .readinessPassed]⟩),
        (.maintenance, ⟨.observation, [.updateVerified]⟩),
        (.degraded, ⟨.observation, []⟩),
        (.offline, ⟨.observation, []⟩)]
  | .replacing =>
      [(.retired, ⟨.observation, [.replacementNodeReady, .stateSynchronized, .switchoverVerified,
          .replacementHealthVerified]⟩),
        (.maintenance, ⟨.desired, [.operationCancelled, .rollbackVerified]⟩),
        (.degraded, ⟨.observation, []⟩),
        (.offline, ⟨.observation, []⟩)]
  | .removing =>
      [(.retired, ⟨.observation, [.removalVerified, .retirementApproved]⟩),
        (.maintenance, ⟨.desired, [.operationCancelled, .rollbackVerified]⟩),
        (.degraded, ⟨.observation, []⟩),
        (.offline, ⟨.observation, []⟩)]
  | .offline =>
      [(.recovering, ⟨.observation, [.identityVerified, .recoveryStarted]⟩),
        (.retired, ⟨.desired, [.retirementApproved, .noManagedState, .statefulWorkloadsSafe]⟩)]
  | .recovering =>
      [(.ready, ⟨.observation, [.recoveryVerified, .readinessPassed]⟩),
        (.degraded, ⟨.observation, []⟩),
        (.offline, ⟨.observation, []⟩),
        (.draining, ⟨.desired, [.maintenancePreflightPassed, .schedulingDisabled]⟩)]
  | .retired => []
  | .other _ => []

def transitionRuleFor (source target : State) : Option TransitionRule :=
  (transitionRules source).lookup target

/-! ## Stored objects -/

/-- The states whose object tells why the node is in it. -/
def State.reasonRequired : State → Bool
  | .degraded | .offline | .recovering | .retired => true
  | _ => false

def validateReason (state : State) (reason : String) : List (Bool × LifecycleError) :=
  relabel .invalidLifecycle
    [(trimSpace reason != reason, "reason must not have surrounding whitespace"),
      (decide (maxReasonLength < reason.length), "reason exceeds 512 characters"),
      (reason.toList.any isControl, "reason contains control characters"),
      (state.reasonRequired && reason == "",
        "state " ++ quoted state.text ++ " requires a reason"),
      (!state.reasonRequired && reason != "",
        "state " ++ quoted state.text ++ " must clear the incident reason")]

/-- The reason passes its tests. -/
def IsReason (state : State) (reason : String) : Prop := Passes (validateReason state reason)

def NodeLifecycle.validate (n : NodeLifecycle) : Except LifecycleError Unit :=
  firstFailure
    (relabel (fun e => .invalidLifecycle (ContractError.text e)) n.toObjectMetadata.checks ++
      relabel .invalidLifecycle
        [(!n.state.valid, "unsupported state " ++ quoted n.state.text),
          (Time.isZero n.stateChangedAt, "state_changed_at is required"),
          (decide (n.stateChangedAt < n.createdAt), "state_changed_at precedes created_at"),
          (decide (n.updatedAt < n.stateChangedAt), "state_changed_at follows updated_at")] ++
      validateReason n.state n.reason)

/-- A well-formed lifecycle object. -/
structure NodeLifecycle.Valid (n : NodeLifecycle) : Prop where
  metadata : n.toObjectMetadata.Valid
  state : n.state.valid = true
  set : n.stateChangedAt ≠ 0
  created : n.createdAt ≤ n.stateChangedAt
  updated : n.stateChangedAt ≤ n.updatedAt
  reason : IsReason n.state n.reason

theorem NodeLifecycle.validate_ok {n : NodeLifecycle} : n.validate = .ok () ↔ n.Valid := by
  simp only [validate, firstFailure_passes, passes_append, passes_relabel, passes_cons,
    passes_nil, and_true, ObjectMetadata.passes_checks, Bool.not_eq_false', Time.isZero,
    beq_eq_false_iff_ne, decide_eq_false_iff_not, not_lt]
  constructor
  · rintro ⟨⟨metadata, state, set, created, updated⟩, reason⟩
    exact ⟨metadata, state, set, created, updated, reason⟩
  · rintro ⟨metadata, state, set, created, updated, reason⟩
    exact ⟨⟨metadata, state, set, created, updated⟩, reason⟩

def validateInitial (n : NodeLifecycle) : Except LifecycleError Unit := do
  n.validate
  firstFailure (relabel .invalidLifecycle
    [(n.state != .discovered, "initial state must be " ++ quoted State.discovered.text),
      (n.generation != 1, "initial generation must be 1"),
      (n.createdAt != n.updatedAt || n.stateChangedAt != n.createdAt,
        "initial timestamps must be equal")])

/-- **An initial object** is a new one of a node just discovered. -/
theorem validateInitial_ok {n : NodeLifecycle} : validateInitial n = .ok () ↔
    n.Valid ∧ n.state = .discovered ∧ n.generation = 1 ∧ n.createdAt = n.updatedAt ∧
      n.stateChangedAt = n.createdAt := by
  simp only [validateInitial, except_check_ok, NodeLifecycle.validate_ok, firstFailure_passes,
    passes_relabel, passes_cons, passes_nil, and_true, bne_eq_false_iff_eq, Bool.or_eq_false_iff]

/-! ## Evidence -/

/-- The loop over the passed checks, with those seen. -/
def evidenceChecks : (seen : List EvidenceCheck) → List EvidenceCheck → List (Bool × LifecycleError)
  | _, [] => []
  | seen, check :: rest =>
      [(!check.valid, .invalidEvidence ("unsupported check " ++ quoted check.text)),
        (seen.contains check, .invalidEvidence ("duplicate check " ++ quoted check.text))] ++
        evidenceChecks (check :: seen) rest

def TransitionEvidence.validate (e : TransitionEvidence) (required : List EvidenceCheck) :
    Except LifecycleError Unit :=
  firstFailure (evidenceChecks [] e.passedChecks ++ required.map fun check =>
    (!e.passedChecks.contains check,
      .invalidEvidence ("required check " ++ quoted check.text ++ " did not pass")))

theorem passes_evidenceChecks {seen checks : List EvidenceCheck} :
    Passes (evidenceChecks seen checks) ↔ (∀ check ∈ checks, check.valid = true) ∧ checks.Nodup ∧
      ∀ check ∈ checks, check ∉ seen := by
  have walk : Passes (evidenceChecks seen checks) ↔ (∀ check ∈ checks, check.valid = true) ∧
      (checks.map id).Nodup ∧ ∀ check ∈ checks, id check ∉ seen := by
    refine @passes_unseen _ _ _ _ _ (fun _ => evidenceChecks) (fun _ _ => rfl) ?_ 0 _ _
    intro index seen check rest
    simp only [evidenceChecks, passes_append, passes_cons, passes_nil, and_true,
      Bool.not_eq_false', List.contains_eq_mem, decide_eq_false_iff_not, id]
  simpa only [List.map_id, id] using walk

/-- **Evidence is accepted** when its checks are known, differ and include the required ones. -/
theorem TransitionEvidence.validate_ok {e : TransitionEvidence} {required : List EvidenceCheck} :
    e.validate required = .ok () ↔ (∀ check ∈ e.passedChecks, check.valid = true) ∧
      e.passedChecks.Nodup ∧ required ⊆ e.passedChecks := by
  simp only [validate, firstFailure_passes, passes_append, passes_evidenceChecks, passes_map,
    Bool.not_eq_false', List.contains_eq_mem, decide_eq_true_eq]
  simp [and_assoc, List.subset_def]

/-! ## Transitions -/

def validateTransition (current next : NodeLifecycle) (request : TransitionRequest) :
    Except LifecycleError Unit := do
  current.validate.mapError (.within "current")
  next.validate.mapError (.within "next")
  firstFailure (relabel (fun text => .contract (.invalidTransition text))
    [(!request.target.valid, "unsupported target state " ++ quoted request.target.text),
      (!request.typeOf.valid, "unsupported transition type " ++ quoted request.typeOf.text),
      (request.target != next.state,
        "request target " ++ quoted request.target.text ++ " differs from next state " ++
          quoted next.state.text),
      (request.reason != next.reason, "request reason differs from the stored successor")])
  (request.precondition.validateAgainst current.toObjectMetadata).mapError fun e =>
    .within "node lifecycle precondition" (.contract e)
  match transitionRuleFor current.state next.state with
  | none =>
      .error (.contract (.invalidTransition
        ("node lifecycle " ++ current.state.text ++ " -> " ++ next.state.text)))
  | some rule =>
      firstFailure (relabel (fun text => .contract (.invalidTransition text))
        [(request.typeOf != rule.typeOf,
            current.state.text ++ " -> " ++ next.state.text ++ " requires transition type " ++
              quoted rule.typeOf.text),
          (current.scopeID != next.scopeID || current.ownerScope != next.ownerScope,
            "lifecycle transition cannot change scope ownership"),
          (next.stateChangedAt != next.updatedAt,
            "successor state_changed_at must equal updated_at"),
          (decide (next.stateChangedAt ≤ current.stateChangedAt),
            "successor state_changed_at must advance")])
      request.evidence.validate rule.requiredChecks
      (validateSuccessor current.toObjectMetadata next.toObjectMetadata
        (request.typeOf == .desired)).mapError .contract

/-- What an accepted transition is. -/
structure Accepted (current next : NodeLifecycle) (request : TransitionRequest)
    (rule : TransitionRule) : Prop where
  validCurrent : current.Valid
  validNext : next.Valid
  target : request.target = next.state
  reason : request.reason = next.reason
  precondition : request.precondition.validateAgainst current.toObjectMetadata = .ok ()
  allowed : transitionRuleFor current.state next.state = some rule
  typed : request.typeOf = rule.typeOf
  known : request.typeOf.valid = true
  scopeID : next.scopeID = current.scopeID
  ownerScope : next.ownerScope = current.ownerScope
  changed : next.stateChangedAt = next.updatedAt
  advanced : current.stateChangedAt < next.stateChangedAt
  evidence : request.evidence.validate rule.requiredChecks = .ok ()
  successor : IsSuccessor current.toObjectMetadata next.toObjectMetadata
    (request.typeOf == .desired)

/-- **A transition is accepted by a rule of the table.** -/
theorem validateTransition_ok {current next : NodeLifecycle} {request : TransitionRequest} :
    validateTransition current next request = .ok () ↔
      ∃ rule, Accepted current next request rule := by
  simp only [validateTransition, except_check_ok, mapError_ok, NodeLifecycle.validate_ok,
    firstFailure_passes, passes_relabel, passes_cons, passes_nil, and_true, Bool.not_eq_false',
    bne_eq_false_iff_eq]
  constructor
  · rintro ⟨valid, valid', ⟨_, known, target, reason⟩, precondition, ruled⟩
    split at ruled
    · cases ruled
    next rule allowed =>
      simp only [except_check_ok, mapError_ok, firstFailure_passes, passes_relabel, passes_cons,
        passes_nil, and_true, bne_eq_false_iff_eq, Bool.or_eq_false_iff, decide_eq_false_iff_not,
        not_le, validateSuccessor_ok] at ruled
      obtain ⟨⟨typed, ⟨scope, owner⟩, changed, advanced⟩, evidence, successor⟩ := ruled
      exact ⟨rule, valid, valid', target, reason, precondition, allowed, typed, known, scope.symm,
        owner.symm, changed, advanced, evidence, successor⟩
  · rintro ⟨rule, accepted⟩
    refine ⟨accepted.validCurrent, accepted.validNext, ⟨?_, accepted.known, accepted.target,
      accepted.reason⟩, accepted.precondition, ?_⟩
    · rw [accepted.target]
      exact accepted.validNext.state
    · simp only [accepted.allowed, except_check_ok, mapError_ok, firstFailure_passes,
        passes_relabel, passes_cons, passes_nil, and_true, bne_eq_false_iff_eq,
        Bool.or_eq_false_iff, decide_eq_false_iff_not, not_le, validateSuccessor_ok]
      exact ⟨⟨accepted.typed, ⟨accepted.scopeID.symm, accepted.ownerScope.symm⟩,
        accepted.changed, accepted.advanced⟩, accepted.evidence, accepted.successor⟩

/-- The checks of the rule passed. -/
theorem Accepted.passed {current next : NodeLifecycle} {request : TransitionRequest}
    {rule : TransitionRule} (accepted : Accepted current next request rule) :
    rule.requiredChecks ⊆ request.evidence.passedChecks :=
  (TransitionEvidence.validate_ok.mp accepted.evidence).2.2

/-! ## Edges of the table -/

/-- A drained node is in maintenance or in an operation that starts there. -/
def State.drained : State → Bool
  | .maintenance | .updating | .replacing | .removing => true
  | _ => false

/-- The checks with which a node returns to maintenance from an operation. -/
theorem rule_maintenance {source : State} {rule : TransitionRule}
    (allowed : transitionRuleFor source .maintenance = some rule) :
    (source = .draining ∧ rule.requiredChecks = drainChecks) ∨
      (source = .updating ∧ .updateVerified ∈ rule.requiredChecks) ∨
      ((source = .replacing ∨ source = .removing) ∧ .rollbackVerified ∈ rule.requiredChecks) := by
  cases source <;> cases allowed <;> simp

/-- An operation starts in maintenance. -/
theorem rule_operation {source target : State} {rule : TransitionRule}
    (allowed : transitionRuleFor source target = some rule)
    (operation : target = .updating ∨ target = .replacing ∨ target = .removing) :
    source = .maintenance := by
  rcases operation with rfl | rfl | rfl <;> cases source <;> cases allowed <;> rfl

/-- A node drained after the step was drained before it, or the step carried the proof. -/
theorem rule_drained {source target : State} {rule : TransitionRule}
    (allowed : transitionRuleFor source target = some rule) (after : target.drained = true) :
    source.drained = true ∨
      source = .draining ∧ target = .maintenance ∧ rule.requiredChecks = drainChecks := by
  by_cases maintained : target = .maintenance
  · subst maintained
    rcases rule_maintenance allowed with ⟨from_, drain⟩ | ⟨rfl, _⟩ | ⟨rfl | rfl, _⟩
    · exact .inr ⟨from_, rfl, drain⟩
    · exact .inl rfl
    · exact .inl rfl
    · exact .inl rfl
  · have operation : target = .updating ∨ target = .replacing ∨ target = .removing := by
      cases target <;> simp_all [State.drained]
    rw [rule_operation allowed operation]
    exact .inl rfl

/-- The ways a node retires. -/
theorem rule_retired {source : State} {rule : TransitionRule}
    (allowed : transitionRuleFor source .retired = some rule) :
    ((source = .discovered ∨ source = .enrolling ∨ source = .offline) ∧
        .noManagedState ∈ rule.requiredChecks ∧ .retirementApproved ∈ rule.requiredChecks) ∨
      (source = .replacing ∧ .switchoverVerified ∈ rule.requiredChecks ∧
        .replacementHealthVerified ∈ rule.requiredChecks) ∨
      (source = .removing ∧ .removalVerified ∈ rule.requiredChecks) := by
  cases source <;> cases allowed <;> simp

/-- Nothing follows retirement. -/
theorem rule_after_retired {target : State} : transitionRuleFor .retired target = none := rfl

end ControlCenter.Lifecycle
