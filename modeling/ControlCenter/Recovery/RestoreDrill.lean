import Mathlib.Data.List.Chain
import ControlCenter.Library.Table
import ControlCenter.Recovery.DrillFreshness

/-!
# Restore drills as a machine

`internal/recovery/restore_drill.go`: the transitions of an isolated drill and the part of the
adapter registry they ask. A transition builds the successor of a record field by field and
passes it through the validator of restores.

`transition_ok` says what a transition can do, and every statement about runs follows from it.
Each record of a run is valid, keeps its identity and is younger than the one before; a drill
succeeds after running and verifying only, with evidence from its own interval; and until it has
ended it can be cancelled at any later time but the zero time, which no record admits
(`restore_drill_machine`, `drill_at_zero_time_refused`). So there is no dead end.
-/

set_option autoImplicit false

namespace ControlCenter.Recovery

open Library CoreContracts

/-! ## The adapter registry -/

structure AdapterDescriptor where
  adapterID : String
  version : String
  providerIDs : List String
  capabilities : List ProviderCapability
  deriving DecidableEq

/-- The registered descriptors by adapter and version. -/
structure AdapterRegistry where
  adapters : Table AdapterDescriptor

def adapterRegistryKey (adapterID version : String) : String := adapterID ++ "\x00" ++ version

def adapterNotRegistered : String := "recovery adapter is not registered: "
def adapterCapabilityMismatch : String := "recovery adapter capability mismatch: "
def invalidAdapterDescriptor : String := "invalid recovery adapter descriptor: "

/-- The required capabilities in order, if none is repeated. -/
def canonicalCapabilities (field : String) (values : List ProviderCapability) :
    Except String (List ProviderCapability) := do
  let _ ← firstFailure (distinctChecks id (fun _ _ => []) (fun _ _ => [])
    (fun capability : ProviderCapability =>
      invalidAdapterDescriptor ++ field ++ " contains duplicate " ++ capability.text) 0 [] values)
  .ok (values.insertionSort fun a b => a.text ≤ b.text)

/-- The tests of a provider against the descriptor of its adapter. -/
def AdapterDescriptor.checks (descriptor : AdapterDescriptor) (provider : ProviderMetadata)
    (required : List ProviderCapability) : List (Bool × String) :=
  [(!descriptor.providerIDs.contains provider.providerID,
      adapterNotRegistered ++ "provider " ++ provider.providerID ++ " is not allowed by " ++
        provider.adapterID ++ "@" ++ provider.version)] ++
    (provider.capabilities.map fun capability =>
      (!descriptor.capabilities.contains capability,
        adapterCapabilityMismatch ++ "provider declares unregistered " ++ capability.text)) ++
    (required.map fun capability =>
      (!providerHas provider capability || !descriptor.capabilities.contains capability,
        adapterCapabilityMismatch ++ "required " ++ capability.text))

def AdapterRegistry.resolve (registry : AdapterRegistry) (provider : ProviderMetadata)
    (required : List ProviderCapability) : Except String AdapterDescriptor := do
  let _ ← (firstFailure (validateProvider "provider" provider false)).mapError fun e =>
    invalidAdapterDescriptor ++ e.text
  let requiredSet ← canonicalCapabilities "required capabilities" required
  match registry.adapters.lookup (adapterRegistryKey provider.adapterID provider.version) with
  | none => .error (adapterNotRegistered ++ provider.adapterID ++ "@" ++ provider.version)
  | some descriptor => do
      let _ ← firstFailure (descriptor.checks provider requiredSet)
      .ok descriptor

/-! ## Transitions -/

/-- What is observed of a drill: the state it moves on to, and the results of the job. -/
structure RestoreDrillTransitionRequest where
  next : RestoreState
  precondition : ObjectPrecondition
  occurredAt : Time
  providerOperationID : String
  verificationEvidence : List EvidenceReference
  failure : Option FailureMetadata
  deriving DecidableEq

def RestoreState.text : RestoreState → String
  | .planned => "PLANNED"
  | .running => "RUNNING"
  | .verifying => "VERIFYING"
  | .succeeded => "SUCCEEDED"
  | .failed => "FAILED"
  | .cancelled => "CANCELLED"

def transitionError (message : String) : String := "invalid restore drill transition: " ++ message

def validRestoreDrillEdge : RestoreState → RestoreState → Bool
  | .planned, next => next == .running || next == .cancelled
  | .running, next => next == .verifying || next == .failed || next == .cancelled
  | .verifying, next => next == .succeeded || next == .failed || next == .cancelled
  | _, _ => false

/-- The order of the evidence of a drill: by kind and then by id. -/
def drillEvidenceLess (a b : EvidenceReference) : Bool :=
  if a.kind ≠ b.kind then decide (a.kind.text < b.kind.text) else decide (a.id < b.id)

/-- The tests of the evidence of a drill that started at a time and is observed at another. -/
def drillEvidenceChecks (evidence : List EvidenceReference) (passed : Bool)
    (startedAt observedAt : Time) : List (Bool × String) :=
  (evidence.flatMap fun reference =>
    [(decide (reference.recordedAt < startedAt) || decide (observedAt < reference.recordedAt),
        transitionError
          "unverifiable evidence: recorded_at is outside the restore drill interval"),
      (reference.kind == .fencingConfirmation, transitionError
        "unverifiable evidence: fencing confirmation is not drill verification evidence")]) ++
    [(!containsEvidenceKind evidence .restoreDrill,
        transitionError "unverifiable evidence: RESTORE_DRILL evidence is required"),
      (passed && !containsEvidenceKind evidence .functionalTest,
        transitionError "unverifiable evidence: FUNCTIONAL_TEST evidence is required")]

def canonicalDrillEvidence (evidence : List EvidenceReference) (passed : Bool)
    (startedAt : Option Time) (observedAt : Time) : Except String (List EvidenceReference) := do
  let _ ← (firstFailure (validateEvidence "verification_evidence" evidence true)).mapError
    fun e => transitionError ("unverifiable evidence: " ++ e.text)
  match startedAt with
  | none => .error (transitionError "unverifiable evidence: restore start is missing")
  | some startedAt => do
      let _ ← firstFailure (drillEvidenceChecks evidence passed startedAt observedAt)
      .ok (evidence.insertionSort fun a b => drillEvidenceLess b a = false)

/-- The record with the state, the time and the version of the transition. -/
def movedOn (current : RestoreMetadata) (request : RestoreDrillTransitionRequest)
    (nextResourceVersion : String) : RestoreMetadata :=
  { current with
    state := request.next
    updatedAt := request.occurredAt
    resourceVersion := nextResourceVersion }

/-- The verification of a failed drill, if it was being verified. -/
def failedVerification (current : RestoreMetadata) (request : RestoreDrillTransitionRequest) :
    Except String RestoreVerification :=
  if current.state = .verifying then do
    let evidence ← canonicalDrillEvidence request.verificationEvidence false current.startedAt
      request.occurredAt
    .ok ⟨.failed, some request.occurredAt, evidence⟩
  else if !request.verificationEvidence.isEmpty then
    .error (transitionError "execution failure cannot contain verification evidence")
  else .ok current.verification

/-- The successor with the results that its state records. -/
def drillSuccessor (current : RestoreMetadata) (request : RestoreDrillTransitionRequest)
    (nextResourceVersion : String) : Except String RestoreMetadata :=
  let next := movedOn current request nextResourceVersion
  match request.next with
  | .running => do
      let _ ← firstFailure
        [(request.providerOperationID == "" || !request.verificationEvidence.isEmpty ||
            request.failure.isSome,
          transitionError "RUNNING requires only a provider operation id")]
      .ok { next with
        provider := { next.provider with operationID := request.providerOperationID }
        startedAt := some request.occurredAt }
  | .verifying => do
      let _ ← firstFailure
        [(request.providerOperationID != "" || !request.verificationEvidence.isEmpty ||
            request.failure.isSome,
          transitionError "VERIFYING does not accept terminal results")]
      .ok next
  | .succeeded => do
      let _ ← firstFailure
        [(request.providerOperationID != "" || request.failure.isSome,
          transitionError "SUCCEEDED accepts evidence and no failure")]
      let evidence ← canonicalDrillEvidence request.verificationEvidence true next.startedAt
        request.occurredAt
      .ok { next with
        completedAt := some request.occurredAt
        verification := ⟨.passed, some request.occurredAt, evidence⟩ }
  | .failed => do
      let _ ← firstFailure
        [(request.providerOperationID != "" || request.failure.isNone,
          transitionError "FAILED requires failure metadata and no new provider operation")]
      let verification ← failedVerification current request
      .ok { next with
        completedAt := some request.occurredAt
        failure := request.failure
        verification := verification }
  | .cancelled => do
      let _ ← firstFailure
        [(request.providerOperationID != "" || !request.verificationEvidence.isEmpty ||
            request.failure.isSome,
          transitionError "CANCELLED cannot contain terminal evidence or failure")]
      .ok { next with completedAt := some request.occurredAt }
  | .planned => .ok next

/-- The capabilities a drill needs. -/
def drillCapabilities : List ProviderCapability := [.restore, .restoreDrill]

def applyRestoreDrillTransition (registry : AdapterRegistry) (current : RestoreMetadata)
    (request : RestoreDrillTransitionRequest) (nextResourceVersion : String) :
    Except String RestoreMetadata := do
  let _ ← (validateRestoreMetadata current).mapError fun e =>
    transitionError ("current: " ++ e.text)
  let _ ← firstFailure [(current.mode != .isolatedDrill,
    transitionError "restore mode must be ISOLATED_DRILL")]
  let _ ← (registry.resolve current.provider drillCapabilities).mapError transitionError
  let _ ← (request.precondition.validateAgainst current.toObjectMetadata).mapError fun e =>
    transitionError e.text
  let _ ← (firstFailure (validateTimestamp "occurred_at" request.occurredAt)).mapError fun e =>
    transitionError e.text
  let _ ← firstFailure
    [(decide (request.occurredAt ≤ current.updatedAt),
        transitionError "occurred_at must follow current updated_at"),
      (!validRestoreDrillEdge current.state request.next,
        transitionError ("transition " ++ current.state.text ++ " -> " ++ request.next.text ++
          " is not allowed"))]
  let next ← drillSuccessor current request nextResourceVersion
  let _ ← (validateRestoreMetadata next).mapError fun e => transitionError ("successor: " ++ e.text)
  let _ ← (validateSuccessor current.toObjectMetadata next.toObjectMetadata false).mapError
    fun e => transitionError e.text
  .ok next

/-! ## What a transition can do -/

/-- The registry knows the adapter of the provider, with what a drill needs. -/
def Registered (registry : AdapterRegistry) (provider : ProviderMetadata) : Prop :=
  ∃ descriptor, registry.resolve provider drillCapabilities = .ok descriptor

/-- An accepted transition. -/
structure Transition (registry : AdapterRegistry) (current : RestoreMetadata)
    (request : RestoreDrillTransitionRequest) (version : String) (next : RestoreMetadata) :
    Prop where
  valid : current.Valid
  drill : current.mode = .isolatedDrill
  registered : Registered registry current.provider
  precondition : request.precondition.validateAgainst current.toObjectMetadata = .ok ()
  time : request.occurredAt ≠ 0
  later : current.updatedAt < request.occurredAt
  edge : validRestoreDrillEdge current.state request.next = true
  successor : drillSuccessor current request version = .ok next
  validNext : next.Valid
  follows : IsSuccessor current.toObjectMetadata next.toObjectMetadata false

theorem transition_ok {registry : AdapterRegistry} {current next : RestoreMetadata}
    {request : RestoreDrillTransitionRequest} {version : String} :
    applyRestoreDrillTransition registry current request version = .ok next ↔
      Transition registry current request version next := by
  unfold applyRestoreDrillTransition
  simp only [↓except_check_ok, except_bind_ok, mapError_ok, validateRestoreMetadata,
    firstFailure_passes, validateTimestamp, passes_cons, passes_nil, and_true,
    bne_eq_false_iff_eq, Bool.not_eq_false', decide_eq_false_iff_not, not_le, Time.isZero,
    beq_eq_false_iff_ne, validateSuccessor_ok, Except.ok.injEq]
  constructor
  · rintro ⟨valid, drill, descriptor, resolved, precondition, time, ⟨later, edge⟩, _, successor,
      validNext, follows, rfl⟩
    exact ⟨valid, drill, ⟨descriptor, resolved⟩, precondition, time, later, edge, successor,
      validNext, follows⟩
  · rintro ⟨valid, drill, ⟨descriptor, resolved⟩, precondition, time, later, edge, successor,
      validNext, follows⟩
    exact ⟨valid, drill, descriptor, resolved, precondition, time, ⟨later, edge⟩, _, successor,
      validNext, follows, rfl⟩

/-- What no transition changes. -/
structure SameDrill (r next : RestoreMetadata) : Prop where
  objectID : next.objectID = r.objectID
  generation : next.generation = r.generation
  recoveryPointID : next.recoveryPointID = r.recoveryPointID
  backupIDs : next.backupIDs = r.backupIDs
  target : next.target = r.target
  requestedAt : next.requestedAt = r.requestedAt
  mode : next.mode = r.mode
  provider : { next.provider with operationID := "" } = { r.provider with operationID := "" }

theorem SameDrill.trans {r s t : RestoreMetadata} (first : SameDrill r s) (second : SameDrill s t) :
    SameDrill r t :=
  ⟨second.objectID.trans first.objectID, second.generation.trans first.generation,
    second.recoveryPointID.trans first.recoveryPointID, second.backupIDs.trans first.backupIDs,
    second.target.trans first.target, second.requestedAt.trans first.requestedAt,
    second.mode.trans first.mode, second.provider.trans first.provider⟩

section Successor

variable {current next : RestoreMetadata} {request : RestoreDrillTransitionRequest}
  {version : String}

/-- The cases of a successor. -/
theorem drillSuccessor_cases (built : drillSuccessor current request version = .ok next) :
    SameDrill current next ∧ next.state = request.next ∧ next.updatedAt = request.occurredAt ∧
      (request.next ≠ .running → next.provider = current.provider ∧
        next.startedAt = current.startedAt) := by
  unfold drillSuccessor at built
  cases target : request.next with
  | planned =>
      simp only [target, Except.ok.injEq] at built
      subst built
      exact ⟨⟨rfl, rfl, rfl, rfl, rfl, rfl, rfl, rfl⟩, target, rfl, fun _ => ⟨rfl, rfl⟩⟩
  | running =>
      simp only [target, except_check_ok, Except.ok.injEq] at built
      obtain ⟨-, rfl⟩ := built
      exact ⟨⟨rfl, rfl, rfl, rfl, rfl, rfl, rfl, rfl⟩, target, rfl, fun other => absurd rfl other⟩
  | verifying =>
      simp only [target, except_check_ok, Except.ok.injEq] at built
      obtain ⟨-, rfl⟩ := built
      exact ⟨⟨rfl, rfl, rfl, rfl, rfl, rfl, rfl, rfl⟩, target, rfl, fun _ => ⟨rfl, rfl⟩⟩
  | succeeded =>
      simp only [target, except_bind_ok, Except.ok.injEq] at built
      obtain ⟨_, -, _, -, rfl⟩ := built
      exact ⟨⟨rfl, rfl, rfl, rfl, rfl, rfl, rfl, rfl⟩, target, rfl, fun _ => ⟨rfl, rfl⟩⟩
  | failed =>
      simp only [target, except_bind_ok, Except.ok.injEq] at built
      obtain ⟨_, -, _, -, rfl⟩ := built
      exact ⟨⟨rfl, rfl, rfl, rfl, rfl, rfl, rfl, rfl⟩, target, rfl, fun _ => ⟨rfl, rfl⟩⟩
  | cancelled =>
      simp only [target, except_check_ok, Except.ok.injEq] at built
      obtain ⟨-, rfl⟩ := built
      exact ⟨⟨rfl, rfl, rfl, rfl, rfl, rfl, rfl, rfl⟩, target, rfl, fun _ => ⟨rfl, rfl⟩⟩

/-- The evidence of a drill that passed. -/
structure DrillEvidence (evidence : List EvidenceReference) (started completed : Time) : Prop where
  restoreDrill : ∃ reference ∈ evidence, reference.kind = .restoreDrill
  functionalTest : ∃ reference ∈ evidence, reference.kind = .functionalTest
  interval : ∀ reference ∈ evidence,
    started ≤ reference.recordedAt ∧ reference.recordedAt ≤ completed

theorem canonicalDrillEvidence_passed {evidence result : List EvidenceReference}
    {startedAt : Option Time} {observedAt : Time}
    (accepted : canonicalDrillEvidence evidence true startedAt observedAt = .ok result) :
    ∃ started, startedAt = some started ∧ DrillEvidence result started observedAt := by
  unfold canonicalDrillEvidence at accepted
  rw [except_check_ok] at accepted
  obtain ⟨-, accepted⟩ := accepted
  cases startedAt with
  | none => cases accepted
  | some started =>
      simp only [except_check_ok, firstFailure_passes, drillEvidenceChecks, passes_append,
        passes_cons, passes_nil, and_true, Bool.true_and, Bool.not_eq_false',
        containsEvidenceKind_iff, Except.ok.injEq] at accepted
      obtain ⟨⟨each, drill, test⟩, rfl⟩ := accepted
      refine ⟨started, rfl, ?_, ?_, ?_⟩
      · simpa only [List.mem_insertionSort] using drill
      · simpa only [List.mem_insertionSort] using test
      · intro reference listed
        rw [List.mem_insertionSort] at listed
        have own := (List.forall_mem_flatMap.mp each reference listed) _ List.mem_cons_self
        simpa only [Bool.or_eq_false_iff, decide_eq_false_iff_not, not_lt] using own

/-- A drill that passed has the evidence of its own interval. -/
theorem drillSuccessor_succeeded (built : drillSuccessor current request version = .ok next)
    (target : request.next = .succeeded) :
    ∃ started, next.startedAt = some started ∧ next.completedAt = some request.occurredAt ∧
      next.verification.verifiedAt = some request.occurredAt ∧
      next.verification.outcome = .passed ∧
      DrillEvidence next.verification.evidence started request.occurredAt := by
  unfold drillSuccessor at built
  simp only [target, except_bind_ok, Except.ok.injEq] at built
  obtain ⟨_, -, evidence, accepted, rfl⟩ := built
  obtain ⟨started, isStarted, passed⟩ := canonicalDrillEvidence_passed accepted
  exact ⟨started, isStarted, rfl, rfl, rfl, passed⟩

end Successor

/-! ## Cancelling -/

/-- The drill has not ended. -/
def RestoreState.active (state : RestoreState) : Prop :=
  state = .planned ∨ state = .running ∨ state = .verifying

theorem RestoreMetadata.passes_orderChecks {r : RestoreMetadata} :
    Passes r.orderChecks ↔
      (∀ started, r.startedAt = some started → r.requestedAt ≤ started) ∧
      (r.startedAt.isSome && r.provider.operationID == "") = false ∧
      (∀ target, r.pitrTargetAt = some target → target ≤ r.requestedAt) ∧
      (∀ confirmed, r.fencing.confirmedAt = some confirmed →
        ∀ started, r.startedAt = some started → confirmed ≤ started) ∧
      (∀ confirmed, r.fencing.confirmedAt = some confirmed → r.requestedAt ≤ confirmed) ∧
      Passes (recordedFrom "fencing.evidence.recorded_at" r.fencing.evidence r.requestedAt
        "must not precede requested_at") ∧
      (∀ completed, r.completedAt = some completed → r.lowerBound ≤ completed) ∧
      r.requestedAt ≤ r.updatedAt := by
  simp only [orderChecks, passes_append, passes_cons, passes_nil, and_true, any_eq_false,
    decide_eq_false_iff_not, not_lt, and_assoc]

namespace RestoreMetadata.Parts

variable {r : RestoreMetadata}

/-- An active drill has no results, and an operation exactly when it was started. -/
theorem of_active (checked : r.Parts) (active : r.state.active) :
    r.completedAt = none ∧ r.verification = ⟨.pending, none, []⟩ ∧ r.failure = none ∧
      r.startedAt.isSome = (r.provider.operationID != "") := by
  have results : r.completedAt = none ∧ r.verification.outcome = .pending ∧ r.failure = none ∧
      r.startedAt.isSome = (r.provider.operationID != "") := by
    have state := checked.state
    unfold stateChecks at state
    rcases active with active | active | active <;>
      simp only [active, passes_cons, passes_nil, and_true, Bool.or_eq_false_iff,
        bne_eq_false_iff_eq, beq_eq_false_iff_ne, Option.isSome_eq_false_iff,
        Option.isNone_eq_false_iff, Option.isNone_iff_eq_none] at state
    · obtain ⟨⟨⟨⟨started, completed⟩, operation⟩, outcome⟩, failure⟩ := state
      exact ⟨completed, outcome, failure, by simp [started, operation]⟩
    · obtain ⟨⟨⟨⟨started, completed⟩, operation⟩, outcome⟩, failure⟩ := state
      exact ⟨completed, outcome, failure, by simp [started, operation]⟩
    · obtain ⟨⟨⟨⟨started, completed⟩, operation⟩, outcome⟩, failure⟩ := state
      exact ⟨completed, outcome, failure, by simp [started, operation]⟩
  obtain ⟨completed, outcome, failure, operation⟩ := results
  refine ⟨completed, ?_, failure, operation⟩
  have verification := checked.verification
  simp only [validateRestoreVerification, outcome, passes_append, if_true, passes_cons, passes_nil,
    and_true, Bool.or_eq_false_iff, Option.isSome_eq_false_iff, Option.isNone_iff_eq_none,
    Bool.not_eq_false', List.isEmpty_iff] at verification
  obtain ⟨_, unverified, noEvidence⟩ := verification
  generalize r.verification = v at outcome unverified noEvidence ⊢
  obtain ⟨_, _, _⟩ := v
  cases outcome
  cases unverified
  cases noEvidence
  rfl

/-- The start, or the request of a restore, is not after its update. -/
theorem lowerBound_le (checked : r.Parts) : r.lowerBound ≤ r.updatedAt := by
  have observed := checked.observed
  have order := checked.order
  simp only [observedBy, List.map_cons, passes_cons, any_eq_false, decide_eq_false_iff_not,
    not_lt] at observed
  obtain ⟨-, -, -, -, -, -, -, requested⟩ := passes_orderChecks.mp order
  unfold lowerBound
  cases started : r.startedAt with
  | none => exact requested
  | some start => exact observed.1 start started

end RestoreMetadata.Parts

/-- The record of a drill that is cancelled. -/
def cancelledRecord (r : RestoreMetadata) (occurredAt : Time) (version : String) :
    RestoreMetadata :=
  { r with
    state := .cancelled
    updatedAt := occurredAt
    resourceVersion := version
    completedAt := some occurredAt }

theorem cancelledRecord_checked {r : RestoreMetadata} {occurredAt : Time} {version : String}
    (checked : r.Parts) (drill : r.mode = .isolatedDrill) (active : r.state.active)
    (time : occurredAt ≠ 0) (later : r.updatedAt < occurredAt) (legal : IsOpaqueVersion version) :
    (cancelledRecord r occurredAt version).Parts := by
  obtain ⟨completed, verification, failure, operation⟩ := checked.of_active active
  have metadata : (cancelledRecord r occurredAt version).toObjectMetadata.Valid :=
    { checked.metadata with
      resourceVersion := legal
      updated := time
      ordered := checked.metadata.ordered.trans later.le }
  have order : Passes (cancelledRecord r occurredAt version).orderChecks := by
    obtain ⟨started, operated, pitr, fenced, confirmed, evidence, -, requested⟩ :=
      RestoreMetadata.passes_orderChecks.mp checked.order
    refine RestoreMetadata.passes_orderChecks.mpr
      ⟨started, operated, pitr, fenced, confirmed, evidence, ?_, requested.trans later.le⟩
    rintro _ ⟨⟩
    exact checked.lowerBound_le.trans later.le
  have observed : Passes (observedBy occurredAt
      [("started_at", r.startedAt), ("completed_at", some occurredAt),
        ("fencing.confirmed_at", r.fencing.confirmedAt),
        ("verification.verified_at", r.verification.verifiedAt)]) := by
    have before := checked.observed
    simp only [observedBy, List.map_cons, List.map_nil, passes_cons, passes_nil, and_true,
      any_eq_false, decide_eq_false_iff_not, not_lt, Option.some.injEq] at before ⊢
    exact ⟨fun t set => (before.1 t set).trans later.le, fun _ own => own ▸ le_rfl,
      fun t set => (before.2.2.1 t set).trans later.le,
      fun t set => (before.2.2.2 t set).trans later.le⟩
  have context : Passes (validateRestoreFencingContext (cancelledRecord r occurredAt version)) := by
    have before := checked.context
    simp only [validateRestoreFencingContext, cancelledRecord, drill] at before ⊢
    simpa using before
  have state : Passes (cancelledRecord r occurredAt version).stateChecks := by
    simp [RestoreMetadata.stateChecks, cancelledRecord, verification, failure, operation]
  exact {
    schema := checked.schema
    metadata := metadata
    point := checked.point
    backups := checked.backups
    target := checked.target
    scope := checked.scope
    objects := checked.objects
    provider := checked.provider
    capability := checked.capability
    mode := checked.mode
    fencing := checked.fencing
    requested := checked.requested
    started := checked.started
    completed := by
      simpa [cancelledRecord, validateOptionalTimestamp, validateTimestamp, Time.isZero] using time
    pitr := checked.pitr
    order := order
    observed := observed
    fenced := fun reference listed => (checked.fenced reference listed).trans later.le
    recorded := fun reference listed => (checked.recorded reference listed).trans later.le
    verification := checked.verification
    bounded := checked.bounded
    outcome := checked.outcome
    failure := checked.failure
    context := context
    state := state
    ended := fun verified set => by simp [cancelledRecord, verification] at set
    evidence := rfl }

/-- A request to cancel, with nothing else in it. -/
structure Cancels (request : RestoreDrillTransitionRequest) (r : RestoreMetadata) : Prop where
  next : request.next = .cancelled
  object : request.precondition.objectID = r.objectID
  version : request.precondition.resourceVersion = r.resourceVersion
  generation : ∀ generation, request.precondition.generation = some generation →
    generation = r.generation
  operation : request.providerOperationID = ""
  evidence : request.verificationEvidence = []
  failure : request.failure = none

theorem cancel_accepted {registry : AdapterRegistry} {r : RestoreMetadata}
    {request : RestoreDrillTransitionRequest} {version : String} (valid : r.Valid)
    (drill : r.mode = .isolatedDrill) (registered : Registered registry r.provider)
    (active : r.state.active) (cancels : Cancels request r) (time : request.occurredAt ≠ 0)
    (later : r.updatedAt < request.occurredAt) (legal : IsOpaqueVersion version)
    (fresh : version ≠ r.resourceVersion) :
    applyRestoreDrillTransition registry r request version =
      .ok (cancelledRecord r request.occurredAt version) := by
  have checked := RestoreMetadata.valid_iff.mp valid
  have next := cancelledRecord_checked checked drill active time later legal
  have edge : validRestoreDrillEdge r.state request.next = true := by
    rw [cancels.next]
    rcases active with active | active | active <;> rw [active] <;> rfl
  have built : drillSuccessor r request version =
      .ok (cancelledRecord r request.occurredAt version) := by
    simp [drillSuccessor, cancels.next, cancels.operation, cancels.evidence, cancels.failure,
      movedOn, cancelledRecord, firstFailure, bind, Except.bind]
  refine transition_ok.mpr ⟨valid, drill, registered, ?_, time, later, edge, built,
    RestoreMetadata.valid_iff.mpr next, ?_⟩
  · exact ObjectPrecondition.validateAgainst_ok.mpr
      ⟨checked.metadata, cancels.object, cancels.version, cancels.generation⟩
  · exact ⟨checked.metadata, next.metadata, rfl, rfl, later.le, fresh, fun _ => ⟨rfl, rfl⟩,
      fun changed => by simp at changed, rfl⟩

/-! ## Runs -/

/-- A record follows another when some transition leads to it. -/
def Follows (registry : AdapterRegistry) (r next : RestoreMetadata) : Prop :=
  ∃ request version, applyRestoreDrillTransition registry r request version = .ok next

/-- What holds between a record of a run and any later one. -/
structure Onward (r next : RestoreMetadata) : Prop where
  kept : SameDrill r next
  later : r.updatedAt < next.updatedAt
  operation : r.provider.operationID ≠ "" → next.provider.operationID = r.provider.operationID

theorem Onward.trans {r s t : RestoreMetadata} (first : Onward r s) (second : Onward s t) :
    Onward r t where
  kept := first.kept.trans second.kept
  later := first.later.trans second.later
  operation := fun named => by
    have same := first.operation named
    rw [second.operation (same ▸ named), same]

instance : IsTrans RestoreMetadata Onward := ⟨fun _ _ _ => Onward.trans⟩

section Edges

variable {state : RestoreState}

theorem edge_planned : validRestoreDrillEdge .planned state = true ↔
    state = .running ∨ state = .cancelled := by cases state <;> decide

theorem edge_running : validRestoreDrillEdge .running state = true ↔
    state = .verifying ∨ state = .failed ∨ state = .cancelled := by cases state <;> decide

theorem edge_verifying : validRestoreDrillEdge .verifying state = true ↔
    state = .succeeded ∨ state = .failed ∨ state = .cancelled := by cases state <;> decide

/-- No edge leaves a state that has ended. -/
theorem edge_active {next : RestoreState} (edge : validRestoreDrillEdge state next = true) :
    state.active := by
  cases state with
  | planned => exact .inl rfl
  | running => exact .inr (.inl rfl)
  | verifying => exact .inr (.inr rfl)
  | succeeded => cases edge
  | failed => cases edge
  | cancelled => cases edge

theorem edge_to_running (edge : validRestoreDrillEdge state .running = true) :
    state = .planned := by
  cases state <;> first | rfl | cases edge

/-- **The only way to succeed.** -/
theorem path_to_succeeded {states before after : List RestoreState}
    (chain : (.planned :: states).IsChain fun a b => validRestoreDrillEdge a b = true)
    (split : .planned :: states = before ++ .succeeded :: after) :
    before = [.planned, .running, .verifying] := by
  rw [split] at chain
  -- the first three edges, and no fourth
  match before, split, chain with
  | [], split, _ => cases split
  | [_], split, chain =>
      cases split
      simp [edge_planned] at chain
  | [_, second], split, chain =>
      cases split
      simp only [List.cons_append, List.nil_append, List.isChain_cons_cons, edge_planned] at chain
      obtain ⟨rfl | rfl, last, _⟩ := chain
      · cases last
      · cases last
  | [_, second, third], split, chain =>
      cases split
      simp only [List.cons_append, List.nil_append, List.isChain_cons_cons, edge_planned] at chain
      obtain ⟨rfl | rfl, inner, last, _⟩ := chain
      · rcases edge_running.mp inner with rfl | rfl | rfl
        · rfl
        · cases last
        · cases last
      · cases inner
  | _ :: second :: third :: fourth :: rest, split, chain =>
      cases split
      simp only [List.cons_append, List.isChain_cons_cons, edge_planned] at chain
      obtain ⟨rfl | rfl, inner, outer, more⟩ := chain
      · rcases edge_running.mp inner with rfl | rfl | rfl
        · have ended : ∀ next, validRestoreDrillEdge fourth next = false := by
            rcases edge_verifying.mp outer with rfl | rfl | rfl <;> exact fun _ => rfl
          cases rest with
          | nil => simp [ended] at more
          | cons fifth rest => simp [ended] at more
        · cases outer
        · cases outer
      · cases inner

end Edges

section Run

variable {registry : AdapterRegistry} {r next : RestoreMetadata}

theorem Follows.edge (follows : Follows registry r next) :
    validRestoreDrillEdge r.state next.state = true := by
  obtain ⟨request, version, accepted⟩ := follows
  have transition := transition_ok.mp accepted
  rw [(drillSuccessor_cases transition.successor).2.1]
  exact transition.edge

/-- A drill gets its operation when it starts, and has none before. -/
theorem Follows.onward (follows : Follows registry r next) : Onward r next := by
  obtain ⟨request, version, accepted⟩ := follows
  have transition := transition_ok.mp accepted
  obtain ⟨kept, -, updated, others⟩ := drillSuccessor_cases transition.successor
  refine ⟨kept, updated ▸ transition.later, fun named => ?_⟩
  by_cases starts : request.next = .running
  · have planned : r.state = .planned := edge_to_running (starts ▸ transition.edge)
    have state := (RestoreMetadata.valid_iff.mp transition.valid).state
    simp [RestoreMetadata.stateChecks, planned, named] at state
  · rw [(others starts).1]

/-- The registry does not look at the operation of a valid provider. -/
theorem Registered.of_kept (registered : Registered registry r.provider) (kept : SameDrill r next)
    (valid : next.Valid) : Registered registry next.provider := by
  obtain ⟨descriptor, resolved⟩ := registered
  have provider := (RestoreMetadata.valid_iff.mp valid).provider
  have alike : next.provider =
      { r.provider with operationID := next.provider.operationID } := by
    have fields := kept.provider
    simp only [ProviderMetadata.mk.injEq] at fields
    obtain ⟨provider, adapter, version, repository, -, capabilities⟩ := fields
    calc next.provider = { next.provider with operationID := next.provider.operationID } := rfl
      _ = { r.provider with operationID := next.provider.operationID } := by
        simp only [provider, adapter, version, repository, capabilities]
  have legal : Passes (validateProvider "provider" next.provider false) := by
    simp only [validateProvider, passes_append, passes_cons, Bool.true_and, Bool.not_true,
      Bool.false_and, Bool.not_false, Bool.and_eq_false_imp] at provider ⊢
    obtain ⟨⟨id, adapter, version, repository, -, operation, nonempty⟩, distinct⟩ := provider
    exact ⟨⟨id, adapter, version, trivial, fun _ => repository, operation, nonempty⟩, distinct⟩
  refine ⟨descriptor, ?_⟩
  unfold AdapterRegistry.resolve at resolved ⊢
  rw [except_check_ok] at resolved ⊢
  refine ⟨mapError_ok.mpr (firstFailure_passes.mpr legal), ?_⟩
  rw [alike]
  exact resolved.2

/-- What every record of a run is. -/
structure Operable (registry : AdapterRegistry) (r : RestoreMetadata) : Prop where
  valid : r.Valid
  drill : r.mode = .isolatedDrill
  registered : Registered registry r.provider

theorem Operable.step (operable : Operable registry r) (follows : Follows registry r next) :
    Operable registry next := by
  have kept := follows.onward.kept
  obtain ⟨request, version, accepted⟩ := follows
  have transition := transition_ok.mp accepted
  exact ⟨transition.validNext, kept.mode.trans operable.drill,
    operable.registered.of_kept kept transition.validNext⟩

/-- A drill that succeeded has evidence from its own interval. -/
theorem Follows.succeeded (follows : Follows registry r next)
    (succeeded : next.state = .succeeded) :
    ∃ started completed, next.startedAt = some started ∧ next.completedAt = some completed ∧
      DrillEvidence next.verification.evidence started completed := by
  obtain ⟨request, version, accepted⟩ := follows
  have transition := transition_ok.mp accepted
  have target : request.next = .succeeded :=
    (drillSuccessor_cases transition.successor).2.1 ▸ succeeded
  obtain ⟨started, isStarted, completed, -, -, evidence⟩ :=
    drillSuccessor_succeeded transition.successor target
  exact ⟨started, request.occurredAt, isStarted, completed, evidence⟩

end Run

/-! ## Freshness -/

/-- The first instant of year 0. -/
def yearZero : Time := -(366 * 86400 * 1000000000)

/-- The first instant of year 9000. -/
def year9000 : Time := 3286817 * 86400 * 1000000000

theorem truncateSecond_mono {t t' : Int} (ordered : t ≤ t') :
    truncateSecond t ≤ truncateSecond t' := by
  change t - t % 1000000000 ≤ t' - t' % 1000000000
  omega

/-- The seconds of the years 0 to 8999 can be written, and so can an instant a year later. -/
theorem yearInRange_truncateSecond {t : Int} {seconds : Nat} (from0 : yearZero ≤ t)
    (before9000 : t < year9000) (small : seconds ≤ 31536000) :
    Time.yearInRange (truncateSecond t + 1000000000 * seconds) = true := by
  change -(366 * 86400 * 1000000000 : Int) ≤ t at from0
  change t < (3286817 * 86400 * 1000000000 : Int) at before9000
  have upper : t - t % 1000000000 + 1000000000 * (seconds : Int) <
      ((3652059 * (86400 * 1000000000) : Nat) : Int) := by omega
  have lower : -((366 * (86400 * 1000000000) : Nat) : Int) ≤
      t - t % 1000000000 + 1000000000 * (seconds : Int) := by omega
  exact Bool.and_eq_true_iff.mpr ⟨decide_eq_true lower, decide_eq_true upper⟩

/-- **A drill that succeeded can be assessed.** -/
theorem freshness_evaluated {r : RestoreMetadata} {verified checkedAt : Time} {maxAge : Duration}
    (valid : r.Valid) (isVerified : r.drillVerifiedAt = some verified)
    (supported : unsupportedMaxAge maxAge = false) (past : verified ≤ checkedAt)
    (checked : checkedAt ≠ 0) (from0 : yearZero ≤ verified) (before9000 : checkedAt < year9000) :
    ∃ assessment, evaluateRestoreDrillFreshness r maxAge checkedAt = .ok assessment := by
  obtain ⟨seconds, positive, small, age⟩ := supported_age supported
  have order : ¬ truncateSecond checkedAt < truncateSecond verified :=
    not_lt.mpr (truncateSecond_mono past)
  have verifiedYear : Time.yearInRange (truncateSecond verified) = true := by
    simpa using yearInRange_truncateSecond from0 (past.trans_lt before9000) (Nat.zero_le 31536000)
  have checkedYear : Time.yearInRange (truncateSecond checkedAt) = true := by
    simpa using yearInRange_truncateSecond (from0.trans past) before9000 (Nat.zero_le 31536000)
  have untilYear : Time.yearInRange (Time.add (truncateSecond verified) maxAge) = true := by
    have := yearInRange_truncateSecond from0 (past.trans_lt before9000) small
    rwa [← age] at this
  have validated : validateRestoreMetadata r = .ok () := firstFailure_passes.mpr valid
  have tests : firstFailure
      [(unsupportedMaxAge maxAge,
          "restore drill freshness: max age must be whole seconds within (0,365d]"),
        (Time.isZero checkedAt, "restore drill freshness: checked_at is required"),
        (decide (truncateSecond checkedAt < truncateSecond verified),
          "restore drill freshness: checked_at precedes verified_at")] = .ok () := by
    rw [firstFailure_passes]
    simp [supported, order, checked, Time.isZero]
  have document : (restoreDrillFreshnessPayload (unnamedAssessment r maxAge
      (truncateSecond verified) (truncateSecond checkedAt))).isSome = true := by
    simp [restoreDrillFreshnessPayload, unnamedAssessment, Json.time, verifiedYear, checkedYear,
      untilYear]
  obtain ⟨payload, document⟩ := Option.isSome_iff_exists.mp document
  refine ⟨{ unnamedAssessment r maxAge (truncateSecond verified) (truncateSecond checkedAt) with
    assessmentID := assessmentName payload }, ?_⟩
  unfold evaluateRestoreDrillFreshness
  rw [except_check_ok, mapError_ok]
  refine ⟨validated, ?_⟩
  simp only [isVerified]
  rw [except_check_ok]
  refine ⟨tests, ?_⟩
  simp only [restoreDrillFreshnessAssessmentIdentity, document]
  rfl

/-- A valid drill that succeeded was verified. -/
theorem RestoreMetadata.Parts.drillVerifiedAt_eq {r : RestoreMetadata} (parts : r.Parts)
    (drill : r.mode = .isolatedDrill) (succeeded : r.state = .succeeded) :
    ∃ verified, r.verification.verifiedAt = some verified ∧ r.drillVerifiedAt = some verified := by
  obtain ⟨_, _, verified, _, _, isVerified, passed, _⟩ := parts.succeeded succeeded
  refine ⟨verified, isVerified, ?_⟩
  rw [drillVerifiedAt, if_pos ⟨drill, succeeded, passed⟩, isVerified]

/-! ## The machine -/

/-- **Every run of a drill.** Each record is valid; a drill succeeds after running and verifying
only, with evidence from its own interval; no record changes what it is about, and each is
younger than those before it; a drill that has ended stays as it is; one that has not can be
cancelled at any later time but the zero time; and the freshness of one that succeeded can be
assessed at any later time from year 0 on, again but the zero time. -/
theorem restore_drill_machine (registry : AdapterRegistry) (initial : RestoreMetadata)
    (valid : initial.Valid) (planned : initial.state = .planned)
    (drill : initial.mode = .isolatedDrill) (registered : Registered registry initial.provider)
    (trace : List RestoreMetadata) (run : (initial :: trace).IsChain (Follows registry)) :
    (∀ r ∈ initial :: trace, r.Valid) ∧
    (∀ before r after, initial :: trace = before ++ r :: after → r.state = .succeeded →
      before.map RestoreMetadata.state = [.planned, .running, .verifying] ∧
      ∃ started completed, r.startedAt = some started ∧ r.completedAt = some completed ∧
        DrillEvidence r.verification.evidence started completed) ∧
    (initial :: trace).Pairwise Onward ∧
    (∀ r ∈ initial :: trace, ¬ r.state.active → ∀ request version next,
      applyRestoreDrillTransition registry r request version ≠ .ok next) ∧
    (∀ r ∈ initial :: trace, r.state.active → ∀ request version, Cancels request r →
      request.occurredAt ≠ 0 → r.updatedAt < request.occurredAt → IsOpaqueVersion version →
      version ≠ r.resourceVersion →
      ∃ next, applyRestoreDrillTransition registry r request version = .ok next) ∧
    (∀ r ∈ initial :: trace, r.state = .succeeded →
      ∃ verified, r.verification.verifiedAt = some verified ∧
        ∀ maxAge checkedAt, unsupportedMaxAge maxAge = false → verified ≤ checkedAt →
          checkedAt ≠ 0 → yearZero ≤ verified → checkedAt < year9000 →
          ∃ assessment, evaluateRestoreDrillFreshness r maxAge checkedAt = .ok assessment) := by
  have operable : ∀ r ∈ initial :: trace, Operable registry r :=
    run.induction (Operable registry) _ (fun _ _ follows before => before.step follows)
      fun _ => ⟨valid, drill, registered⟩
  refine ⟨fun r inside => (operable r inside).valid, ?_, ?_, ?_, ?_, ?_⟩
  · intro before r after split succeeded
    have states : ((initial :: trace).map RestoreMetadata.state).IsChain
        fun a b => validRestoreDrillEdge a b = true :=
      List.isChain_map_of_isChain RestoreMetadata.state (fun _ _ follows => follows.edge) run
    have path : before.map RestoreMetadata.state = [.planned, .running, .verifying] := by
      rw [List.map_cons, planned] at states
      refine @path_to_succeeded _ _ (after.map RestoreMetadata.state) states ?_
      rw [← planned, ← List.map_cons, split, List.map_append, List.map_cons, succeeded]
    refine ⟨path, ?_⟩
    -- the record before this one leads to it
    have nonempty : before ≠ [] := by
      rintro rfl
      cases path
    obtain ⟨earlier, previous, rfl⟩ := List.eq_nil_or_concat' before |>.resolve_left nonempty
    rw [split, List.append_assoc, List.singleton_append, List.isChain_append_cons_cons] at run
    exact run.2.1.succeeded succeeded
  · exact (run.imp fun _ _ follows => follows.onward).pairwise
  · intro r inside ended request version next accepted
    exact ended (edge_active (transition_ok.mp accepted).edge)
  · intro r inside active request version cancels time later legal fresh
    have own := operable r inside
    exact ⟨_, cancel_accepted own.valid own.drill own.registered active cancels time later legal
      fresh⟩
  · intro r inside succeeded
    have own := operable r inside
    obtain ⟨verified, isVerified, drillVerified⟩ :=
      (RestoreMetadata.valid_iff.mp own.valid).drillVerifiedAt_eq own.drill succeeded
    exact ⟨verified, isVerified, fun maxAge checkedAt supported past checked from0 before9000 =>
      freshness_evaluated own.valid drillVerified supported past checked from0 before9000⟩

/-! ### A run -/

def sampleRegistry : AdapterRegistry :=
  ⟨(∅ : Table AdapterDescriptor).insert (adapterRegistryKey "adapter" "1.0.0")
    ⟨"adapter", "1.0.0", ["provider"], [.restore, .restoreDrill]⟩⟩

/-- A drill that is planned at a time. -/
def plannedDrill (t : Time) : RestoreMetadata :=
  { sampleDrill with
    toObjectMetadata := sampleMetadata "drill" t t
    state := .planned
    provider := sampleProvider "" [.restore, .restoreDrill]
    requestedAt := t
    startedAt := none
    completedAt := none
    verification := ⟨.pending, none, []⟩ }

/-- The request that moves a record on after one nanosecond. -/
def moveOn (r : RestoreMetadata) (next : RestoreState) (operation : String)
    (evidence : List EvidenceReference) : RestoreDrillTransitionRequest :=
  ⟨next, ⟨r.objectID, r.resourceVersion, some r.generation⟩, r.updatedAt + 1, operation, evidence,
    none⟩

def runningDrill (t : Time) : RestoreMetadata :=
  { plannedDrill t with
    state := .running
    updatedAt := t + 1
    resourceVersion := "2"
    provider := sampleProvider "op2" [.restore, .restoreDrill]
    startedAt := some (t + 1) }

def verifyingDrill (t : Time) : RestoreMetadata :=
  { runningDrill t with
    state := .verifying
    updatedAt := t + 1 + 1
    resourceVersion := "3" }

def runEvidence (t : Time) : List EvidenceReference :=
  [⟨"e2", .functionalTest, "test", sampleDigest, t⟩, ⟨"e1", .restoreDrill, "log", sampleDigest, t⟩]

def succeededDrill (t : Time) : RestoreMetadata :=
  { verifyingDrill t with
    state := .succeeded
    updatedAt := t + 1 + 1 + 1
    resourceVersion := "4"
    completedAt := some (t + 1 + 1 + 1)
    verification := ⟨.passed, some (t + 1 + 1 + 1), runEvidence (t + 1 + 1)⟩ }

/-- The records of a drill after its plan. -/
def drillTrace (t : Time) : List RestoreMetadata :=
  [runningDrill t, verifyingDrill t, succeededDrill t]

theorem drillTrace_run {t : Time}
    (starts : applyRestoreDrillTransition sampleRegistry (plannedDrill t)
      (moveOn (plannedDrill t) .running "op2" []) "2" = .ok (runningDrill t))
    (restored : applyRestoreDrillTransition sampleRegistry (runningDrill t)
      (moveOn (runningDrill t) .verifying "" []) "3" = .ok (verifyingDrill t))
    (verified : applyRestoreDrillTransition sampleRegistry (verifyingDrill t)
      (moveOn (verifyingDrill t) .succeeded "" (runEvidence (t + 1 + 1))) "4" =
        .ok (succeededDrill t)) :
    (plannedDrill t :: drillTrace t).IsChain (Follows sampleRegistry) :=
  .cons_cons ⟨_, _, starts⟩ (.cons_cons ⟨_, _, restored⟩
    (.cons_cons ⟨_, _, verified⟩ (.singleton _)))

theorem drillTrace_at_ten :
    (plannedDrill 10 :: drillTrace 10).IsChain (Follows sampleRegistry) :=
  drillTrace_run (by decide +kernel) (by decide +kernel) (by decide +kernel)

theorem restore_drill_machine_at_ten :
    (plannedDrill 10 :: drillTrace 10).IsChain (Follows sampleRegistry) ∧
      DrillEvidence (runEvidence 12) 11 13 ∧
      ∃ assessment, evaluateRestoreDrillFreshness (succeededDrill 10) second 13 =
        .ok assessment := by
  obtain ⟨-, succeeds, -, -, -, fresh⟩ :=
    restore_drill_machine sampleRegistry (plannedDrill 10)
      (firstFailure_passes.mp (by decide +kernel)) rfl rfl
      ⟨⟨"adapter", "1.0.0", ["provider"], [.restore, .restoreDrill]⟩, by decide +kernel⟩
      (drillTrace 10) drillTrace_at_ten
  refine ⟨drillTrace_at_ten, ?_, ?_⟩
  · obtain ⟨-, started, completed, isStarted, isCompleted, evidence⟩ :=
      succeeds [plannedDrill 10, runningDrill 10, verifyingDrill 10] (succeededDrill 10) [] rfl rfl
    cases isStarted
    cases isCompleted
    exact evidence
  · obtain ⟨verified, isVerified, assessed⟩ := fresh (succeededDrill 10) (by simp [drillTrace]) rfl
    cases isVerified
    exact assessed second 13 (by decide) le_rfl (by decide) (by decide) (by decide)

/-- **The zero time and the years before year 0.** A drill planned before the zero time cannot be
cancelled at the zero time, and one verified before it cannot be assessed then; and a drill
verified before year 0 cannot be assessed at all. -/
theorem drill_at_zero_time_refused :
    ((plannedDrill (-1)).Valid ∧ Registered sampleRegistry (plannedDrill (-1)).provider ∧
      Cancels (moveOn (plannedDrill (-1)) .cancelled "" []) (plannedDrill (-1)) ∧
      IsOpaqueVersion "2" ∧
      ∀ next, applyRestoreDrillTransition sampleRegistry (plannedDrill (-1))
        (moveOn (plannedDrill (-1)) .cancelled "" []) "2" ≠ .ok next) ∧
    ((plannedDrill (-5) :: drillTrace (-5)).IsChain (Follows sampleRegistry) ∧
      ∀ assessment, evaluateRestoreDrillFreshness (succeededDrill (-5)) second 0 ≠
        .ok assessment) ∧
    ((plannedDrill (yearZero - 5) :: drillTrace (yearZero - 5)).IsChain (Follows sampleRegistry) ∧
      ∀ assessment, evaluateRestoreDrillFreshness (succeededDrill (yearZero - 5)) second 1 ≠
        .ok assessment) := by
  refine ⟨⟨?_, ?_, ?_, ?_, ?_⟩, ⟨?_, ?_⟩, ?_, ?_⟩
  · exact firstFailure_passes.mp (by decide +kernel)
  · exact ⟨⟨"adapter", "1.0.0", ["provider"], [.restore, .restoreDrill]⟩, by decide +kernel⟩
  · exact ⟨rfl, rfl, rfl, fun _ named => (Option.some.inj named).symm, rfl, rfl, rfl⟩
  · decide +kernel
  · intro next accepted
    exact (transition_ok.mp accepted).time rfl
  · exact drillTrace_run (by decide +kernel) (by decide +kernel) (by decide +kernel)
  · have refused : evaluateRestoreDrillFreshness (succeededDrill (-5)) second 0 =
        .error "restore drill freshness: checked_at is required" := by decide +kernel
    intro assessment accepted
    cases refused.symm.trans accepted
  · exact drillTrace_run (by decide +kernel) (by decide +kernel) (by decide +kernel)
  · have refused : evaluateRestoreDrillFreshness (succeededDrill (yearZero - 5)) second 1 =
        .error ("restore drill freshness: encode identity: " ++ Json.timeError) := by
      decide +kernel
    intro assessment accepted
    cases refused.symm.trans accepted

end ControlCenter.Recovery
