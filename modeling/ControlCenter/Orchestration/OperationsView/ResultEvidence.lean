import Mathlib.Data.List.Lex
import ControlCenter.Library.Checks
import ControlCenter.Library.Marshal
import ControlCenter.Orchestration.Job.Timeline
import ControlCenter.Orchestration.Server.Basic

/-!
# Result evidence

`result_evidence.go`: the projection of one finished job and of the output stored with it.
The projection checks the identities of the change and of the job, the times of both, the
output record by record, and hashes the JSON text of the output in a canonical order.

Over every run of the job repository at non-decreasing times, a job is never older than its
creation and its stored output is one that a worker reported for it in time (`exec_recorded`).
So the projection of a finished job fails only where the checks go beyond that, and the one
case a run leads to by itself is a failed job without an output
(`job_result_evidence_iff`). `Claim` leaves such a job when the last attempt of a job is
lost (`lost_attempt_has_no_evidence`).
-/

set_option autoImplicit false

namespace ControlCenter.Orchestration.OperationsView

open Library Change

def jobResultEvidenceContractVersion : String := "ui.operations-job-result-evidence/v1"

def maxJobResultEvidenceRecords : Nat := 512

def maxJobResultEvidenceIdentifierLength : Nat := 255

structure JobResultEvidence where
  contractVersion : String
  changeID : String
  revisionID : String
  revisionDigest : String
  jobID : String
  actionName : String
  jobVersion : UInt64
  outcome : Status
  outputPresent : Bool
  outputDigest : String
  actualStates : Nat
  healthChecks : Nat
  auditEvents : Nat
  worstHealth : String
  observedAt : Time
  deriving DecidableEq

structure JobResultEvidenceInput where
  change : Snapshot
  job : Job
  revisionDigest : String
  observedAt : Time
  deriving DecidableEq

def invalidJobResultEvidence (text : String) : String :=
  "invalid operations job result evidence: " ++ text

/-! ## The checks of the input -/

/-- The text is not canonical, or too long in bytes. -/
def invalidResultIdentity (value : String) : Bool :=
  trimSpace value == "" || trimSpace value != value ||
    decide (maxJobResultEvidenceIdentifierLength < value.utf8ByteSize)

def validateResultIdentity (name value : String) : Bool × String :=
  (invalidResultIdentity value, invalidJobResultEvidence ("canonical " ++ name ++ " is required"))

/-- The same check as `validManualRetryDigest`, in another package. -/
def validResultDigest (value : String) : Bool := validManualRetryDigest value

def validateTerminalResultState (changeState : State) (status : Status) : Bool × String :=
  match terminalChangeState status with
  | none => (true, invalidJobResultEvidence "Job is not terminal")
  | some expected =>
      (changeState != expected,
        invalidJobResultEvidence ("Change state " ++ quoted changeState.text ++
          " does not match terminal Job outcome " ++ quoted status.text))

def JobResultEvidenceInput.checks (input : JobResultEvidenceInput) : List (Bool × String) :=
  let snapshot := input.change
  let source := input.job
  [validateResultIdentity "change id" snapshot.id,
    validateResultIdentity "revision id" snapshot.revisionID,
    validateResultIdentity "change action" snapshot.action,
    (!validResultDigest input.revisionDigest,
      invalidJobResultEvidence "canonical revision digest is required"),
    validateResultIdentity "job id" source.id,
    validateResultIdentity "job change id" source.changeID,
    validateResultIdentity "job action" source.actionName,
    (source.changeID != snapshot.id || source.actionName != snapshot.action,
      invalidJobResultEvidence "Job is not bound to the supplied Change"),
    (snapshot.version == 0 || Time.isZero snapshot.updatedAt,
      invalidJobResultEvidence "complete Change state is required"),
    (source.version == 0 || Time.isZero source.createdAt || Time.isZero source.updatedAt ||
      decide (source.updatedAt < source.createdAt),
      invalidJobResultEvidence "complete Job state is required"),
    (decide (source.maxAttempts ≤ 0) || decide (source.attempt < 0) ||
      decide (source.maxAttempts < source.attempt),
      invalidJobResultEvidence "invalid Job attempt state"),
    (Time.isZero input.observedAt, invalidJobResultEvidence "observed time is required"),
    (decide (input.observedAt < snapshot.updatedAt) ||
      decide (input.observedAt < source.updatedAt),
      invalidJobResultEvidence "source state is newer than observed evidence"),
    validateTerminalResultState snapshot.state source.status]

/-! ## The checks of the output -/

/-- The values of `events.ResourceState`. -/
def resourceStates : List String := ["present", "absent", "unknown"]

/-- The values of `events.HealthStatus`. -/
def healthStatuses : List String := ["healthy", "degraded", "failed", "unknown"]

def validateResultTimestamp (name : String) (value startedAt completedAt observedAt : Time) :
    List (Bool × String) :=
  [(Time.isZero value, name ++ " time is required"),
    (decide (value < startedAt), name ++ " predates Job creation"),
    (decide (completedAt < value) || decide (observedAt < value),
      name ++ " is newer than terminal Job evidence")]

/-- Checks whose errors are wrapped under the name of a record. -/
def wrapped (label : String) (checks : List (Bool × String)) : List (Bool × String) :=
  checks.map fun (failed, text) => (failed, invalidJobResultEvidence (label ++ ": " ++ text))

/-- The checks of one observed state. -/
def actualStateChecks (startedAt completedAt observedAt : Time) (index : Nat)
    (state : ActualState) : List (Bool × String) :=
  let label := "actual state " ++ index.repr
  wrapped label
      [validateResultIdentity "actual-state resource id" state.resourceID,
        validateResultIdentity "actual-state kind" state.kind] ++
    [(!resourceStates.contains state.state,
      invalidJobResultEvidence (label ++ " has unsupported state"))] ++
    wrapped label
      (validateResultTimestamp "actual state" state.observedAt startedAt completedAt observedAt)

/-- The checks of one health record. -/
def healthChecks (startedAt completedAt observedAt : Time) (index : Nat) (health : Health) :
    List (Bool × String) :=
  let label := "health " ++ index.repr
  wrapped label [validateResultIdentity "health resource id" health.resourceID] ++
    [(!healthStatuses.contains health.status,
      invalidJobResultEvidence (label ++ " has unsupported status"))] ++
    wrapped label
      (validateResultTimestamp "health check" health.checkedAt startedAt completedAt observedAt)

/-- The identities of an audit event. The source walks over a map of them, in no fixed
order. -/
def auditIdentities (audit : AuditEvent) : List (String × String) :=
  [("audit id", audit.id), ("audit actor", audit.actor), ("audit action", audit.action),
    ("audit outcome", audit.outcome), ("audit correlation id", audit.correlationID)]

/-- The loop over the audit events, with the ids seen. -/
def auditChecks (startedAt completedAt observedAt : Time) :
    (index : Nat) → (seen : List String) → List AuditEvent → List (Bool × String)
  | _, _, [] => []
  | index, seen, audit :: rest =>
      let label := "audit event " ++ index.repr
      wrapped label ((auditIdentities audit).map fun (name, value) =>
          validateResultIdentity name value) ++
        wrapped label (if audit.resourceID = "" then []
          else [validateResultIdentity "audit resource id" audit.resourceID]) ++
        [(seen.contains audit.id,
          invalidJobResultEvidence ("duplicate audit event id " ++ quoted audit.id))] ++
        wrapped label
          (validateResultTimestamp "audit event" audit.occurredAt startedAt completedAt
            observedAt) ++
        auditChecks startedAt completedAt observedAt (index + 1) (audit.id :: seen) rest

def validateResultOutput (output : Output) (startedAt completedAt observedAt : Time) :
    Except String Unit :=
  firstFailure
    ([(decide (maxJobResultEvidenceRecords < output.actualStates.length) ||
        decide (maxJobResultEvidenceRecords < output.health.length) ||
        decide (maxJobResultEvidenceRecords < output.auditEvents.length),
        invalidJobResultEvidence "output exceeds bounded review surface")] ++
      (output.actualStates.zipIdx.flatMap fun (state, index) =>
        actualStateChecks startedAt completedAt observedAt index state) ++
      (output.health.zipIdx.flatMap fun (health, index) =>
        healthChecks startedAt completedAt observedAt index health) ++
      auditChecks startedAt completedAt observedAt 0 [] output.auditEvents)

/-! ## The digest of the output -/

/-- The order of two observed states: every field counts. Raw bytes are compared as
numbers. -/
def actualStateRank (state : ActualState) :
    String ×ₗ String ×ₗ Time ×ₗ String ×ₗ String ×ₗ List Nat :=
  toLex (state.kind, toLex (state.resourceID, toLex (state.observedAt, toLex (state.state,
    toLex (state.revision, state.details.map UInt8.toNat)))))

def healthRank (health : Health) : String ×ₗ Time ×ₗ String ×ₗ String :=
  toLex (health.resourceID, toLex (health.checkedAt, toLex (health.status, health.message)))

def auditRank (audit : AuditEvent) : String ×ₗ Time := toLex (audit.id, audit.occurredAt)

/-- The output with its records in order. -/
def canonicalOutput (output : Output) : Output where
  actualStates := output.actualStates.insertionSort fun a b =>
    actualStateRank a ≤ actualStateRank b
  health := output.health.insertionSort fun a b => healthRank a ≤ healthRank b
  auditEvents := output.auditEvents.insertionSort fun a b => auditRank a ≤ auditRank b

/-- An instant, or the error of `json.Marshal`. -/
def marshalTime (t : Time) : Except String Bytes :=
  match Json.time t with
  | none => .error Json.timeError
  | some value => .ok value.bytes

/-- A raw member that is left out when it is empty. -/
def marshalDetails (details : RawMessage) : Except String (List (String × Bytes)) :=
  if details.isEmpty then .ok []
  else
    match Json.marshalRaw details with
    | none => .error Json.rawMessageError
    | some value => .ok [("details", value)]

/-- A text member. -/
def textMember (name text : String) : String × Bytes := (name, (Json.string text).bytes)

/-- A text member that is left out when it is empty. -/
def optionalMember (name text : String) : List (String × Bytes) :=
  if text = "" then [] else [textMember name text]

def marshalActualState (state : ActualState) : Except String Bytes := do
  let observedAt ← marshalTime state.observedAt
  let details ← marshalDetails state.details
  return Json.structBytes
    ([textMember "resourceId" state.resourceID, textMember "kind" state.kind,
      textMember "state" state.state, ("observedAt", observedAt)] ++
      optionalMember "revision" state.revision ++ details)

def marshalHealth (health : Health) : Except String Bytes := do
  let checkedAt ← marshalTime health.checkedAt
  return Json.structBytes
    ([textMember "resourceId" health.resourceID, textMember "status" health.status,
      ("checkedAt", checkedAt)] ++ optionalMember "message" health.message)

def marshalAuditEvent (audit : AuditEvent) : Except String Bytes := do
  let occurredAt ← marshalTime audit.occurredAt
  let details ← marshalDetails audit.details
  return Json.structBytes
    ([textMember "id" audit.id, ("occurredAt", occurredAt), textMember "actor" audit.actor,
      textMember "action" audit.action] ++ optionalMember "resourceId" audit.resourceID ++
      [textMember "outcome" audit.outcome, textMember "correlationId" audit.correlationID] ++
      details)

/-- `json.Marshal` of an output. -/
def marshalOutput (output : Output) : Except String Bytes := do
  let actualStates ← output.actualStates.mapM marshalActualState
  let health ← output.health.mapM marshalHealth
  let auditEvents ← output.auditEvents.mapM marshalAuditEvent
  return Json.structBytes
    [("actualStates", Json.sliceBytes actualStates), ("health", Json.sliceBytes health),
      ("auditEvents", Json.sliceBytes auditEvents)]

def digestResultOutput (output : Output) : Except String String :=
  match marshalOutput (canonicalOutput output) with
  | .error text => .error (invalidJobResultEvidence ("encode output evidence: " ++ text))
  | .ok payload => .ok (sha256Digest payload)

/-! ## The projection -/

/-- The rank of a health status. An unknown text has the rank of none. -/
def healthSeverity (status : String) : Nat :=
  if status = "healthy" then 1
  else if status = "unknown" then 2
  else if status = "degraded" then 3
  else if status = "failed" then 4
  else 0

def worseResultHealth (left right : String) : String :=
  if healthSeverity left < healthSeverity right then right else left

/-- The evidence before the output is read. -/
def JobResultEvidenceInput.evidence (input : JobResultEvidenceInput) : JobResultEvidence where
  contractVersion := jobResultEvidenceContractVersion
  changeID := input.change.id
  revisionID := input.change.revisionID
  revisionDigest := input.revisionDigest
  jobID := input.job.id
  actionName := input.job.actionName
  jobVersion := input.job.version
  outcome := input.job.status
  outputPresent := false
  outputDigest := ""
  actualStates := 0
  healthChecks := 0
  auditEvents := 0
  worstHealth := ""
  observedAt := input.observedAt

/-- The evidence with what it says of the output. -/
def JobResultEvidence.withOutput (evidence : JobResultEvidence) (output : Output)
    (digest : String) : JobResultEvidence :=
  { evidence with
    outputPresent := true
    outputDigest := digest
    actualStates := output.actualStates.length
    healthChecks := output.health.length
    auditEvents := output.auditEvents.length
    worstHealth := (output.health.map Health.status).foldl worseResultHealth
      evidence.worstHealth }

def buildJobResultEvidence (input : JobResultEvidenceInput) :
    Except String JobResultEvidence := do
  firstFailure input.checks
  match input.job.output with
  | none =>
      if input.job.status ≠ .cancelled then
        .error (invalidJobResultEvidence "terminal execution result is missing output evidence")
      else .ok input.evidence
  | some output => do
      validateResultOutput output input.job.createdAt input.job.updatedAt input.observedAt
      let digest ← digestResultOutput output
      return input.evidence.withOutput output digest

/-! ## When an output passes -/

/-- The text is trimmed, not empty and short. -/
def CanonicalIdentity (value : String) : Prop :=
  trimSpace value = value ∧ value ≠ "" ∧ value.utf8ByteSize ≤ maxJobResultEvidenceIdentifierLength

instance (value : String) : Decidable (CanonicalIdentity value) :=
  inferInstanceAs (Decidable (_ ∧ _ ∧ _))

@[simp] theorem validateResultIdentity_eq_false {name value : String} :
    (validateResultIdentity name value).1 = false ↔ CanonicalIdentity value := by
  simp only [validateResultIdentity, invalidResultIdentity, Bool.or_eq_false_iff,
    beq_eq_false_iff_ne, ne_eq, bne_eq_false_iff_eq, decide_eq_false_iff_not, not_lt,
    CanonicalIdentity]
  constructor
  · rintro ⟨⟨nonempty, trimmed⟩, short⟩
    exact ⟨trimmed, trimmed ▸ nonempty, short⟩
  · rintro ⟨trimmed, nonempty, short⟩
    exact ⟨⟨trimmed.symm ▸ nonempty, trimmed⟩, short⟩

/-- The instants an output carries. -/
def timestamps (output : Output) : List Time :=
  output.actualStates.map ActualState.observedAt ++ output.health.map Health.checkedAt ++
    output.auditEvents.map AuditEvent.occurredAt

/-- The raw members an output carries. -/
def rawDetails (output : Output) : List RawMessage :=
  output.actualStates.map ActualState.details ++ output.auditEvents.map AuditEvent.details

/-- What a worker may report between two instants: few records with canonical identities,
known states and distinct audit ids, all dated between the two. -/
structure Reported (output : Output) (startedAt completedAt : Time) : Prop where
  bounded : output.actualStates.length ≤ maxJobResultEvidenceRecords ∧
    output.health.length ≤ maxJobResultEvidenceRecords ∧
    output.auditEvents.length ≤ maxJobResultEvidenceRecords
  states : ∀ state ∈ output.actualStates, CanonicalIdentity state.resourceID ∧
    CanonicalIdentity state.kind ∧ state.state ∈ resourceStates
  health : ∀ health ∈ output.health, CanonicalIdentity health.resourceID ∧
    health.status ∈ healthStatuses
  audits : ∀ audit ∈ output.auditEvents,
    (∀ identity ∈ auditIdentities audit, CanonicalIdentity identity.2) ∧
      (audit.resourceID ≠ "" → CanonicalIdentity audit.resourceID)
  distinct : (output.auditEvents.map AuditEvent.id).Nodup
  dated : ∀ t ∈ timestamps output, startedAt ≤ t ∧ t ≤ completedAt

/-- A report stays one when the second instant moves on. -/
theorem Reported.mono {output : Output} {startedAt completedAt later : Time}
    (reported : Reported output startedAt completedAt) (le : completedAt ≤ later) :
    Reported output startedAt later :=
  { reported with
    dated := fun t listed => ⟨(reported.dated t listed).1, (reported.dated t listed).2.trans le⟩ }

/-- An instant passes the check of its time. -/
def TimestampPasses (startedAt completedAt value : Time) : Prop :=
  value ≠ 0 ∧ startedAt ≤ value ∧ value ≤ completedAt

theorem passes_wrapped {label : String} {checks : List (Bool × String)} :
    Passes (wrapped label checks) ↔ Passes checks := by
  simp [wrapped, Passes]

theorem passes_resultTimestamp {name : String} {value startedAt completedAt observedAt : Time}
    (observed : completedAt ≤ observedAt) :
    Passes (validateResultTimestamp name value startedAt completedAt observedAt) ↔
      TimestampPasses startedAt completedAt value := by
  simp only [validateResultTimestamp, passes_cons, passes_nil, and_true, Bool.or_eq_false_iff,
    decide_eq_false_iff_not, not_lt, Time.isZero, beq_eq_false_iff_ne, TimestampPasses]
  constructor
  · rintro ⟨set, started, completed, _⟩
    exact ⟨set, started, completed⟩
  · rintro ⟨set, started, completed⟩
    exact ⟨set, started, completed, completed.trans observed⟩

section Passes

variable {startedAt completedAt observedAt : Time}

theorem passes_actualState (observed : completedAt ≤ observedAt) (state : ActualState)
    (index : Nat) :
    Passes (actualStateChecks startedAt completedAt observedAt index state) ↔
      (CanonicalIdentity state.resourceID ∧ CanonicalIdentity state.kind ∧
        state.state ∈ resourceStates) ∧
      TimestampPasses startedAt completedAt state.observedAt := by
  simp only [actualStateChecks, passes_append, passes_cons, passes_nil, and_true, passes_wrapped,
    passes_resultTimestamp observed, validateResultIdentity_eq_false, Bool.not_eq_false',
    List.contains_iff_mem, and_assoc]

theorem passes_health (observed : completedAt ≤ observedAt) (health : Health) (index : Nat) :
    Passes (healthChecks startedAt completedAt observedAt index health) ↔
      (CanonicalIdentity health.resourceID ∧ health.status ∈ healthStatuses) ∧
      TimestampPasses startedAt completedAt health.checkedAt := by
  simp only [healthChecks, passes_append, passes_cons, passes_nil, and_true, passes_wrapped,
    passes_resultTimestamp observed, validateResultIdentity_eq_false, Bool.not_eq_false',
    List.contains_iff_mem]

/-- The loop passes when each event does, and when no id is seen before. -/
theorem passes_audits (observed : completedAt ≤ observedAt) {index : Nat} {seen : List String}
    {audits : List AuditEvent} :
    Passes (auditChecks startedAt completedAt observedAt index seen audits) ↔
      (∀ audit ∈ audits,
        ((∀ identity ∈ auditIdentities audit, CanonicalIdentity identity.2) ∧
          (audit.resourceID ≠ "" → CanonicalIdentity audit.resourceID)) ∧
        TimestampPasses startedAt completedAt audit.occurredAt) ∧
      (audits.map AuditEvent.id).Nodup ∧ ∀ audit ∈ audits, audit.id ∉ seen := by
  refine passes_unseen (fun _ _ => rfl) fun index seen audit rest => ?_
  have optional : Passes (if audit.resourceID = "" then []
      else [validateResultIdentity "audit resource id" audit.resourceID]) ↔
        (audit.resourceID ≠ "" → CanonicalIdentity audit.resourceID) := by
    split <;> simp_all
  simp only [auditChecks, passes_append, passes_wrapped, optional, passes_map,
    passes_resultTimestamp observed, passes_cons, passes_nil, and_true,
    validateResultIdentity_eq_false, List.contains_eq_mem, decide_eq_false_iff_not]
  exact and_congr_left fun _ => and_right_comm

/-- **An output passes when it is a report, and none of its instants is the zero time.** -/
theorem validateResultOutput_ok (observed : completedAt ≤ observedAt) {output : Output} :
    validateResultOutput output startedAt completedAt observedAt = .ok () ↔
      Reported output startedAt completedAt ∧ ∀ t ∈ timestamps output, t ≠ 0 := by
  rw [validateResultOutput, firstFailure_passes]
  simp only [passes_append, passes_cons, passes_nil, and_true,
    passes_zipIdx (passes_actualState observed), passes_zipIdx (passes_health observed),
    passes_audits observed, Bool.or_eq_false_iff, decide_eq_false_iff_not, not_lt]
  constructor
  · rintro ⟨⟨⟨⟨⟨s, h⟩, a⟩, states⟩, health⟩, audits, distinct, _⟩
    have timed : ∀ t ∈ timestamps output, TimestampPasses startedAt completedAt t := by
      simp only [timestamps, List.forall_mem_append, List.forall_mem_map]
      exact ⟨⟨fun state listed => (states state listed).2,
        fun record listed => (health record listed).2⟩, fun audit listed => (audits audit listed).2⟩
    exact ⟨⟨⟨s, h, a⟩, fun state listed => (states state listed).1,
      fun record listed => (health record listed).1, fun audit listed => (audits audit listed).1,
      distinct, fun t listed => (timed t listed).2⟩, fun t listed => (timed t listed).1⟩
  · rintro ⟨⟨⟨s, h, a⟩, states, health, audits, distinct, dated⟩, set⟩
    have timed : ∀ t ∈ timestamps output, TimestampPasses startedAt completedAt t :=
      fun t listed => ⟨set t listed, dated t listed⟩
    simp only [timestamps, List.forall_mem_append, List.forall_mem_map] at timed
    obtain ⟨⟨stateTimes, healthTimes⟩, auditTimes⟩ := timed
    exact ⟨⟨⟨⟨⟨s, h⟩, a⟩, fun state listed => ⟨states state listed, stateTimes state listed⟩⟩,
      fun record listed => ⟨health record listed, healthTimes record listed⟩⟩,
      fun audit listed => ⟨audits audit listed, auditTimes audit listed⟩, distinct, by simp⟩

end Passes

/-! ## When an output can be written -/

theorem succeeds_marshalTime {t : Time} : Succeeds (marshalTime t) ↔ Time.yearInRange t = true := by
  unfold marshalTime Json.time
  split <;> simp_all

theorem succeeds_marshalDetails {details : RawMessage} :
    Succeeds (marshalDetails details) ↔ details = [] ∨ Json.valid details = true := by
  unfold marshalDetails Json.marshalRaw
  split
  · simp_all
  · split <;> simp_all

/-- The instants have years of four digits, and the raw members are JSON. -/
def Encodable (output : Output) : Prop :=
  (∀ t ∈ timestamps output, Time.yearInRange t = true) ∧
    ∀ details ∈ rawDetails output, details = [] ∨ Json.valid details = true

theorem succeeds_marshalActualState {state : ActualState} :
    Succeeds (marshalActualState state) ↔ Time.yearInRange state.observedAt = true ∧
      (state.details = [] ∨ Json.valid state.details = true) := by
  rw [← succeeds_marshalTime, ← succeeds_marshalDetails]
  refine succeeds_bind_iff fun observedAt => ?_
  rw [succeeds_bind_iff (p := True) fun _ => by simp, and_true]

theorem succeeds_marshalHealth {health : Health} :
    Succeeds (marshalHealth health) ↔ Time.yearInRange health.checkedAt = true := by
  rw [← succeeds_marshalTime, marshalHealth, succeeds_bind_iff (p := True) fun _ => by simp,
    and_true]

theorem succeeds_marshalAuditEvent {audit : AuditEvent} :
    Succeeds (marshalAuditEvent audit) ↔ Time.yearInRange audit.occurredAt = true ∧
      (audit.details = [] ∨ Json.valid audit.details = true) := by
  rw [← succeeds_marshalTime, ← succeeds_marshalDetails]
  refine succeeds_bind_iff fun occurredAt => ?_
  rw [succeeds_bind_iff (p := True) fun _ => by simp, and_true]

theorem succeeds_marshalOutput {output : Output} :
    Succeeds (marshalOutput output) ↔ Encodable output := by
  have parts : Succeeds (marshalOutput output) ↔
      Succeeds (output.actualStates.mapM marshalActualState) ∧
        Succeeds (output.health.mapM marshalHealth) ∧
        Succeeds (output.auditEvents.mapM marshalAuditEvent) := by
    refine succeeds_bind_iff fun _ => succeeds_bind_iff fun _ => ?_
    rw [succeeds_bind_iff (p := True) fun _ => by simp, and_true]
  rw [parts]
  simp only [succeeds_mapM, succeeds_marshalActualState, succeeds_marshalHealth,
    succeeds_marshalAuditEvent, Encodable, timestamps, rawDetails, List.forall_mem_append,
    List.forall_mem_map, forall_and]
  tauto

/-- Sorting the records does not change which of them can be written. -/
theorem encodable_canonicalOutput {output : Output} :
    Encodable (canonicalOutput output) ↔ Encodable output := by
  simp only [Encodable, timestamps, rawDetails, canonicalOutput, List.forall_mem_append,
    List.forall_mem_map, List.mem_insertionSort]

theorem succeeds_digestResultOutput {output : Output} :
    Succeeds (digestResultOutput output) ↔ Encodable output := by
  rw [← encodable_canonicalOutput, ← succeeds_marshalOutput, digestResultOutput]
  split <;> simp_all

/-! ## What a run stores -/

/-- The job an operation reports an output for, and the output. -/
def jobReport : JobOp String → Option (String × Output)
  | .succeed _ id _ output _ | .fail _ id _ _ output _ _ => some (id, output)
  | .create .. | .claim .. | .renewLease .. | .requestCancel .. | .requestCancelIfVersion .. =>
      none

def report : Op → Option (String × Output)
  | .job op => jobReport op
  | .createManualRetry .. => none

/-- The output that the operation reports, if any, is one for its job: its instants lie
between the creation of the job and the call. -/
def ReportsInTime (event : Event MemoryManualRetryRepository Op Reply) : Prop :=
  ∀ id output, report event.op = some (id, output) → ∀ job, event.before.job id = some job →
    Reported output job.createdAt event.op.time

/-- A transition keeps the output or stores the one its operation reports. -/
theorem transition_output {op : JobOp String} {reply : Reply} {job job' : Job}
    (moves : Transition op reply job job') :
    job'.output = job.output ∨
      ∃ output, jobReport op = some (job.id, output) ∧ job'.output = some output := by
  have cancelled : ∀ now, (job.cancel now).output = job.output := by
    intro now
    unfold Job.cancel
    split <;> rfl
  cases moves with
  | cancelExpired | failExhausted | startAttempt | renew => exact .inl rfl
  | complete =>
      unfold Job.complete
      split
      · exact .inl rfl
      · exact .inr ⟨_, rfl, rfl⟩
  | failAttempt =>
      refine .inr ⟨_, rfl, ?_⟩
      unfold Job.failAttempt
      dsimp only
      split
      · rfl
      · split <;> rfl
  | cancel | cancelIfVersion => exact .inl (cancelled _)

/-- What the operations of a run at non-decreasing times leave of a job: it is written no
earlier than created, at the time of one of the operations, and its output is one that was
reported for it in time. -/
structure Recorded (ops : List Op) (job : Job) : Prop where
  created : job.createdAt ≠ 0
  ordered : job.createdAt ≤ job.updatedAt
  written : ∃ op ∈ ops, job.updatedAt = op.time
  reported : ∀ output, job.output = some output →
    Reported output job.createdAt job.updatedAt

theorem Recorded.transition {ops : List Op} {op : JobOp String} {reply : Reply} {job job' : Job}
    (recorded : Recorded ops job) (moves : Transition op reply job job')
    (later : job.updatedAt ≤ op.time)
    (inTime : ∀ output, jobReport op = some (job.id, output) →
      Reported output job.createdAt op.time) :
    Recorded (ops ++ [.job op]) job' := by
  have origin := moves.sameOrigin.createdAt
  have time := moves.updatedAt.1
  refine ⟨origin ▸ recorded.created, ?_, ⟨.job op, by simp, time⟩, ?_⟩
  · rw [origin, time]
    exact recorded.ordered.trans later
  · intro output stored
    rw [origin, time]
    rcases transition_output moves with kept | ⟨new, reports, stores⟩
    · exact (recorded.reported output (kept ▸ stored)).mono later
    · cases stores.symm.trans stored
      exact inTime output reports

/-- **What a run stores of a job.** -/
theorem exec_recorded (ops : List Op) (ordered : (ops.map Op.time).Pairwise (· ≤ ·))
    (reports : ∀ event ∈ memoryMachine.trace .new ops, ReportsInTime event) (id : String)
    (job : Job) (found : (memoryMachine.exec .new ops).job id = some job) :
    Recorded ops job := by
  induction ops using List.reverseRecOn generalizing job with
  | nil => cases found
  | append_singleton ops op ih =>
      rw [List.map_append, List.pairwise_append] at ordered
      obtain ⟨earlier, _, last⟩ := ordered
      rw [Machine.trace_concat, List.forall_mem_append] at reports
      have inTime : ReportsInTime (memoryMachine.event (memoryMachine.exec .new ops) op) :=
        reports.2 _ (by simp)
      have ih := ih earlier reports.1
      rw [Machine.exec_concat] at found
      have effect := machine_effect (exec_sound ops) op id
      rw [found] at effect
      cases held : (memoryMachine.exec .new ops).job id with
      | none =>
          obtain ⟨request, rfl, time, set⟩ := machine_created (exec_sound ops) held found
          refine ⟨set, le_refl request.now, ⟨op, by simp, time⟩, ?_⟩
          rintro output ⟨⟩
      | some before =>
          rw [held] at effect
          cases effect with
          | same _ =>
              obtain ⟨created, since, ⟨writer, member, time⟩, reported⟩ := ih job held
              exact ⟨created, since, ⟨writer, by simp [member], time⟩, reported⟩
          | @moves jobOp _ _ isJob own moves =>
              subst isJob
              obtain ⟨writer, member, time⟩ := (ih before held).written
              refine (ih before held).transition moves ?_ ?_
              · rw [time]
                exact last _ (List.mem_map_of_mem member) _ (by simp [Op.time])
              · intro output reported
                exact inTime id output (own ▸ reported) before held

/-! ## The evidence of a finished job -/

/-- The change is that of the job: its identities are canonical, it is bound to the job and
has ended as the job did. -/
structure EndsWith (change : Snapshot) (job : Job) : Prop where
  id : CanonicalIdentity change.id
  revisionID : CanonicalIdentity change.revisionID
  action : CanonicalIdentity change.action
  bound : job.changeID = change.id ∧ job.actionName = change.action
  state : terminalChangeState job.status = some change.state

/-- What the projection asks of its input beyond what a run and a change of the job
guarantee. -/
structure JobResultEvidenceInput.Complete (input : JobResultEvidenceInput) : Prop where
  digest : validResultDigest input.revisionDigest = true
  jobID : CanonicalIdentity input.job.id
  change : input.change.version ≠ 0 ∧ input.change.updatedAt ≠ 0
  version : input.job.version ≠ 0
  observed : input.observedAt ≠ 0
  output : ∀ output, input.job.output = some output →
    (∀ t ∈ timestamps output, t ≠ 0) ∧ Encodable output

theorem passes_checks (input : JobResultEvidenceInput) (ends : EndsWith input.change input.job)
    (wellFormed : input.job.WellFormed) {ops : List Op} (recorded : Recorded ops input.job)
    (written : input.job.updatedAt ≠ 0)
    (changeObserved : input.change.updatedAt ≤ input.observedAt)
    (jobObserved : input.job.updatedAt ≤ input.observedAt) :
    Passes input.checks ↔ validResultDigest input.revisionDigest = true ∧
      CanonicalIdentity input.job.id ∧ (input.change.version ≠ 0 ∧ input.change.updatedAt ≠ 0) ∧
      input.job.version ≠ 0 ∧ input.observedAt ≠ 0 := by
  have attempts : ¬ input.job.maxAttempts ≤ 0 := by
    have := wellFormed.positive
    omega
  have nonneg := wellFormed.attempt_nonneg
  have bounded := wellFormed.attempt_le
  have matching : (validateTerminalResultState input.change.state input.job.status).1 = false := by
    simp [validateTerminalResultState, ends.state]
  simp only [JobResultEvidenceInput.checks, passes_cons, passes_nil, and_true,
    validateResultIdentity_eq_false, matching, ends.id, ends.revisionID, ends.action, ends.bound.1,
    ends.bound.2, Bool.or_eq_false_iff, decide_eq_false_iff_not, not_lt, Time.isZero,
    beq_eq_false_iff_ne, bne_self_eq_false, Bool.not_eq_false', attempts, nonneg, bounded, written,
    recorded.created, recorded.ordered, changeObserved, jobObserved, true_and, and_true, ne_eq,
    not_false_eq_true]

/-- When the projection succeeds. -/
theorem succeeds_buildJobResultEvidence (input : JobResultEvidenceInput) :
    Succeeds (buildJobResultEvidence input) ↔ Passes input.checks ∧
      (input.job.status = .cancelled ∨ input.job.output.isSome = true) ∧
      ∀ output, input.job.output = some output →
        validateResultOutput output input.job.createdAt input.job.updatedAt input.observedAt =
          .ok () ∧ Encodable output := by
  rw [buildJobResultEvidence, succeeds_bind_iff fun _ => Iff.rfl, succeeds_unit,
    firstFailure_passes]
  refine and_congr_right fun _ => ?_
  cases input.job.output with
  | none =>
      by_cases cancelled : input.job.status = .cancelled
      · simp [cancelled]
      · simp [cancelled]
  | some output =>
      have written : ∀ digest, Succeeds (pure (input.evidence.withOutput output digest) :
          Except String JobResultEvidence) ↔ True := by simp
      rw [succeeds_bind_iff fun _ => succeeds_bind_iff written, succeeds_unit,
        succeeds_digestResultOutput]
      simp

/-- **The evidence of a finished job.** After every run of the job repository at
non-decreasing times whose outputs were reported in time, for every change that ended with a
finished job and at every instant not before either: the projection succeeds exactly when the
job was cancelled or has an output, and the input is complete. -/
theorem job_result_evidence_iff (ops : List Op) (ordered : (ops.map Op.time).Pairwise (· ≤ ·))
    (reports : ∀ event ∈ memoryMachine.trace .new ops, ReportsInTime event) (id : String)
    (job : Job) (found : (memoryMachine.exec .new ops).job id = some job) (change : Snapshot)
    (ends : EndsWith change job) (revisionDigest : String) (observedAt : Time)
    (changeObserved : change.updatedAt ≤ observedAt) (jobObserved : job.updatedAt ≤ observedAt) :
    Succeeds (buildJobResultEvidence ⟨change, job, revisionDigest, observedAt⟩) ↔
      (job.status = .cancelled ∨ job.output.isSome = true) ∧
        JobResultEvidenceInput.Complete ⟨change, job, revisionDigest, observedAt⟩ := by
  have recorded := exec_recorded ops ordered reports id job found
  have checks := passes_checks ⟨change, job, revisionDigest, observedAt⟩ ends
    ((exec_sound ops).wellFormed id job found) recorded (exec_timed ops id job found)
    changeObserved jobObserved
  rw [succeeds_buildJobResultEvidence, checks]
  constructor
  · rintro ⟨⟨digest, jobID, changed, version, observed⟩, present, stored⟩
    refine ⟨present, digest, jobID, changed, version, observed, fun output held => ?_⟩
    obtain ⟨valid, encodable⟩ := stored output held
    exact ⟨((validateResultOutput_ok jobObserved).mp valid).2, encodable⟩
  · rintro ⟨present, digest, jobID, changed, version, observed, stored⟩
    refine ⟨⟨digest, jobID, changed, version, observed⟩, present, fun output held => ?_⟩
    obtain ⟨set, encodable⟩ := stored output held
    exact ⟨(validateResultOutput_ok jobObserved).mpr ⟨recorded.reported output held, set⟩,
      encodable⟩

/-! ## A lost last attempt -/

/-- A revision digest in its canonical form. -/
def zeroDigest : String := "sha256:" ++ String.ofList (List.replicate 64 '0')

/-- A change of the job, in the state it ended in. -/
def endedChange (state : State) : Snapshot where
  id := "change-1"
  action := "restart"
  requester := "operator"
  revisionID := "rev-1"
  risk := .low
  state := state
  decision := ⟨.allow, .low, "routine", ⟨0, "", false, false⟩, "policy-1"⟩
  approvals := []
  version := 4
  updatedAt := 3000000040

/-- The one attempt of a job is claimed and lost. The next claim finds its lease run out. -/
def lostRun : List Op :=
  [.job (.create .background ⟨"job-1", "change-1", "restart", utf8 "\x7b\x7d", "key-1", 1, 10⟩),
    .job (.claim .background "worker" 20 second),
    .job (.claim .background "worker" 3000000030 second)]

theorem lost_attempt_has_no_evidence :
    (lostRun.map Op.time).Pairwise (· ≤ ·) ∧ (∀ op ∈ lostRun, report op = none) ∧
      ∃ job, (memoryMachine.exec .new lostRun).job "job-1" = some job ∧
        job.status = .failed ∧ EndsWith (endedChange .failed) job ∧
        job.updatedAt ≤ 3000000040 ∧
        buildJobResultEvidence ⟨endedChange .failed, job, zeroDigest, 3000000040⟩ =
          .error (invalidJobResultEvidence
            "terminal execution result is missing output evidence") := by
  have facts : ((memoryMachine.exec .new lostRun).job "job-1").any (fun job =>
      decide (job.status = .failed ∧ job.changeID = "change-1" ∧ job.actionName = "restart" ∧
        job.updatedAt ≤ 3000000040 ∧
        buildJobResultEvidence ⟨endedChange .failed, job, zeroDigest, 3000000040⟩ =
          .error (invalidJobResultEvidence
            "terminal execution result is missing output evidence"))) = true := by
    decide +kernel
  refine ⟨by decide +kernel, by decide +kernel, ?_⟩
  obtain ⟨job, found, holds⟩ := (Option.any_eq_true _ _).mp facts
  obtain ⟨failed, changeID, actionName, observed, refused⟩ := of_decide_eq_true holds
  refine ⟨job, found, failed, ⟨by decide +kernel, by decide +kernel, by decide +kernel,
    ⟨changeID, actionName⟩, ?_⟩, observed, refused⟩
  rw [failed]
  rfl

/-- A job whose worker reports one healthy resource. -/
def reportedOutput : Output := ⟨[], [⟨"db-1", "healthy", 25, ""⟩], []⟩

/-- The claim of the job, and its token. -/
def claimedRun : List Op := lostRun.take 2

def claimedToken : String :=
  (((memoryMachine.exec .new claimedRun).job "job-1").bind Job.lease).elim "" Lease.token

def reportedRun : List Op :=
  claimedRun ++ [.job (.succeed .background "job-1" claimedToken reportedOutput 30)]

/-- The only report of the run is made while the job is under way. -/
theorem reportedRun_inTime :
    ∀ event ∈ memoryMachine.trace .new reportedRun, ReportsInTime event := by
  have silent : ∀ op ∈ claimedRun, report op = none := by decide +kernel
  have created : ((memoryMachine.exec .new claimedRun).job "job-1").map Job.createdAt =
      some 10 := by decide +kernel
  have inTime : Reported reportedOutput 10 30 :=
    ⟨by decide, by decide, by decide +kernel, by decide, by decide, by decide⟩
  rw [reportedRun, Machine.trace_concat, List.forall_mem_append]
  constructor
  · intro event member id output reports
    obtain ⟨earlier, op, later, split, rfl⟩ := Machine.mem_trace.mp member
    cases (silent op (by simp [split])).symm.trans reports
  · intro event member id output reports job held
    cases List.mem_singleton.mp member
    cases reports
    change (memoryMachine.exec .new claimedRun).job "job-1" = some job at held
    rw [held, Option.map_some, Option.some.injEq] at created
    rw [created]
    exact inTime

theorem job_result_evidence_reported :
    ∃ job, (memoryMachine.exec .new reportedRun).job "job-1" = some job ∧
      Succeeds (buildJobResultEvidence ⟨endedChange .succeeded, job, zeroDigest, 3000000040⟩) := by
  have facts : ((memoryMachine.exec .new reportedRun).job "job-1").any (fun job =>
      decide (job.id = "job-1" ∧ job.status = .succeeded ∧ job.changeID = "change-1" ∧
        job.actionName = "restart" ∧ job.updatedAt = 30 ∧ job.version = 3 ∧
        job.output = some reportedOutput)) = true := by
    decide +kernel
  obtain ⟨job, found, holds⟩ := (Option.any_eq_true _ _).mp facts
  obtain ⟨id, status, changeID, actionName, updatedAt, version, output⟩ :=
    of_decide_eq_true holds
  have named : ∀ name ∈ ["job-1", "change-1", "rev-1", "restart"], CanonicalIdentity name := by
    decide +kernel
  have digest : validResultDigest zeroDigest = true := by decide +kernel
  have written : Encodable reportedOutput := ⟨by decide +kernel, by decide⟩
  have ends : EndsWith (endedChange .succeeded) job :=
    ⟨named _ (by decide), named _ (by decide), named _ (by decide), ⟨changeID, actionName⟩,
      status ▸ rfl⟩
  refine ⟨job, found, (job_result_evidence_iff reportedRun (by decide +kernel) reportedRun_inTime
    "job-1" job found (endedChange .succeeded) ends zeroDigest 3000000040 (by decide)
    (updatedAt ▸ by decide)).mpr ⟨.inr (output ▸ rfl), ?_⟩⟩
  refine ⟨digest, id ▸ named _ (by decide), ⟨by simp [endedChange], by simp [endedChange]⟩,
    version ▸ by decide, by simp, fun stored same => ?_⟩
  cases output.symm.trans same
  exact ⟨by decide, written⟩

end ControlCenter.Orchestration.OperationsView
