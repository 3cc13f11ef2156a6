import ControlCenter.Library.Best
import ControlCenter.Library.Marshal
import ControlCenter.Recovery.GraphProperties
import Mathlib.Data.List.Sort
import Mathlib.Data.Prod.Lex

/-!
# Freshness of restore drills

`internal/recovery/restore_drill_freshness.go` and the three files of its snapshots: how recent
the newest verified drill of a target is. One function selects the drill and reads a snapshot,
one checks a snapshot on its own, and two read again and compare.

What is read can be read again (`freshness_snapshot_reproducible`), with one gap: the validator
asks the version of the restore to be an identifier, while the metadata of an object admits any
opaque text (`snapshot_of_opaque_version_refused`). The zero time is the other corner: instants
are cut to whole seconds, and an instant of the first second of year one becomes unset.
-/

set_option autoImplicit false

namespace ControlCenter.Recovery

open Library CoreContracts

def restoreDrillFreshnessSchemaVersion : String := "recovery.restore-drill-freshness/v1"

def restoreDrillFreshnessSnapshotSchemaVersion : String :=
  "recovery.restore-drill-freshness-snapshot/v1"

/-- A second, in nanoseconds. -/
def second : Duration := 1000000000

/-- A year of 365 days. -/
def maxRestoreDrillFreshnessWindow : Duration := 365 * 24 * 3600 * second

/-- `Truncate(time.Second)`, which rounds down from the zero time also before it. -/
def truncateSecond (t : Time) : Time := t - t % 1000000000

/-- `uint64(age / time.Second)`. -/
def wholeSeconds (age : Duration) : UInt64 := (age / second).toUInt64

/-- `time.Duration(seconds) * time.Second`. -/
def durationOfSeconds (seconds : UInt64) : Duration := seconds.toInt64 * second

/-- The age is not of whole seconds within the window. -/
def unsupportedMaxAge (maxAge : Duration) : Bool :=
  decide (maxAge ≤ 0) || decide (maxRestoreDrillFreshnessWindow < maxAge) || maxAge % second != 0

/-! ## Assessments -/

inductive RestoreDrillFreshnessState where
  | fresh
  | stale
  deriving DecidableEq

def RestoreDrillFreshnessState.text : RestoreDrillFreshnessState → String
  | .fresh => "FRESH"
  | .stale => "STALE"

structure RestoreDrillFreshnessAssessment where
  schemaVersion : String
  assessmentID : String
  restoreID : String
  target : ObjectReference
  verifiedAt : Time
  checkedAt : Time
  validUntil : Time
  maxAgeSeconds : UInt64
  state : RestoreDrillFreshnessState
  advisoryOnly : Bool
  productionMutation : Bool
  deriving DecidableEq

def objectReferencePayload (reference : ObjectReference) : Json :=
  .record [
    ("kind", .string reference.kind.text),
    ("object_id", .string reference.objectID),
    ("scope_id", .string reference.scopeID),
    ("statefulness", .string reference.statefulness.text)]

/-- The document of an assessment. An instant outside the years 0 to 9999 has none. -/
def restoreDrillFreshnessPayload (a : RestoreDrillFreshnessAssessment) : Option Json := do
  let verifiedAt ← Json.time a.verifiedAt
  let checkedAt ← Json.time a.checkedAt
  let validUntil ← Json.time a.validUntil
  return .record [
    ("schema_version", .string a.schemaVersion),
    ("restore_id", .string a.restoreID),
    ("target", objectReferencePayload a.target),
    ("verified_at", verifiedAt),
    ("checked_at", checkedAt),
    ("valid_until", validUntil),
    ("max_age_seconds", .nat a.maxAgeSeconds.toNat),
    ("state", .string a.state.text),
    ("advisory_only", .bool a.advisoryOnly),
    ("production_mutation", .bool a.productionMutation)]

/-- The name of a document: the first digits of its hash. -/
def assessmentName (payload : Json) : String :=
  "rdf-" ++ String.ofList ((sha256Hex payload.bytes).toList.take 24)

def restoreDrillFreshnessAssessmentIdentity (a : RestoreDrillFreshnessAssessment) :
    Except String String :=
  match restoreDrillFreshnessPayload a with
  | none => .error Json.timeError
  | some payload => .ok (assessmentName payload)

/-- When an isolated drill that succeeded was verified. -/
def RestoreMetadata.drillVerifiedAt (r : RestoreMetadata) : Option Time :=
  if r.mode = .isolatedDrill ∧ r.state = .succeeded ∧ r.verification.outcome = .passed then
    r.verification.verifiedAt
  else none

/-- The assessment of a drill before it is named. The instants are cut to whole seconds. -/
def unnamedAssessment (restore : RestoreMetadata) (maxAge : Duration)
    (verifiedAt checkedAt : Time) : RestoreDrillFreshnessAssessment where
  schemaVersion := restoreDrillFreshnessSchemaVersion
  assessmentID := ""
  restoreID := restore.objectID
  target := restore.target
  verifiedAt := verifiedAt
  checkedAt := checkedAt
  validUntil := Time.add verifiedAt maxAge
  maxAgeSeconds := wholeSeconds maxAge
  state := if checkedAt < Time.add verifiedAt maxAge then .fresh else .stale
  advisoryOnly := true
  productionMutation := false

def evaluateRestoreDrillFreshness (restore : RestoreMetadata) (maxAge : Duration)
    (checkedAt : Time) : Except String RestoreDrillFreshnessAssessment := do
  (validateRestoreMetadata restore).mapError fun e =>
    "restore drill freshness: invalid restore metadata: " ++ e.text
  match restore.drillVerifiedAt with
  | none => .error "restore drill freshness: a successful verified isolated drill is required"
  | some verifiedAt =>
      firstFailure
        [(unsupportedMaxAge maxAge,
            "restore drill freshness: max age must be whole seconds within (0,365d]"),
          (Time.isZero checkedAt, "restore drill freshness: checked_at is required"),
          (decide (truncateSecond checkedAt < truncateSecond verifiedAt),
            "restore drill freshness: checked_at precedes verified_at")]
      let result :=
        unnamedAssessment restore maxAge (truncateSecond verifiedAt) (truncateSecond checkedAt)
      let assessmentID ← (restoreDrillFreshnessAssessmentIdentity result).mapError fun e =>
        "restore drill freshness: encode identity: " ++ e
      return { result with assessmentID := assessmentID }

/-! ## Evidence -/

/-- The order of two references: every field counts. -/
def evidenceRank (reference : EvidenceReference) :
    String ×ₗ String ×ₗ String ×ₗ String ×ₗ Time :=
  toLex (reference.id, toLex (reference.kind.text, toLex (reference.reference,
    toLex (reference.digest, reference.recordedAt))))

def evidencePayload (reference : EvidenceReference) : Option Json :=
  (Json.time reference.recordedAt).map fun recordedAt => .record [
    ("id", .string reference.id),
    ("kind", .string reference.kind.text),
    ("reference", .string reference.reference),
    ("digest", .string reference.digest),
    ("recorded_at", recordedAt)]

def digestRestoreVerificationEvidence (evidence : List EvidenceReference) :
    Except String String :=
  let canonical := evidence.insertionSort fun a b => evidenceRank a ≤ evidenceRank b
  match canonical.mapM evidencePayload with
  | none => .error
      ("restore drill evidence binding: encode verification evidence: " ++ Json.timeError)
  | some items => .ok (sha256Digest (Json.arr items).bytes)

/-! ## Snapshots -/

/-- The states of a snapshot, and texts that name none. -/
inductive RestoreDrillFreshnessSnapshotState where
  | fresh
  | stale
  | unverifiable
  | other (text : String)
  deriving DecidableEq

structure RestoreDrillFreshnessSnapshot where
  schemaVersion : String
  target : ObjectReference
  state : RestoreDrillFreshnessSnapshotState
  restoreID : String
  restoreResourceVersion : String
  restoreGeneration : UInt64
  assessmentID : String
  verifiedAt : Option Time
  checkedAt : Time
  validUntil : Option Time
  maxAgeSeconds : UInt64
  verificationEvidenceDigest : String
  reason : String
  advisoryOnly : Bool
  productionMutation : Bool
  deriving DecidableEq

def snapshotError (text : String) : String := "restore drill freshness snapshot: " ++ text

/-- A drill with the instant of its verification in whole seconds. -/
abbrev Drill := RestoreMetadata × Time

/-- A drill verified later, or at the same second with a smaller id. -/
def Drill.newer (candidate kept : Drill) : Bool :=
  decide (kept.2 < candidate.2) ||
    (candidate.2 == kept.2 && decide (candidate.1.objectID < kept.1.objectID))

/-- The restore as evidence for the target at an instant. -/
def freshnessEvidence (target : ObjectReference) (checkedAt : Time) (restore : RestoreMetadata) :
    Option Drill :=
  if restore.target ≠ target then none
  else if validateRestoreMetadata restore ≠ .ok () then none
  else
    match restore.drillVerifiedAt with
    | none => none
    | some verifiedAt =>
        if checkedAt < truncateSecond verifiedAt then none
        else some (restore, truncateSecond verifiedAt)

/-- One turn of the loop. -/
def selectDrill (target : ObjectReference) (checkedAt : Time) (selected : Option Drill)
    (restore : RestoreMetadata) : Option Drill :=
  match freshnessEvidence target checkedAt restore with
  | none => selected
  | some drill => pick Drill.newer selected drill

def latestDrill (restores : List RestoreMetadata) (target : ObjectReference) (checkedAt : Time) :
    Option Drill :=
  restores.foldl (selectDrill target checkedAt) none

/-- A snapshot that names no drill yet. -/
def snapshotBase (target : ObjectReference) (maxAge : Duration) (checkedAt : Time) :
    RestoreDrillFreshnessSnapshot where
  schemaVersion := restoreDrillFreshnessSnapshotSchemaVersion
  target := target
  state := .unverifiable
  restoreID := ""
  restoreResourceVersion := ""
  restoreGeneration := 0
  assessmentID := ""
  verifiedAt := none
  checkedAt := checkedAt
  validUntil := none
  maxAgeSeconds := wholeSeconds maxAge
  verificationEvidenceDigest := ""
  reason := ""
  advisoryOnly := true
  productionMutation := false

def noEvidenceReason : String :=
  "no valid successful verified isolated restore drill evidence for exact target"

/-- The snapshot of an assessed drill. -/
def assessedSnapshot (base : RestoreDrillFreshnessSnapshot) (selected : RestoreMetadata)
    (assessment : RestoreDrillFreshnessAssessment) (evidenceDigest : String) :
    RestoreDrillFreshnessSnapshot :=
  { base with
    restoreID := selected.objectID
    restoreResourceVersion := selected.resourceVersion
    restoreGeneration := selected.generation
    assessmentID := assessment.assessmentID
    verifiedAt := some assessment.verifiedAt
    validUntil := some assessment.validUntil
    verificationEvidenceDigest := evidenceDigest
    reason := ""
    state := if assessment.state = .fresh then .fresh else .stale }

def readLatestRestoreDrillFreshnessSnapshot (restores : List RestoreMetadata)
    (target : ObjectReference) (maxAge : Duration) (checkedAt : Time) :
    Except String RestoreDrillFreshnessSnapshot := do
  firstFailure
    (relabel (fun e => snapshotError ("invalid target: " ++ ValidationError.text e))
        (validateObjectReference "target" target) ++
      [(unsupportedMaxAge maxAge,
          snapshotError "max age must be whole seconds within (0,365d]"),
        (Time.isZero checkedAt, snapshotError "checked_at is required")])
  let checkedAt := truncateSecond checkedAt
  let base := snapshotBase target maxAge checkedAt
  match latestDrill restores target checkedAt with
  | none => return { base with reason := noEvidenceReason }
  | some (selected, _) =>
      let assessment ← (evaluateRestoreDrillFreshness selected maxAge checkedAt).mapError
        fun e => snapshotError ("evaluate selected restore: " ++ e)
      let evidenceDigest ←
        (digestRestoreVerificationEvidence selected.verification.evidence).mapError
          fun e => snapshotError ("digest verification evidence: " ++ e)
      return assessedSnapshot base selected assessment evidenceDigest

/-! ## Checking a snapshot -/

def RestoreDrillFreshnessSnapshot.commonChecks (s : RestoreDrillFreshnessSnapshot) :
    List (Bool × String) :=
  [(s.schemaVersion != restoreDrillFreshnessSnapshotSchemaVersion,
      snapshotError ("schema_version must be " ++ restoreDrillFreshnessSnapshotSchemaVersion))] ++
    relabel (fun e => snapshotError ("invalid target: " ++ ValidationError.text e))
      (validateObjectReference "target" s.target) ++
    [(s.maxAgeSeconds == 0 ||
        decide ((maxRestoreDrillFreshnessWindow / second).toUInt64 < s.maxAgeSeconds),
        snapshotError "max_age_seconds outside supported window"),
      (Time.isZero s.checkedAt, snapshotError "checked_at is required"),
      (s.checkedAt != truncateSecond s.checkedAt,
        snapshotError "checked_at must have whole-second precision"),
      (!s.advisoryOnly || s.productionMutation, snapshotError "unsafe authority flags")]

def RestoreDrillFreshnessSnapshot.unverifiableChecks (s : RestoreDrillFreshnessSnapshot) :
    List (Bool × String) :=
  [(trimSpace s.reason == "" || decide (512 < s.reason.utf8ByteSize),
      snapshotError "unverifiable state requires bounded reason"),
    (s.restoreID != "" || s.restoreResourceVersion != "" || s.restoreGeneration != 0 ||
        s.assessmentID != "" || s.verifiedAt.isSome || s.validUntil.isSome ||
        s.verificationEvidenceDigest != "",
      snapshotError "unverifiable state must not expose fabricated lineage")]

def RestoreDrillFreshnessSnapshot.lineageChecks (s : RestoreDrillFreshnessSnapshot) :
    List (Bool × String) :=
  [(s.reason != "", snapshotError "verified state must not carry unverifiable reason"),
    (!identifierPattern s.restoreID,
      snapshotError "restore_id must be a canonical identifier"),
    (!identifierPattern s.restoreResourceVersion,
      snapshotError "restore_resource_version must be canonical"),
    (s.restoreGeneration == 0, snapshotError "restore_generation must be positive"),
    (!identifierPattern s.assessmentID || !"rdf-".toList.isPrefixOf s.assessmentID.toList,
      snapshotError "assessment_id must be canonical restore freshness identity"),
    (!digestPattern s.verificationEvidenceDigest,
      snapshotError "invalid verification_evidence_digest")]

/-- The state of an assessment at the instant of the snapshot. -/
def RestoreDrillFreshnessSnapshot.expectedState (s : RestoreDrillFreshnessSnapshot)
    (validUntil : Time) : RestoreDrillFreshnessState :=
  if s.checkedAt < validUntil then .fresh else .stale

/-- The state of a snapshot for one of an assessment. -/
def RestoreDrillFreshnessState.snapshotState :
    RestoreDrillFreshnessState → RestoreDrillFreshnessSnapshotState
  | .fresh => .fresh
  | .stale => .stale

def RestoreDrillFreshnessSnapshot.timeChecks (s : RestoreDrillFreshnessSnapshot)
    (verifiedAt validUntil : Time) : List (Bool × String) :=
  [(Time.isZero verifiedAt || Time.isZero validUntil,
      snapshotError "verified timestamps must not be zero"),
    (verifiedAt != truncateSecond verifiedAt || validUntil != truncateSecond validUntil,
      snapshotError "verified timestamps must have whole-second precision"),
    (decide (s.checkedAt < verifiedAt), snapshotError "checked_at precedes verified_at"),
    (validUntil != Time.add verifiedAt (durationOfSeconds s.maxAgeSeconds),
      snapshotError "valid_until does not match verified_at plus max_age_seconds"),
    (s.state != (s.expectedState validUntil).snapshotState,
      snapshotError "state does not match checked_at freshness boundary")]

/-- The assessment that a snapshot stands for. -/
def RestoreDrillFreshnessSnapshot.assessment (s : RestoreDrillFreshnessSnapshot)
    (verifiedAt validUntil : Time) : RestoreDrillFreshnessAssessment where
  schemaVersion := restoreDrillFreshnessSchemaVersion
  assessmentID := ""
  restoreID := s.restoreID
  target := s.target
  verifiedAt := verifiedAt
  checkedAt := s.checkedAt
  validUntil := validUntil
  maxAgeSeconds := s.maxAgeSeconds
  state := s.expectedState validUntil
  advisoryOnly := s.advisoryOnly
  productionMutation := s.productionMutation

/-- The tests of a snapshot that names a drill. -/
def RestoreDrillFreshnessSnapshot.validateVerified (s : RestoreDrillFreshnessSnapshot) :
    Except String Unit := do
  firstFailure s.lineageChecks
  match s.verifiedAt, s.validUntil with
  | some verifiedAt, some validUntil =>
      firstFailure (s.timeChecks verifiedAt validUntil)
      let expectedAssessmentID ←
        (restoreDrillFreshnessAssessmentIdentity (s.assessment verifiedAt validUntil)).mapError
          fun e => snapshotError ("calculate assessment identity: " ++ e)
      firstFailure
        [(s.assessmentID != expectedAssessmentID,
          snapshotError "assessment_id does not match freshness claim")]
  | _, _ => .error (snapshotError "verified state requires verified_at and valid_until")

def validateRestoreDrillFreshnessSnapshot (s : RestoreDrillFreshnessSnapshot) :
    Except String Unit := do
  firstFailure s.commonChecks
  match s.state with
  | .unverifiable => firstFailure s.unverifiableChecks
  | .fresh | .stale => s.validateVerified
  | .other text => .error (snapshotError ("unsupported state " ++ quoted text))

def sameRestoreDrillFreshnessSnapshot (left right : RestoreDrillFreshnessSnapshot) : Bool :=
  left.schemaVersion == right.schemaVersion &&
    left.target == right.target &&
    left.state == right.state &&
    left.restoreID == right.restoreID &&
    left.restoreResourceVersion == right.restoreResourceVersion &&
    left.restoreGeneration == right.restoreGeneration &&
    left.assessmentID == right.assessmentID &&
    left.verifiedAt == right.verifiedAt &&
    left.checkedAt == right.checkedAt &&
    left.validUntil == right.validUntil &&
    left.maxAgeSeconds == right.maxAgeSeconds &&
    left.verificationEvidenceDigest == right.verificationEvidenceDigest &&
    left.reason == right.reason &&
    left.advisoryOnly == right.advisoryOnly &&
    left.productionMutation == right.productionMutation

/-- Read what a snapshot says once more. -/
def readAgain (restores : List RestoreMetadata) (s : RestoreDrillFreshnessSnapshot) :
    Except String RestoreDrillFreshnessSnapshot :=
  readLatestRestoreDrillFreshnessSnapshot restores s.target (durationOfSeconds s.maxAgeSeconds)
    s.checkedAt

def validateRestoreDrillFreshnessSnapshotCurrent (restore : RestoreMetadata)
    (s : RestoreDrillFreshnessSnapshot) : Except String Unit := do
  let refuse (text : String) : String :=
    "restore drill freshness snapshot current validation: " ++ text
  (validateRestoreDrillFreshnessSnapshot s).mapError fun e => refuse ("invalid snapshot: " ++ e)
  firstFailure
    [(s.state == .unverifiable, refuse "unverifiable snapshot has no exact restore lineage")]
  let expected ← (readAgain [restore] s).mapError fun e =>
    refuse ("current restore state is invalid: " ++ e)
  firstFailure
    [(expected.state == .unverifiable,
        refuse "current restore is not valid freshness evidence for the exact target"),
      (!sameRestoreDrillFreshnessSnapshot expected s,
        refuse "persisted snapshot does not match exact current restore evidence")]

def validateRestoreDrillFreshnessSnapshotLatestCurrent (restores : List RestoreMetadata)
    (s : RestoreDrillFreshnessSnapshot) : Except String Unit := do
  let refuse (text : String) : String :=
    "restore drill freshness latest-current validation: " ++ text
  (validateRestoreDrillFreshnessSnapshot s).mapError fun e => refuse ("invalid snapshot: " ++ e)
  let expected ← (readAgain restores s).mapError fun e =>
    refuse ("current restore set is invalid: " ++ e)
  firstFailure
    [(!sameRestoreDrillFreshnessSnapshot expected s,
      refuse "persisted snapshot is not the latest exact current restore evidence")]

/-! ## Whole seconds -/

/-- Whole seconds that are less than some seconds apart: so are the instants. -/
theorem sub_lt_of_truncateSecond_lt {t earlier seconds : Int}
    (apart : truncateSecond t < truncateSecond earlier + 1000000000 * seconds) :
    t - earlier < 1000000000 * seconds := by
  have apart : (t - t % 1000000000 : Int) < earlier - earlier % 1000000000 + 1000000000 * seconds :=
    apart
  omega

/-- A whole number of seconds later. -/
theorem truncateSecond_add (t : Time) (seconds : Int) :
    truncateSecond (t + 1000000000 * seconds) = truncateSecond t + 1000000000 * seconds := by
  simp only [truncateSecond, Int.add_mul_emod_self_left]
  exact Int.add_right_comm t (1000000000 * seconds) (-(t % 1000000000))

@[simp] theorem truncateSecond_truncateSecond (t : Time) :
    truncateSecond (truncateSecond t) = truncateSecond t := by
  have whole : truncateSecond t = 0 + 1000000000 * (t / 1000000000 : Int) := by
    rw [truncateSecond, Int.emod_def, Int.sub_sub_self, Int.zero_add]
  rw [whole, truncateSecond_add]
  rfl

theorem second_toInt : second.toInt = 1000000000 := by decide

variable {maxAge : Duration}

theorem wholeSeconds_eq {seconds : Nat} (age : maxAge.toInt = 1000000000 * seconds) :
    wholeSeconds maxAge = UInt64.ofNat seconds := by
  have quotient : maxAge / second = Int64.ofInt seconds := by
    apply Int64.toInt_inj.mp
    rw [Int64.toInt_div, age, second_toInt, Int.mul_tdiv_cancel_left _ (by decide),
      Int64.toInt_ofInt]
  rw [wholeSeconds, quotient]
  rfl

theorem durationOfSeconds_eq {seconds : Nat} (small : seconds ≤ 31536000)
    (age : maxAge.toInt = 1000000000 * seconds) :
    durationOfSeconds (UInt64.ofNat seconds) = maxAge := by
  have same : (UInt64.ofNat seconds).toInt64 = Int64.ofInt seconds := rfl
  apply Int64.toInt_inj.mp
  rw [durationOfSeconds, Int64.toInt_mul, age, second_toInt, same,
    Int64.toInt_ofInt_of_le (by omega) (by omega), Int.bmod_eq_of_le (by omega) (by omega),
    Int.mul_comm]

/-- A supported age in seconds. -/
theorem supported_age (supported : unsupportedMaxAge maxAge = false) :
    ∃ seconds : Nat, 0 < seconds ∧ seconds ≤ 31536000 ∧
      maxAge.toInt = 1000000000 * seconds := by
  simp only [unsupportedMaxAge, Bool.or_eq_false_iff, decide_eq_false_iff_not,
    bne_eq_false_iff_eq] at supported
  obtain ⟨⟨positive, bounded⟩, whole⟩ := supported
  have positive : 0 < maxAge.toInt := by
    have := mt Int64.le_iff_toInt_le.mpr positive
    simpa using this
  have bounded : maxAge.toInt ≤ 31536000000000000 := by
    have := mt Int64.lt_iff_toInt_lt.mpr bounded
    have window : maxRestoreDrillFreshnessWindow.toInt = 31536000000000000 := by decide
    omega
  have whole : maxAge.toInt % 1000000000 = 0 := by
    have remainder := congrArg Int64.toInt whole
    rw [Int64.toInt_mod, second_toInt, Int.tmod_eq_emod_of_nonneg positive.le] at remainder
    exact remainder
  refine ⟨(maxAge.toInt / 1000000000).toNat, ?_, ?_, ?_⟩
  all_goals omega

theorem durationOfSeconds_wholeSeconds (supported : unsupportedMaxAge maxAge = false) :
    durationOfSeconds (wholeSeconds maxAge) = maxAge := by
  obtain ⟨seconds, _, small, age⟩ := supported_age supported
  rw [wholeSeconds_eq age, durationOfSeconds_eq small age]

/-- The seconds of a supported age are within the window of a snapshot. -/
theorem wholeSeconds_within (supported : unsupportedMaxAge maxAge = false) :
    (wholeSeconds maxAge == 0 ||
      decide ((maxRestoreDrillFreshnessWindow / second).toUInt64 < wholeSeconds maxAge)) =
        false := by
  obtain ⟨seconds, positive, small, age⟩ := supported_age supported
  have window : (maxRestoreDrillFreshnessWindow / second).toUInt64.toNat = 31536000 := by decide
  have size : (UInt64.ofNat seconds).toNat = seconds :=
    UInt64.toNat_ofNat_of_lt' (lt_of_le_of_lt small (by decide))
  rw [wholeSeconds_eq age, Bool.or_eq_false_iff, beq_eq_false_iff_ne, decide_eq_false_iff_not,
    UInt64.lt_iff_toNat_lt, window, size]
  refine ⟨fun zero => ?_, by omega⟩
  rw [zero] at size
  exact absurd size (by simp; omega)

/-! ## Selection -/

theorem Drill.newer_irrefl (a : Drill) : a.newer a = false := by
  simp [Drill.newer]

theorem Drill.newer_iff {a b : Drill} :
    a.newer b = true ↔ b.2 < a.2 ∨ a.2 = b.2 ∧ a.1.objectID < b.1.objectID := by
  simp [Drill.newer]

theorem Drill.newer_trans (a b c : Drill) (first : a.newer b = true) (then_ : b.newer c = true) :
    a.newer c = true := by
  rw [newer_iff] at *
  rcases first with later | ⟨same, smaller⟩
  · rcases then_ with later' | ⟨same', _⟩
    · exact .inl (lt_trans later' later)
    · exact .inl (same' ▸ later)
  · rcases then_ with later' | ⟨same', smaller'⟩
    · exact .inl (same ▸ later')
    · exact .inr ⟨same.trans same', lt_trans smaller smaller'⟩

/-- What makes a restore evidence for a target. -/
structure RestoreMetadata.Evidences (r : RestoreMetadata) (target : ObjectReference)
    (checkedAt verifiedAt : Time) : Prop where
  target : r.target = target
  valid : r.Valid
  verified : ∃ verified, r.drillVerifiedAt = some verified ∧ verifiedAt = truncateSecond verified
  past : verifiedAt ≤ checkedAt

variable {target : ObjectReference} {checkedAt verifiedAt : Time} {r : RestoreMetadata}
  {restores : List RestoreMetadata}

theorem freshnessEvidence_eq {drill : Drill} : freshnessEvidence target checkedAt r = some drill ↔
      drill.1 = r ∧ r.Evidences target checkedAt drill.2 := by
  unfold freshnessEvidence
  by_cases other : r.target ≠ target
  · rw [if_pos other]
    exact ⟨nofun, fun ⟨_, evidence⟩ => absurd evidence.target other⟩
  rw [if_neg other]
  by_cases invalid : validateRestoreMetadata r ≠ .ok ()
  · rw [if_pos invalid]
    exact ⟨nofun, fun ⟨_, evidence⟩ => absurd (firstFailure_passes.mpr evidence.valid) invalid⟩
  rw [if_neg invalid]
  have valid : r.Valid := firstFailure_passes.mp (not_not.mp invalid)
  cases verified : r.drillVerifiedAt with
  | none =>
      refine ⟨nofun, fun ⟨_, evidence⟩ => ?_⟩
      obtain ⟨_, isVerified, _⟩ := evidence.verified
      rw [verified] at isVerified
      cases isVerified
  | some instant =>
      by_cases future : checkedAt < truncateSecond instant
      · simp only [if_pos future]
        refine ⟨nofun, fun ⟨_, evidence⟩ => ?_⟩
        obtain ⟨_, isVerified, same⟩ := evidence.verified
        cases verified.symm.trans isVerified
        exact absurd evidence.past (same ▸ not_le.mpr future)
      · simp only [if_neg future, Option.some.injEq]
        constructor
        · rintro rfl
          exact ⟨rfl, not_not.mp other, valid, ⟨instant, verified, rfl⟩, not_lt.mp future⟩
        · rintro ⟨rfl, evidence⟩
          obtain ⟨_, isVerified, same⟩ := evidence.verified
          cases verified.symm.trans isVerified
          exact Prod.ext rfl same.symm

/-- The restores of a list that are evidence for a target. -/
def evidenceDrills (restores : List RestoreMetadata) (target : ObjectReference)
    (checkedAt : Time) : List Drill :=
  restores.filterMap (freshnessEvidence target checkedAt)

theorem latestDrill_eq : latestDrill restores target checkedAt =
      (evidenceDrills restores target checkedAt).foldl (pick Drill.newer) none := by
  rw [evidenceDrills, List.foldl_filterMap, latestDrill]
  congr 1
  funext selected r
  rw [selectDrill]
  cases freshnessEvidence target checkedAt r <;> rfl

/-- **The selected drill is the newest one of the list.** -/
theorem latestDrill_best (restores : List RestoreMetadata) (target : ObjectReference)
    (checkedAt : Time) : Best Drill.newer (latestDrill restores target checkedAt)
      (evidenceDrills restores target checkedAt) := by
  rw [latestDrill_eq]
  exact Best.nil.foldl Drill.newer_irrefl Drill.newer_trans _

theorem latestDrill_some (selected : latestDrill restores target checkedAt = some (r, verifiedAt)) :
    r ∈ restores ∧ r.Evidences target checkedAt verifiedAt := by
  have listed := (latestDrill_best restores target checkedAt).listed _ selected
  obtain ⟨restore, member, evidence⟩ := List.mem_filterMap.mp listed
  obtain ⟨rfl, evidence⟩ := freshnessEvidence_eq.mp evidence
  exact ⟨member, evidence⟩

/-- A drill that was selected from a list is selected from itself. -/
theorem latestDrill_singleton (evidence : r.Evidences target checkedAt verifiedAt) :
    latestDrill [r] target checkedAt = some (r, verifiedAt) := by
  have single : freshnessEvidence target checkedAt r = some (r, verifiedAt) :=
    freshnessEvidence_eq.mpr ⟨rfl, evidence⟩
  simp only [latestDrill, List.foldl_cons, List.foldl_nil, selectDrill, single, pick]

/-- Restores with distinct ids can be compared, so their order does not matter. -/
theorem latestDrill_perm {restores' : List RestoreMetadata}
    (distinct : (restores.map fun r => r.objectID).Nodup) (perm : restores.Perm restores')
    (target : ObjectReference) (checkedAt : Time) :
    latestDrill restores target checkedAt = latestDrill restores' target checkedAt := by
  refine (latestDrill_best restores target checkedAt).unique
    (latestDrill_best restores' target checkedAt)
    (fun drill => (perm.filterMap _).mem_iff) ?_
  intro a listed b listed' different
  obtain ⟨r, member, evidence⟩ := List.mem_filterMap.mp listed
  obtain ⟨r', member', evidence'⟩ := List.mem_filterMap.mp listed'
  have unequal : r.objectID ≠ r'.objectID := by
    intro same
    have equal : r = r' := List.inj_on_of_nodup_map distinct member member' same
    rw [equal, evidence'] at evidence
    exact different (Option.some.inj evidence).symm
  obtain ⟨rfl, _⟩ := freshnessEvidence_eq.mp evidence
  obtain ⟨rfl, _⟩ := freshnessEvidence_eq.mp evidence'
  rw [Drill.newer_iff, Drill.newer_iff]
  rcases lt_trichotomy a.2 b.2 with earlier | same | later
  · exact .inr (.inl earlier)
  · rcases lt_or_gt_of_ne unequal with smaller | larger
    · exact .inl (.inr ⟨same, smaller⟩)
    · exact .inr (.inr ⟨same.symm, larger⟩)
  · exact .inl (.inl later)

/-! ## Reading -/

/-- What reading asks of its arguments. -/
structure Supported (target : ObjectReference) (maxAge : Duration) (checkedAt : Time) : Prop where
  target : Passes (validateObjectReference "target" target)
  maxAge : unsupportedMaxAge maxAge = false
  checked : checkedAt ≠ 0

/-- The snapshot of a target without a drill. -/
def unverifiableSnapshot (target : ObjectReference) (maxAge : Duration) (checkedAt : Time) :
    RestoreDrillFreshnessSnapshot :=
  { snapshotBase target maxAge checkedAt with reason := noEvidenceReason }

/-- The snapshot of a drill whose assessment and evidence have documents. -/
def drillSnapshot (r : RestoreMetadata) (maxAge : Duration) (verifiedAt checkedAt : Time)
    (payload : Json) (evidenceDigest : String) : RestoreDrillFreshnessSnapshot :=
  assessedSnapshot (snapshotBase r.target maxAge checkedAt) r
    { unnamedAssessment r maxAge verifiedAt checkedAt with
      assessmentID := assessmentName payload } evidenceDigest

section DrillSnapshot

variable {r : RestoreMetadata} {maxAge : Duration} {verifiedAt checkedAt : Time} {payload : Json}
  {evidenceDigest : String}

theorem drillSnapshot_verifiedAt :
    (drillSnapshot r maxAge verifiedAt checkedAt payload evidenceDigest).verifiedAt =
      some verifiedAt := rfl

theorem drillSnapshot_validUntil :
    (drillSnapshot r maxAge verifiedAt checkedAt payload evidenceDigest).validUntil =
      some (Time.add verifiedAt maxAge) := rfl

theorem drillSnapshot_state :
    (drillSnapshot r maxAge verifiedAt checkedAt payload evidenceDigest).state =
      if checkedAt < Time.add verifiedAt maxAge then .fresh else .stale := by
  simp only [drillSnapshot, assessedSnapshot, unnamedAssessment]
  by_cases recent : checkedAt < Time.add verifiedAt maxAge
  · simp only [recent, if_true]
  · simp only [recent, if_false, reduceCtorEq]

theorem drillSnapshot_names_drill :
    (drillSnapshot r maxAge verifiedAt checkedAt payload evidenceDigest).state = .fresh ∨
      (drillSnapshot r maxAge verifiedAt checkedAt payload evidenceDigest).state = .stale := by
  rw [drillSnapshot_state]
  split
  · exact .inl rfl
  · exact .inr rfl

end DrillSnapshot

theorem evaluateRestoreDrillFreshness_ok {a : RestoreDrillFreshnessAssessment}
    (evidence : r.Evidences target checkedAt verifiedAt)
    (supported : unsupportedMaxAge maxAge = false) (whole : truncateSecond checkedAt = checkedAt) :
    evaluateRestoreDrillFreshness r maxAge checkedAt = .ok a ↔
      checkedAt ≠ 0 ∧ ∃ payload,
        restoreDrillFreshnessPayload (unnamedAssessment r maxAge verifiedAt checkedAt) =
          some payload ∧
        a = { unnamedAssessment r maxAge verifiedAt checkedAt with
          assessmentID := assessmentName payload } := by
  obtain ⟨verified, isVerified, rfl⟩ := evidence.verified
  have past : ¬ checkedAt < truncateSecond verified := not_lt.mpr evidence.past
  rw [evaluateRestoreDrillFreshness, except_check_ok, mapError_ok]
  simp only [isVerified, whole]
  rw [except_check_ok, firstFailure_passes]
  simp only [passes_cons, passes_nil, supported, decide_eq_false_iff_not, past,
    not_false_eq_true, and_true, true_and, Time.isZero, beq_eq_false_iff_ne]
  have valid : validateRestoreMetadata r = .ok () := firstFailure_passes.mpr evidence.valid
  simp only [valid, true_and]
  refine and_congr_right fun _ => ?_
  rw [restoreDrillFreshnessAssessmentIdentity]
  cases document : restoreDrillFreshnessPayload
      (unnamedAssessment r maxAge (truncateSecond verified) checkedAt) with
  | none => simp [bind, Except.bind, Except.mapError]
  | some payload =>
      simp only [Except.mapError, bind, Except.bind, pure, Except.pure, Except.ok.injEq,
        Option.some.injEq, exists_eq_left']
      exact eq_comm

variable {s : RestoreDrillFreshnessSnapshot}

/-- **What is read**: the newest drill with its assessment, or that there is none. -/
theorem readLatest_ok :
    readLatestRestoreDrillFreshnessSnapshot restores target maxAge checkedAt = .ok s ↔
      Supported target maxAge checkedAt ∧
      match latestDrill restores target (truncateSecond checkedAt) with
      | none => s = unverifiableSnapshot target maxAge (truncateSecond checkedAt)
      | some (r, verifiedAt) => truncateSecond checkedAt ≠ 0 ∧ ∃ payload evidenceDigest,
          restoreDrillFreshnessPayload
            (unnamedAssessment r maxAge verifiedAt (truncateSecond checkedAt)) = some payload ∧
          digestRestoreVerificationEvidence r.verification.evidence = .ok evidenceDigest ∧
          s = drillSnapshot r maxAge verifiedAt (truncateSecond checkedAt) payload
            evidenceDigest := by
  have arguments : Passes
      (relabel (fun e => snapshotError ("invalid target: " ++ ValidationError.text e))
          (validateObjectReference "target" target) ++
        [(unsupportedMaxAge maxAge,
            snapshotError "max age must be whole seconds within (0,365d]"),
          (Time.isZero checkedAt, snapshotError "checked_at is required")]) ↔
      Supported target maxAge checkedAt := by
    simp only [passes_append, passes_relabel, passes_cons, passes_nil, and_true, Time.isZero,
      beq_eq_false_iff_ne]
    constructor
    · rintro ⟨target, age, checked⟩
      exact ⟨target, age, checked⟩
    · rintro ⟨target, age, checked⟩
      exact ⟨target, age, checked⟩
  rw [readLatestRestoreDrillFreshnessSnapshot, except_check_ok, firstFailure_passes, arguments]
  refine and_congr_right fun supported => ?_
  cases selected : latestDrill restores target (truncateSecond checkedAt) with
  | none =>
      simp only [selected, pure, Except.pure, Except.ok.injEq]
      exact eq_comm
  | some drill =>
      obtain ⟨r, verifiedAt⟩ := drill
      have evidence := (latestDrill_some selected).2
      have same := evidence.target
      simp only [selected, except_bind_ok, mapError_ok,
        evaluateRestoreDrillFreshness_ok evidence supported.maxAge
          (truncateSecond_truncateSecond checkedAt)]
      constructor
      · rintro ⟨_, ⟨checked, payload, document, rfl⟩, evidenceDigest, digest, read⟩
        refine ⟨checked, payload, evidenceDigest, document, digest, ?_⟩
        rw [drillSnapshot, same]
        exact (Except.ok.inj read).symm
      · rintro ⟨checked, payload, evidenceDigest, document, digest, rfl⟩
        refine ⟨_, ⟨checked, payload, document, rfl⟩, evidenceDigest, digest, ?_⟩
        rw [drillSnapshot, same]
        rfl

/-! ## What is read passes -/

/-- A digit of a hash. -/
theorem hexDigit {document : Bytes} {c : Char} (member : c ∈ (sha256Hex document).toList) :
    c.isAlphanum = true ∧ (c.isDigit || ('a' ≤ c && c ≤ 'f')) = true := by
  obtain ⟨n, small, rfl⟩ := hexEncode_digits member
  have digits : ∀ n < 16, (Nat.digitChar n).isAlphanum = true ∧
      ((Nat.digitChar n).isDigit || ('a' ≤ Nat.digitChar n && Nat.digitChar n ≤ 'f')) = true := by
    decide
  exact digits n small

theorem digestPattern_sha256Digest (document : Bytes) :
    digestPattern (sha256Digest document) = true := by
  have named : (sha256Digest document).toList =
      "sha256:".toList ++ (sha256Hex document).toList := by
    rw [sha256Digest, String.toList_append]
  have first : (sha256Digest document).toList.take 7 = "sha256:".toList := by
    rw [named]
    exact List.take_left' rfl
  have rest : (sha256Digest document).toList.drop 7 = (sha256Hex document).toList := by
    rw [named]
    exact List.drop_left' rfl
  rw [digestPattern, first, rest, sha256Hex_length, Bool.and_eq_true, List.all_eq_true]
  exact ⟨rfl, fun c member => (hexDigit member).2⟩

theorem assessmentName_toList (payload : Json) :
    (assessmentName payload).toList =
      'r' :: ['d', 'f', '-'] ++ (sha256Hex payload.bytes).toList.take 24 := by
  rw [assessmentName, String.toList_append]
  exact congrArg ("rdf-".toList ++ ·) String.toList_ofList

/-- A text of letters and digits after a start that the pattern admits. -/
theorem boundedPattern_of_alphanum {inner : Char → Bool} {value : String} {first : Char}
    {start digits : List Char} (spelled : value.toList = first :: start ++ digits)
    (letter : first.isAlphanum = true) (admitted : ∀ c ∈ start, inner c = true)
    (more : ∀ c, c.isAlphanum = true → inner c = true)
    (alphanum : ∀ c ∈ digits, c.isAlphanum = true) (nonempty : digits ≠ [])
    (short : (start ++ digits).length ≤ 254) : boundedPattern inner value = true := by
  have ends : (start ++ digits).getLast? = some (digits.getLast nonempty) := by
    rw [List.getLast?_append, List.getLast?_eq_some_getLast nonempty, Option.some_or]
  have chars : ∀ c ∈ (start ++ digits).dropLast, inner c = true := by
    intro c member
    rcases List.mem_append.mp (List.mem_of_mem_dropLast member) with early | late
    · exact admitted c early
    · exact more c (alphanum c late)
  rw [boundedPattern, spelled]
  simp only [List.cons_append, ends, letter, alphanum _ (List.getLast_mem nonempty),
    List.all_eq_true.mpr chars, short, decide_true, Bool.and_self]

theorem identifierPattern_assessmentName (payload : Json) :
    identifierPattern (assessmentName payload) = true := by
  have size : ((sha256Hex payload.bytes).toList.take 24).length = 24 := by
    rw [List.length_take, sha256Hex_length]
    rfl
  refine boundedPattern_of_alphanum (assessmentName_toList payload) (by decide)
    (List.all_eq_true.mp (by decide)) (fun c letter => ?_)
    (fun c member => (hexDigit (List.mem_of_mem_take member)).1) ?_ ?_
  · simp only [isIdentifierChar, letter, Bool.true_or]
  · intro empty
    rw [empty] at size
    cases size
  · rw [List.length_append, size]
    decide

/-- The corners in which a snapshot that was read does not pass: the restore has a version
that is no identifier, or an instant is the zero time once it is cut. -/
def Canonical (restores : List RestoreMetadata) (target : ObjectReference) (maxAge : Duration)
    (checkedAt : Time) : Prop :=
  match latestDrill restores target (truncateSecond checkedAt) with
  | none => truncateSecond checkedAt ≠ 0
  | some (r, verifiedAt) => identifierPattern r.resourceVersion = true ∧ verifiedAt ≠ 0 ∧
      Time.add verifiedAt maxAge ≠ 0

instance (restores : List RestoreMetadata) (target : ObjectReference) (maxAge : Duration)
    (checkedAt : Time) : Decidable (Canonical restores target maxAge checkedAt) := by
  unfold Canonical
  split <;> infer_instance

theorem passes_commonChecks
    (schema : s.schemaVersion = restoreDrillFreshnessSnapshotSchemaVersion)
    (same : s.target = target) (age : s.maxAgeSeconds = wholeSeconds maxAge)
    (checked : s.checkedAt = truncateSecond checkedAt) (advisory : s.advisoryOnly = true)
    (harmless : s.productionMutation = false) (supported : Supported target maxAge checkedAt) :
    Passes s.commonChecks ↔ truncateSecond checkedAt ≠ 0 := by
  simp only [RestoreDrillFreshnessSnapshot.commonChecks, schema, same, age, checked, advisory,
    harmless, wholeSeconds_within supported.maxAge, truncateSecond_truncateSecond, passes_append,
    passes_relabel, passes_cons, passes_nil, and_true, true_and, bne_self_eq_false, Bool.not_true,
    Bool.or_self, supported.target, Time.isZero, beq_eq_false_iff_ne]

theorem validate_of_unverifiable (state : s.state = .unverifiable) :
    validateRestoreDrillFreshnessSnapshot s = .ok () ↔
      Passes s.commonChecks ∧ Passes s.unverifiableChecks := by
  rw [validateRestoreDrillFreshnessSnapshot, except_check_ok, firstFailure_passes, state]
  exact and_congr_right fun _ => firstFailure_passes

variable {payload : Json}

theorem validate_of_verified {validUntil : Time} (state : s.state = .fresh ∨ s.state = .stale)
    (verified : s.verifiedAt = some verifiedAt) (expires : s.validUntil = some validUntil)
    (document : restoreDrillFreshnessPayload (s.assessment verifiedAt validUntil) = some payload) :
    validateRestoreDrillFreshnessSnapshot s = .ok () ↔
      Passes s.commonChecks ∧ Passes s.lineageChecks ∧
        Passes (s.timeChecks verifiedAt validUntil) ∧ s.assessmentID = assessmentName payload := by
  have branch : validateRestoreDrillFreshnessSnapshot s =
      (firstFailure s.commonChecks >>= fun _ => s.validateVerified) := by
    rcases state with state | state <;> rw [validateRestoreDrillFreshnessSnapshot, state]
  have identity : restoreDrillFreshnessAssessmentIdentity (s.assessment verifiedAt validUntil) =
      .ok (assessmentName payload) := by
    rw [restoreDrillFreshnessAssessmentIdentity, document]
  rw [branch, except_check_ok, firstFailure_passes,
    RestoreDrillFreshnessSnapshot.validateVerified, except_check_ok, firstFailure_passes, verified,
    expires]
  refine and_congr_right fun _ => and_congr_right fun _ => ?_
  simp only [identity]
  rw [except_check_ok, firstFailure_passes]
  refine and_congr_right fun _ => ?_
  simp only [except_bind_ok, mapError_ok, Except.ok.injEq, exists_eq_left', firstFailure_passes,
    passes_cons, passes_nil, and_true, bne_eq_false_iff_eq]

theorem validate_unverifiableSnapshot (supported : Supported target maxAge checkedAt) :
    validateRestoreDrillFreshnessSnapshot
        (unverifiableSnapshot target maxAge (truncateSecond checkedAt)) = .ok () ↔
      truncateSecond checkedAt ≠ 0 := by
  rw [validate_of_unverifiable rfl, passes_commonChecks rfl rfl rfl rfl rfl rfl supported]
  refine and_iff_left ?_
  have reason : (trimSpace noEvidenceReason == "" ||
      decide (512 < noEvidenceReason.utf8ByteSize)) = false := by decide
  have same : (unverifiableSnapshot target maxAge (truncateSecond checkedAt)).reason =
      noEvidenceReason := rfl
  rw [RestoreDrillFreshnessSnapshot.unverifiableChecks, same, passes_cons, passes_cons]
  exact ⟨reason, rfl, passes_nil⟩

theorem passes_lineageChecks (valid : r.Valid) {document : Bytes} :
    Passes (drillSnapshot r maxAge verifiedAt checkedAt payload
        (sha256Digest document)).lineageChecks ↔
      identifierPattern r.resourceVersion = true := by
  have metadata := (RestoreMetadata.valid_iff.mp valid).metadata
  have named : identifierPattern r.objectID = true := by
    have identifier := metadata.objectID
    simp only [IsIdentifier, validateIdentifier, passes_cons, Bool.not_eq_false'] at identifier
    exact identifier.2.2.1
  have begins : "rdf-".toList.isPrefixOf (assessmentName payload).toList = true := by
    rw [assessmentName_toList, List.isPrefixOf_iff_prefix]
    exact List.prefix_append _ _
  simp only [RestoreDrillFreshnessSnapshot.lineageChecks, drillSnapshot, assessedSnapshot, named,
    identifierPattern_assessmentName, begins, digestPattern_sha256Digest, passes_cons, passes_nil,
    and_true, true_and, bne_self_eq_false, Bool.not_true, Bool.or_self, Bool.not_eq_false',
    beq_eq_false_iff_ne, metadata.generation, ne_eq, not_false_eq_true]

theorem passes_timeChecks {evidenceDigest : String}
    (evidence : r.Evidences target checkedAt verifiedAt)
    (supported : unsupportedMaxAge maxAge = false) :
    Passes ((drillSnapshot r maxAge verifiedAt checkedAt payload evidenceDigest).timeChecks
        verifiedAt (Time.add verifiedAt maxAge)) ↔
      verifiedAt ≠ 0 ∧ Time.add verifiedAt maxAge ≠ 0 := by
  obtain ⟨verified, _, rfl⟩ := evidence.verified
  obtain ⟨seconds, _, _, age⟩ := supported_age supported
  have whole : truncateSecond (Time.add (truncateSecond verified) maxAge) =
      Time.add (truncateSecond verified) maxAge := by
    rw [Time.add, age, truncateSecond_add, truncateSecond_truncateSecond]
  have past : ¬ checkedAt < truncateSecond verified := not_lt.mpr evidence.past
  simp only [RestoreDrillFreshnessSnapshot.timeChecks, whole, truncateSecond_truncateSecond,
    passes_cons, passes_nil, and_true, bne_self_eq_false, Bool.or_self, true_and,
    Bool.or_eq_false_iff, Time.isZero, beq_eq_false_iff_ne]
  have age : (drillSnapshot r maxAge (truncateSecond verified) checkedAt payload
      evidenceDigest).maxAgeSeconds = wholeSeconds maxAge := rfl
  have checked : (drillSnapshot r maxAge (truncateSecond verified) checkedAt payload
      evidenceDigest).checkedAt = checkedAt := rfl
  rw [drillSnapshot_state, age, durationOfSeconds_wholeSeconds supported, bne_self_eq_false,
    RestoreDrillFreshnessSnapshot.expectedState, checked]
  refine and_iff_left ⟨decide_eq_false past, rfl, ?_⟩
  split <;> rfl

/-- **A drill that was read passes the validator** unless it meets a corner. -/
theorem validate_drillSnapshot {evidenceDigest : String}
    (evidence : r.Evidences r.target (truncateSecond checkedAt) verifiedAt)
    (supported : Supported r.target maxAge checkedAt) (checked : truncateSecond checkedAt ≠ 0)
    (document : restoreDrillFreshnessPayload
      (unnamedAssessment r maxAge verifiedAt (truncateSecond checkedAt)) = some payload)
    (digest : digestRestoreVerificationEvidence r.verification.evidence = .ok evidenceDigest) :
    validateRestoreDrillFreshnessSnapshot
        (drillSnapshot r maxAge verifiedAt (truncateSecond checkedAt) payload evidenceDigest) =
          .ok () ↔
      identifierPattern r.resourceVersion = true ∧ verifiedAt ≠ 0 ∧
        Time.add verifiedAt maxAge ≠ 0 := by
  obtain ⟨canonical, rfl⟩ : ∃ document, evidenceDigest = sha256Digest document := by
    rw [digestRestoreVerificationEvidence] at digest
    split at digest
    · cases digest
    · exact ⟨_, (Except.ok.inj digest).symm⟩
  have named := @drillSnapshot_names_drill r maxAge verifiedAt (truncateSecond checkedAt) payload
    (sha256Digest canonical)
  rw [validate_of_verified named drillSnapshot_verifiedAt drillSnapshot_validUntil document,
    passes_commonChecks rfl rfl rfl rfl rfl rfl supported,
    passes_lineageChecks evidence.valid, passes_timeChecks evidence supported.maxAge,
    and_iff_right checked]
  exact and_congr_right fun _ => and_iff_left rfl

/-! ## Reading again -/

theorem sameRestoreDrillFreshnessSnapshot_iff {left right : RestoreDrillFreshnessSnapshot} :
    sameRestoreDrillFreshnessSnapshot left right = true ↔ left = right := by
  simp only [sameRestoreDrillFreshnessSnapshot, Bool.and_eq_true, beq_iff_eq]
  constructor
  · intro same
    obtain ⟨⟨⟨⟨⟨⟨⟨⟨⟨⟨⟨⟨⟨⟨_, _⟩, _⟩, _⟩, _⟩, _⟩, _⟩, _⟩, _⟩, _⟩, _⟩, _⟩, _⟩, _⟩, _⟩ := same
    cases left
    cases right
    simp_all only
  · rintro rfl
    simp only [and_self]

theorem validateLatestCurrent_ok :
    validateRestoreDrillFreshnessSnapshotLatestCurrent restores s = .ok () ↔
      validateRestoreDrillFreshnessSnapshot s = .ok () ∧ readAgain restores s = .ok s := by
  rw [validateRestoreDrillFreshnessSnapshotLatestCurrent, except_check_ok, mapError_ok]
  refine and_congr_right fun _ => ?_
  simp only [except_bind_ok, mapError_ok, firstFailure_passes, passes_cons, passes_nil, and_true,
    Bool.not_eq_false', sameRestoreDrillFreshnessSnapshot_iff, exists_eq_right]

theorem validateCurrent_ok :
    validateRestoreDrillFreshnessSnapshotCurrent r s = .ok () ↔
      validateRestoreDrillFreshnessSnapshot s = .ok () ∧ s.state ≠ .unverifiable ∧
        readAgain [r] s = .ok s := by
  rw [validateRestoreDrillFreshnessSnapshotCurrent, except_check_ok, mapError_ok]
  refine and_congr_right fun _ => ?_
  rw [except_check_ok, firstFailure_passes]
  simp only [except_bind_ok, mapError_ok, firstFailure_passes, passes_cons, passes_nil, and_true,
    Bool.not_eq_false', sameRestoreDrillFreshnessSnapshot_iff, beq_eq_false_iff_ne]
  refine and_congr_right fun named => ?_
  constructor
  · rintro ⟨_, again, _, rfl⟩
    exact again
  · intro again
    exact ⟨s, again, named, rfl⟩

/-- What was read is read again: whole seconds are cut once only. -/
theorem readAgain_ok {restores' : List RestoreMetadata}
    (read : readLatestRestoreDrillFreshnessSnapshot restores target maxAge checkedAt = .ok s)
    (checked : truncateSecond checkedAt ≠ 0)
    (same : latestDrill restores' target (truncateSecond checkedAt) =
      latestDrill restores target (truncateSecond checkedAt)) : readAgain restores' s = .ok s := by
  have spec := readLatest_ok.mp read
  obtain ⟨supported, result⟩ := spec
  have fields : s.target = target ∧ s.maxAgeSeconds = wholeSeconds maxAge ∧
      s.checkedAt = truncateSecond checkedAt := by
    cases selected : latestDrill restores target (truncateSecond checkedAt) with
    | none =>
        rw [selected] at result
        rw [result]
        exact ⟨rfl, rfl, rfl⟩
    | some drill =>
        rw [selected] at result
        obtain ⟨_, payload, evidenceDigest, _, _, rfl⟩ := result
        exact ⟨(latestDrill_some selected).2.target, rfl, rfl⟩
  obtain ⟨sameTarget, sameAge, sameCheck⟩ := fields
  rw [readAgain, sameTarget, sameAge, sameCheck, durationOfSeconds_wholeSeconds supported.maxAge,
    readLatest_ok, truncateSecond_truncateSecond, same]
  exact ⟨⟨supported.target, supported.maxAge, checked⟩, result⟩

/-- The three validators agree on what was read. -/
theorem validate_read
    (read : readLatestRestoreDrillFreshnessSnapshot restores target maxAge checkedAt = .ok s) :
    validateRestoreDrillFreshnessSnapshot s = .ok () ↔
      Canonical restores target maxAge checkedAt := by
  obtain ⟨supported, result⟩ := readLatest_ok.mp read
  rw [Canonical]
  cases selected : latestDrill restores target (truncateSecond checkedAt) with
  | none =>
      rw [selected] at result
      rw [result]
      exact validate_unverifiableSnapshot supported
  | some drill =>
      rw [selected] at result
      obtain ⟨checked, payload, evidenceDigest, document, digest, rfl⟩ := result
      have evidence := (latestDrill_some selected).2
      obtain rfl := evidence.target
      exact validate_drillSnapshot evidence supported checked document digest

/-- A canonical result was read at an instant that is set. -/
theorem Canonical.checked (canonical : Canonical restores target maxAge checkedAt)
    (read : readLatestRestoreDrillFreshnessSnapshot restores target maxAge checkedAt = .ok s) :
    truncateSecond checkedAt ≠ 0 := by
  obtain ⟨_, result⟩ := readLatest_ok.mp read
  rw [Canonical] at canonical
  cases selected : latestDrill restores target (truncateSecond checkedAt) with
  | none =>
      rw [selected] at canonical
      exact canonical
  | some drill =>
      rw [selected] at result
      exact result.1

theorem latestCurrent_read
    (read : readLatestRestoreDrillFreshnessSnapshot restores target maxAge checkedAt = .ok s) :
    validateRestoreDrillFreshnessSnapshotLatestCurrent restores s = .ok () ↔
      Canonical restores target maxAge checkedAt := by
  rw [validateLatestCurrent_ok, validate_read read]
  exact and_iff_left_of_imp fun canonical => readAgain_ok read (canonical.checked read) rfl

theorem current_read
    (read : readLatestRestoreDrillFreshnessSnapshot restores target maxAge checkedAt = .ok s)
    (selected : latestDrill restores target (truncateSecond checkedAt) = some (r, verifiedAt)) :
    validateRestoreDrillFreshnessSnapshotCurrent r s = .ok () ↔
      Canonical restores target maxAge checkedAt := by
  have named : s.state ≠ .unverifiable := by
    obtain ⟨_, result⟩ := readLatest_ok.mp read
    rw [selected] at result
    obtain ⟨_, payload, evidenceDigest, _, _, rfl⟩ := result
    rw [drillSnapshot_state]
    split <;> nofun
  rw [validateCurrent_ok, validate_read read, and_iff_right named]
  refine and_iff_left_of_imp fun canonical => readAgain_ok read (canonical.checked read) ?_
  rw [selected, latestDrill_singleton (latestDrill_some selected).2]

/-- A fresh drill is younger than the age, to the nanosecond: both instants are cut to whole
seconds and the age is one of whole seconds. -/
theorem fresh_read
    (read : readLatestRestoreDrillFreshnessSnapshot restores target maxAge checkedAt = .ok s)
    (fresh : s.state = .fresh) :
    ∃ r ∈ restores, ∃ verified,
      latestDrill restores target (truncateSecond checkedAt) =
        some (r, truncateSecond verified) ∧
      s.restoreID = r.objectID ∧ r.verification.verifiedAt = some verified ∧
      checkedAt - verified < maxAge.toInt := by
  obtain ⟨supported, result⟩ := readLatest_ok.mp read
  cases selected : latestDrill restores target (truncateSecond checkedAt) with
  | none =>
      rw [selected] at result
      rw [result] at fresh
      cases fresh
  | some drill =>
      rw [selected] at result
      obtain ⟨_, payload, evidenceDigest, _, _, rfl⟩ := result
      obtain ⟨listed, evidence⟩ := latestDrill_some selected
      obtain ⟨verified, isVerified, cut⟩ := evidence.verified
      have instant : drill.1.verification.verifiedAt = some verified := by
        rw [RestoreMetadata.drillVerifiedAt] at isVerified
        split at isVerified
        · exact isVerified
        · cases isVerified
      refine ⟨drill.1, listed, verified, cut ▸ rfl, rfl, instant, ?_⟩
      rw [drillSnapshot_state] at fresh
      split at fresh
      · next recent =>
          obtain ⟨seconds, _, _, age⟩ := supported_age supported.maxAge
          rw [cut, Time.add, age] at recent
          rw [age]
          exact sub_lt_of_truncateSecond_lt recent
      · cases fresh

/-- **Snapshots are reproducible.** What was read passes the three validators exactly when it
meets none of the corners of `Canonical`. A snapshot that the list vouches for is the one that
is read, the order of restores with distinct ids does not matter, and a fresh drill is younger
than the age. -/
theorem freshness_snapshot_reproducible (restores : List RestoreMetadata) :
    (∀ (target : ObjectReference) (maxAge : Duration) (checkedAt : Time)
        (s : RestoreDrillFreshnessSnapshot),
      readLatestRestoreDrillFreshnessSnapshot restores target maxAge checkedAt = .ok s →
        (validateRestoreDrillFreshnessSnapshot s = .ok () ↔
          Canonical restores target maxAge checkedAt) ∧
        (validateRestoreDrillFreshnessSnapshotLatestCurrent restores s = .ok () ↔
          Canonical restores target maxAge checkedAt) ∧
        (∀ r verifiedAt, latestDrill restores target (truncateSecond checkedAt) =
            some (r, verifiedAt) →
          (validateRestoreDrillFreshnessSnapshotCurrent r s = .ok () ↔
            Canonical restores target maxAge checkedAt)) ∧
        (s.state = .fresh → ∃ r ∈ restores, ∃ verified,
          latestDrill restores target (truncateSecond checkedAt) =
            some (r, truncateSecond verified) ∧
          s.restoreID = r.objectID ∧ r.verification.verifiedAt = some verified ∧
          checkedAt - verified < maxAge.toInt)) ∧
    (∀ s : RestoreDrillFreshnessSnapshot,
      validateRestoreDrillFreshnessSnapshotLatestCurrent restores s = .ok () →
        readLatestRestoreDrillFreshnessSnapshot restores s.target
          (durationOfSeconds s.maxAgeSeconds) s.checkedAt = .ok s) ∧
    (∀ restores' : List RestoreMetadata, (restores.map fun r => r.objectID).Nodup →
      restores.Perm restores' → ∀ (target : ObjectReference) (maxAge : Duration)
        (checkedAt : Time),
        readLatestRestoreDrillFreshnessSnapshot restores target maxAge checkedAt =
          readLatestRestoreDrillFreshnessSnapshot restores' target maxAge checkedAt) := by
  refine ⟨?_, ?_, ?_⟩
  · intro target maxAge checkedAt s read
    exact ⟨validate_read read, latestCurrent_read read, fun _ _ => current_read read,
      fresh_read read⟩
  · intro s passed
    exact (validateLatestCurrent_ok.mp passed).2
  · intro restores' distinct perm target maxAge checkedAt
    simp only [readLatestRestoreDrillFreshnessSnapshot, latestDrill_perm distinct perm]

/-- A drill of the first minute, with a version. -/
def datedDrill (version : String) : RestoreMetadata :=
  { sampleDrill with
    createdAt := 10000000000
    updatedAt := 15000000000
    resourceVersion := version
    requestedAt := 10000000000
    startedAt := some 11000000000
    completedAt := some 14000000000
    verification := ⟨.passed, some 13500000000, sampleEvidence⟩ }

/-- Twenty seconds into the first year it is read as verified after thirteen. -/
theorem datedDrill_read {version : String}
    (selected : latestDrill [datedDrill version] sampleObject 20000000000 =
      some (datedDrill version, 13000000000)) :
    ∃ payload evidenceDigest,
      readLatestRestoreDrillFreshnessSnapshot [datedDrill version] sampleObject 60000000000
          20000000000 =
        .ok (drillSnapshot (datedDrill version) 60000000000 13000000000 20000000000 payload
          evidenceDigest) := by
  have whole : truncateSecond 20000000000 = 20000000000 := by decide
  obtain ⟨payload, document⟩ : ∃ payload, restoreDrillFreshnessPayload
      (unnamedAssessment (datedDrill version) 60000000000 13000000000 20000000000) =
        some payload := ⟨_, rfl⟩
  obtain ⟨evidenceDigest, digest⟩ : ∃ evidenceDigest,
      digestRestoreVerificationEvidence sampleEvidence = .ok evidenceDigest := ⟨_, rfl⟩
  refine ⟨payload, evidenceDigest, readLatest_ok.mpr ⟨⟨?_, ?_, ?_⟩, ?_⟩⟩
  · exact firstFailure_passes.mp (by decide +kernel)
  · decide +kernel
  · decide
  · rw [whole, selected]
    exact ⟨by decide, payload, evidenceDigest, document, digest, rfl⟩

/-- A restore with the version "1" can be read again. -/
theorem freshness_snapshot_reproducible_dated :
    Canonical [datedDrill "1"] sampleObject 60000000000 20000000000 ∧
      ∃ s, readLatestRestoreDrillFreshnessSnapshot [datedDrill "1"] sampleObject 60000000000
          20000000000 = .ok s ∧
        validateRestoreDrillFreshnessSnapshot s = .ok () ∧
        validateRestoreDrillFreshnessSnapshotLatestCurrent [datedDrill "1"] s = .ok () ∧
        validateRestoreDrillFreshnessSnapshotCurrent (datedDrill "1") s = .ok () := by
  have selected : latestDrill [datedDrill "1"] sampleObject 20000000000 =
      some (datedDrill "1", 13000000000) := by decide +kernel
  have canonical : Canonical [datedDrill "1"] sampleObject 60000000000 20000000000 := by
    decide +kernel
  obtain ⟨payload, evidenceDigest, read⟩ := datedDrill_read selected
  obtain ⟨own, latest, current, _⟩ := (freshness_snapshot_reproducible _).1 _ _ _ _ read
  exact ⟨canonical, _, read, own.mpr canonical, latest.mpr canonical,
    (current _ _ selected).mpr canonical⟩

/-- The version "v/1" is legal for an object and no identifier: what is read of the restore does
not pass. -/
theorem snapshot_of_opaque_version_refused :
    (datedDrill "v/1").Valid ∧
      ∃ s, readLatestRestoreDrillFreshnessSnapshot [datedDrill "v/1"] sampleObject 60000000000
          20000000000 = .ok s ∧
        validateRestoreDrillFreshnessSnapshot s ≠ .ok () ∧
        validateRestoreDrillFreshnessSnapshotLatestCurrent [datedDrill "v/1"] s ≠ .ok () ∧
        validateRestoreDrillFreshnessSnapshotCurrent (datedDrill "v/1") s ≠ .ok () := by
  have selected : latestDrill [datedDrill "v/1"] sampleObject 20000000000 =
      some (datedDrill "v/1", 13000000000) := by decide +kernel
  have refused : ¬ Canonical [datedDrill "v/1"] sampleObject 60000000000 20000000000 := by
    decide +kernel
  obtain ⟨payload, evidenceDigest, read⟩ := datedDrill_read selected
  refine ⟨(latestDrill_some selected).2.valid, _, read, ?_, ?_, ?_⟩
  · exact mt (validate_read read).mp refused
  · exact mt (latestCurrent_read read).mp refused
  · exact mt (current_read read selected).mp refused

end ControlCenter.Recovery
