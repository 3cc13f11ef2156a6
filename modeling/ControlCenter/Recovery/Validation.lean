import ControlCenter.Recovery.Contracts
import Mathlib.Tactic.MkIffOfInductiveProp

/-!
# The validators of recovery metadata

`internal/recovery/validation.go`: one validator for each kind of record. Each is a list of
tests in the order of the source, with the field and the message of its error; the first test
that fails decides. A record is `Valid` when its tests pass.

What the other modules use of a valid record is stated at the end: which instants are set in
which state and how they are ordered.
-/

set_option autoImplicit false

namespace ControlCenter.Recovery

open Library CoreContracts

structure ValidationError where
  field : String
  message : String
  deriving DecidableEq

def ValidationError.text (e : ValidationError) : String :=
  "invalid recovery metadata " ++ e.field ++ ": " ++ e.message

/-- Tests, each with its error. -/
abbrev Tests := List (Bool × ValidationError)

/-! ## Patterns -/

def identifierPattern (value : String) : Bool := boundedPattern isIdentifierChar value

/-- Some digits. -/
def isNumeral (text : List Char) : Bool := !text.isEmpty && text.all Char.isDigit

def semanticVersionPattern (value : String) : Bool :=
  match value.toList.splitOn '.' with
  | [major, minor, patch] => isNumeral major && isNumeral minor && isNumeral patch
  | _ => false

def digestPattern (value : String) : Bool :=
  value.toList.take 7 == "sha256:".toList && (value.toList.drop 7).length == 64 &&
    (value.toList.drop 7).all fun c => c.isDigit || ('a' ≤ c && c ≤ 'f')

def errorCodePattern (value : String) : Bool :=
  match value.toList with
  | [] => false
  | c :: rest =>
      c.isUpper && rest.all (fun c => c.isUpper || c.isDigit || c == '_') &&
        decide (rest.length ≤ 63)

/-- Some digits of an upper case hexadecimal number. -/
def isHexNumeral (text : List Char) : Bool :=
  !text.isEmpty && text.all fun c => c.isDigit || ('A' ≤ c && c ≤ 'F')

def lsnPattern (value : String) : Bool :=
  match value.toList.splitOn '/' with
  | [high, low] => isHexNumeral high && isHexNumeral low
  | _ => false

/-! ## Parts of records -/

def validateTimestamp (field : String) (value : Time) : Tests :=
  [(Time.isZero value, ⟨field, "must not be zero"⟩)]

def validateOptionalTimestamp (field : String) : Option Time → Tests
  | none => []
  | some value => validateTimestamp field value

def validateObjectMetadata (metadata : ObjectMetadata) : Tests :=
  relabel (fun e => ⟨"object_metadata", ContractError.text e⟩) metadata.checks ++
    validateTimestamp "created_at" metadata.createdAt ++
    validateTimestamp "updated_at" metadata.updatedAt

def validateObjectReference (field : String) (reference : ObjectReference) : Tests :=
  [(!identifierPattern reference.objectID,
      ⟨field ++ ".object_id", "must be a canonical identifier"⟩),
    (!identifierPattern reference.scopeID,
      ⟨field ++ ".scope_id", "must be a canonical identifier"⟩)]

/-- The name of an item of a list. -/
def item (field : String) (index : Nat) : String := field ++ "[" ++ index.repr ++ "]"

/-- What two references of a list may not share. -/
def ObjectReference.key (reference : ObjectReference) : String :=
  reference.kind.text ++ "\x00" ++ reference.scopeID ++ "\x00" ++ reference.objectID

def validateObjectReferences (field : String) (references : List ObjectReference)
    (required : Bool) : Tests :=
  [(required && references.isEmpty, ⟨field, "must not be empty"⟩)] ++
    distinctChecks ObjectReference.key
      (fun index reference => validateObjectReference (item field index) reference)
      (fun _ _ => []) (fun _ => ⟨field, "contains a duplicate object reference"⟩) 0 [] references

def validateObjectReferenceScopes (field : String) (references : List ObjectReference)
    (scopeID : String) : Tests :=
  references.zipIdx.map fun (reference, index) =>
    (reference.scopeID != scopeID,
      ⟨item field index ++ ".scope_id", "must match enclosing scope_id"⟩)

def validateIDSet (field : String) (values : List String) (required : Bool) : Tests :=
  [(required && values.isEmpty, ⟨field, "must not be empty"⟩)] ++
    distinctChecks id
      (fun index value =>
        [(!identifierPattern value, ⟨item field index, "must be a canonical identifier"⟩)])
      (fun _ _ => []) (fun value => ⟨field, "contains duplicate " ++ value⟩) 0 [] values

def validateProvider (field : String) (provider : ProviderMetadata) (repositoryRequired : Bool) :
    Tests :=
  [(!identifierPattern provider.providerID,
      ⟨field ++ ".provider_id", "must be a canonical identifier"⟩),
    (!identifierPattern provider.adapterID,
      ⟨field ++ ".adapter_id", "must be a canonical identifier"⟩),
    (!semanticVersionPattern provider.version,
      ⟨field ++ ".version", "must be a semantic version"⟩),
    (repositoryRequired && !identifierPattern provider.repositoryID,
      ⟨field ++ ".repository_id", "backup/restore provider requires a repository id"⟩),
    (!repositoryRequired && provider.repositoryID != "" &&
        !identifierPattern provider.repositoryID,
      ⟨field ++ ".repository_id", "must be a canonical identifier"⟩),
    (provider.operationID != "" && !identifierPattern provider.operationID,
      ⟨field ++ ".operation_id", "must be a canonical identifier"⟩),
    (provider.capabilities.isEmpty, ⟨field ++ ".capabilities", "must not be empty"⟩)] ++
    distinctChecks id (fun _ _ => []) (fun _ _ => [])
      (fun capability : ProviderCapability =>
        ⟨field ++ ".capabilities", "contains duplicate " ++ capability.text⟩)
      0 [] provider.capabilities

def providerHas (provider : ProviderMetadata) (capability : ProviderCapability) : Bool :=
  provider.capabilities.contains capability

def validObjectKey (value : String) : Bool :=
  value != "" && decide (value.utf8ByteSize ≤ 512) && trimSpace value == value &&
    value.toList.head? != some '/' && !value.toList.contains '\\' &&
    !value.toList.contains '\x00' &&
    (value.toList.splitOn '/').all fun segment =>
      segment != [] && segment != ['.'] && segment != ['.', '.']

def validateArtifact (artifact : BackupArtifact) (providerRepositoryID : String) : Tests :=
  [(!identifierPattern artifact.repositoryID || artifact.repositoryID != providerRepositoryID,
      ⟨"artifact.repository_id", "must match the provider repository"⟩),
    (!validObjectKey artifact.objectKey,
      ⟨"artifact.object_key", "must be a safe repository-relative key"⟩),
    (artifact.sizeBytes == 0, ⟨"artifact.size_bytes", "must be positive"⟩),
    (!digestPattern artifact.digest, ⟨"artifact.digest", "must be a sha256 digest"⟩)] ++
    match artifact.encryption with
    | .none | .providerManaged =>
        [(artifact.encryptionKeyID != "", ⟨"artifact.encryption_key_id",
          "is only allowed for customer-managed encryption"⟩)]
    | .customerManaged =>
        [(!identifierPattern artifact.encryptionKeyID, ⟨"artifact.encryption_key_id",
          "customer-managed encryption requires a key reference"⟩)]

/-- One half of a position in the log, without leading zeros. -/
def lsnPart (text : List Char) (index : Nat) : List Char :=
  let digits := (((text.splitOn '/')[index]?).getD []).dropWhile (· == '0')
  if digits = [] then ['0'] else digits

def compareLSNPart (left right : List Char) : Ordering :=
  if left.length < right.length then .lt
  else if right.length < left.length then .gt
  else if left < right then .lt
  else if left = right then .eq
  else .gt

def comparePostgresLSN (left right : String) : Ordering :=
  (compareLSNPart (lsnPart left.toList 0) (lsnPart right.toList 0)).then
    (compareLSNPart (lsnPart left.toList 1) (lsnPart right.toList 1))

def validatePITR (window : PITRWindow) : Tests :=
  [(window.timeline == 0, ⟨"pitr.timeline", "must be positive"⟩),
    (!lsnPattern window.startLSN || !lsnPattern window.endLSN ||
        comparePostgresLSN window.startLSN window.endLSN != .lt,
      ⟨"pitr", "requires ordered uppercase PostgreSQL LSN bounds"⟩)] ++
    validateTimestamp "pitr.earliest_restore_at" window.earliestRestoreAt ++
    validateTimestamp "pitr.latest_restore_at" window.latestRestoreAt ++
    [(decide (window.latestRestoreAt < window.earliestRestoreAt),
      ⟨"pitr.latest_restore_at", "must not precede earliest_restore_at"⟩)]

/-- The text is blank, has blanks around it or is too long. -/
def unbounded (text : String) : Bool :=
  trimSpace text == "" || trimSpace text != text || decide (512 < text.utf8ByteSize)

def validateEvidence (field : String) (evidence : List EvidenceReference) (required : Bool) :
    Tests :=
  [(required && evidence.isEmpty, ⟨field, "must not be empty"⟩)] ++
    distinctChecks EvidenceReference.id
      (fun index reference =>
        [(!identifierPattern reference.id,
          ⟨item field index ++ ".id", "must be a canonical identifier"⟩)])
      (fun index reference =>
        [(unbounded reference.reference,
            ⟨item field index ++ ".reference", "must be a bounded opaque reference"⟩),
          (!digestPattern reference.digest,
            ⟨item field index ++ ".digest", "must be a sha256 digest"⟩)] ++
          validateTimestamp (item field index ++ ".recorded_at") reference.recordedAt)
      (fun reference => ⟨field, "contains duplicate " ++ reference.id⟩) 0 [] evidence

def containsEvidenceKind (evidence : List EvidenceReference) (kind : EvidenceKind) : Bool :=
  evidence.any fun reference => reference.kind == kind

def validateFailure (field : String) (failure : FailureMetadata) : Tests :=
  [(!errorCodePattern failure.code,
      ⟨field ++ ".code", "must be an uppercase stable error code"⟩),
    (unbounded failure.message,
      ⟨field ++ ".message", "must be non-empty, canonical, and bounded"⟩)]

def validateOptionalFailure (field : String) : Option FailureMetadata → Tests
  | none => []
  | some failure => validateFailure field failure

/-- Each reference is recorded by the bound. -/
def recordedBy (field : String) (evidence : List EvidenceReference) (bound : Time)
    (message : String) : Tests :=
  evidence.map fun reference => (decide (bound < reference.recordedAt), ⟨field, message⟩)

/-- Each reference is recorded from the bound on. -/
def recordedFrom (field : String) (evidence : List EvidenceReference) (bound : Time)
    (message : String) : Tests :=
  evidence.map fun reference => (decide (reference.recordedAt < bound), ⟨field, message⟩)

/-- The instants that are set are not after the bound. -/
def observedBy (bound : Time) (observed : List (String × Option Time)) : Tests :=
  observed.map fun (field, value) =>
    (value.any fun t => decide (bound < t),
      ⟨field, "must not follow object metadata updated_at"⟩)

/-! ## Recovery points -/

def RecoveryPoint.stateChecks (p : RecoveryPoint) : Tests :=
  match p.state with
  | .creating =>
      [(p.failure.isSome,
        ⟨"failure", "creating recovery point cannot have failure metadata"⟩)]
  | .ready =>
      [(p.backupIDs.isEmpty,
          ⟨"backup_ids", "ready recovery point requires at least one backup"⟩),
        (p.failure.isSome, ⟨"failure", "ready recovery point cannot have failure metadata"⟩)]
  | .partially =>
      [(p.backupIDs.isEmpty || p.failure.isNone,
        ⟨"state", "partial recovery point requires a backup and failure metadata"⟩)]
  | .failed =>
      [(p.failure.isNone, ⟨"failure", "failed recovery point requires failure metadata"⟩),
        (!p.backupIDs.isEmpty, ⟨"state",
          "failed recovery point cannot contain successful backup references; use PARTIAL"⟩)]
  | .expired =>
      [(p.expiresAt.all fun t => decide (p.updatedAt < t), ⟨"expires_at",
        "expired recovery point requires an elapsed expiration timestamp"⟩)]

def RecoveryPoint.checks (p : RecoveryPoint) : Tests :=
  [(p.schemaVersion != recoveryPointSchemaVersion,
      ⟨"schema_version", "must be " ++ recoveryPointSchemaVersion⟩)] ++
    validateObjectMetadata p.toObjectMetadata ++
    validateObjectReferences "objects" p.objects true ++
    validateObjectReferenceScopes "objects" p.objects p.scopeID ++
    validateIDSet "backup_ids" p.backupIDs false ++
    (if p.trigger = .preChange ∨ p.trigger = .preDestructive then
      [(!identifierPattern p.changeID,
        ⟨"change_id", "pre-change recovery point requires a change id"⟩)]
    else
      [(p.changeID != "" && !identifierPattern p.changeID,
        ⟨"change_id", "must be a canonical identifier"⟩)]) ++
    validateTimestamp "created_at" p.createdAt ++
    validateTimestamp "updated_at" p.updatedAt ++
    [(decide (p.updatedAt < p.createdAt), ⟨"updated_at", "must not precede created_at"⟩)] ++
    validateOptionalTimestamp "expires_at" p.expiresAt ++
    [(p.expiresAt.any fun t => decide (t ≤ p.createdAt),
      ⟨"expires_at", "must be after created_at"⟩)] ++
    validateOptionalFailure "failure" p.failure ++
    p.stateChecks ++
    [(p.state != .expired && p.expiresAt.any fun t => decide (t ≤ p.updatedAt),
      ⟨"state", "elapsed recovery point must be marked EXPIRED"⟩)]

/-- The recovery point passes its tests. -/
def RecoveryPoint.Valid (p : RecoveryPoint) : Prop := Passes p.checks

/-! ## Backups -/

def validateBackupModeMetadata (b : BackupMetadata) : Tests :=
  (match b.mode with
    | .incremental | .differential =>
        [(!identifierPattern b.parentBackupID || b.parentBackupID == b.objectID,
          ⟨"parent_backup_id", "incremental/differential backup requires a different parent"⟩)]
    | .full | .snapshot | .baseWAL | .objectVersion =>
        [(b.parentBackupID != "",
          ⟨"parent_backup_id", "is only valid for incremental/differential backup"⟩)]) ++
    (if b.mode = .baseWAL then
      [(b.pitr.isNone, ⟨"pitr", "BASE_WAL backup requires a PITR window"⟩)] ++
        [ProviderCapability.baseBackup, .walArchive, .pitr].map fun capability =>
          (!providerHas b.provider capability,
            ⟨"provider.capabilities", "BASE_WAL provider is missing " ++ capability.text⟩)
    else [(b.pitr.isSome, ⟨"pitr", "is only valid for BASE_WAL backup"⟩)]) ++
    [(b.mode == .snapshot && !providerHas b.provider .snapshot,
        ⟨"provider.capabilities", "SNAPSHOT mode requires SNAPSHOT capability"⟩),
      (b.mode == .objectVersion && !providerHas b.provider .objectVersion,
        ⟨"provider.capabilities", "OBJECT_VERSION mode requires OBJECT_VERSION capability"⟩)]

/-- The health says nothing of a restore. -/
def BackupHealth.isBlank (health : BackupHealth) : Bool :=
  health.lastVerifiedAt.isNone && health.restoreID == "" && health.evidence.isEmpty

def successfulBackupState (state : BackupState) : Bool :=
  state == .completed || state == .expired || state == .deleted

def healthStateChecks (health : BackupHealth) (backupState : BackupState) : Tests :=
  match health.state with
  | .unknown =>
      [(backupState != .planned && backupState != .running,
          ⟨"health.state", "UNKNOWN is only valid before backup completion"⟩),
        (!health.isBlank, ⟨"health", "unknown health cannot have verification evidence"⟩)]
  | .unverified =>
      [(backupState == .planned || backupState == .running || backupState == .failed,
          ⟨"health.state", "UNVERIFIED requires completed backup metadata"⟩),
        (!health.isBlank, ⟨"health", "unverified backup cannot have restore evidence"⟩)]
  | .verified =>
      [(!successfulBackupState backupState,
          ⟨"health.state", "VERIFIED requires terminal successful backup metadata"⟩),
        (health.lastVerifiedAt.isNone || !identifierPattern health.restoreID ||
            !containsEvidenceKind health.evidence .restoreDrill ||
            !containsEvidenceKind health.evidence .functionalTest,
          ⟨"health", "VERIFIED requires timestamp, restore id, restore-drill evidence, and " ++
            "functional-test evidence"⟩)]
  | .degraded =>
      [(!successfulBackupState backupState,
          ⟨"health.state", "DEGRADED requires terminal successful backup metadata"⟩),
        (health.lastVerifiedAt.isNone || !identifierPattern health.restoreID ||
            !containsEvidenceKind health.evidence .restoreDrill,
          ⟨"health", "DEGRADED requires timestamp, restore id, and restore-drill evidence"⟩)]
  | .failed =>
      [(backupState != .failed || !health.isBlank,
        ⟨"health", "FAILED represents backup execution failure, not restore verification"⟩)]

def validateBackupHealth (health : BackupHealth) (backupState : BackupState) : Tests :=
  validateOptionalTimestamp "health.last_verified_at" health.lastVerifiedAt ++
    validateEvidence "health.evidence" health.evidence false ++
    [(health.restoreID != "" && !identifierPattern health.restoreID,
      ⟨"health.restore_id", "must be a canonical identifier"⟩)] ++
    healthStateChecks health backupState ++
    health.lastVerifiedAt.elim [] fun verifiedAt =>
      recordedBy "health.evidence.recorded_at" health.evidence verifiedAt
        "must not follow last_verified_at"

/-- The instants of a backup are in order. -/
def BackupMetadata.orderChecks (b : BackupMetadata) : Tests :=
  [(decide (b.updatedAt < b.requestedAt),
      ⟨"requested_at", "must not follow object metadata updated_at"⟩),
    (b.startedAt.any fun started => decide (started < b.requestedAt),
      ⟨"started_at", "must not precede requested_at"⟩),
    (b.startedAt.any fun started => b.dataCapturedAt.any fun captured =>
        decide (captured < started),
      ⟨"data_captured_at", "must not precede started_at"⟩),
    (b.dataCapturedAt.isSome && b.startedAt.isNone,
      ⟨"data_captured_at", "requires started_at"⟩),
    (b.startedAt.any fun started => b.completedAt.any fun completed =>
        decide (completed < started),
      ⟨"completed_at", "must not precede started_at"⟩),
    (b.dataCapturedAt.any fun captured => b.completedAt.any fun completed =>
        decide (completed < captured),
      ⟨"completed_at", "must not precede data_captured_at"⟩),
    (b.startedAt.isNone && b.completedAt.any fun completed => decide (completed < b.requestedAt),
      ⟨"completed_at", "must not precede requested_at"⟩)]

/-- The results that a state asks for. -/
def BackupMetadata.stateChecks (b : BackupMetadata) : Tests :=
  let incomplete := b.startedAt.isNone || b.dataCapturedAt.isNone || b.completedAt.isNone
  match b.state with
  | .planned =>
      [(b.startedAt.isSome || b.dataCapturedAt.isSome || b.completedAt.isSome ||
          b.artifact.isSome || b.failure.isSome || b.provider.operationID != "",
        ⟨"state", "planned backup cannot contain execution results"⟩)]
  | .running =>
      [(b.startedAt.isNone || b.completedAt.isSome || b.artifact.isSome || b.failure.isSome ||
          b.provider.operationID == "",
        ⟨"state", "running backup requires start/provider operation and no terminal result"⟩)]
  | .completed =>
      [(incomplete || b.artifact.isNone || b.failure.isSome || b.provider.operationID == "",
        ⟨"state", "completed backup requires timestamps, artifact, and provider operation"⟩)]
  | .failed =>
      [(b.completedAt.isNone || b.artifact.isSome || b.failure.isNone ||
          b.provider.operationID == "" || b.health.state != .failed,
        ⟨"state", "failed backup requires terminal failure metadata and no artifact"⟩)]
  | .expired =>
      [(incomplete || b.artifact.isNone || b.failure.isSome || b.provider.operationID == "",
        ⟨"state", "expired backup retains its completed artifact metadata"⟩)]
  | .deleted =>
      [(incomplete || b.artifact.isSome || b.failure.isSome || b.provider.operationID == "",
        ⟨"state",
          "deleted backup must retain completion metadata but not an artifact reference"⟩)]

def BackupMetadata.checks (b : BackupMetadata) : Tests :=
  [(b.schemaVersion != backupMetadataSchemaVersion,
      ⟨"schema_version", "must be " ++ backupMetadataSchemaVersion⟩)] ++
    validateObjectMetadata b.toObjectMetadata ++
    [(!identifierPattern b.recoveryPointID,
      ⟨"recovery_point_id", "must be a canonical identifier"⟩)] ++
    validateObjectReference "target" b.target ++
    [(b.target.scopeID != b.scopeID, ⟨"target.scope_id", "must match backup scope_id"⟩)] ++
    validateProvider "provider" b.provider true ++
    [(!providerHas b.provider .backup,
      ⟨"provider.capabilities", "backup provider must declare BACKUP"⟩)] ++
    validateBackupModeMetadata b ++
    (b.artifact.elim [] fun artifact => validateArtifact artifact b.provider.repositoryID) ++
    b.pitr.elim [] validatePITR ++
    validateTimestamp "requested_at" b.requestedAt ++
    validateOptionalTimestamp "started_at" b.startedAt ++
    validateOptionalTimestamp "data_captured_at" b.dataCapturedAt ++
    validateOptionalTimestamp "completed_at" b.completedAt ++
    b.orderChecks ++
    observedBy b.updatedAt
      [("started_at", b.startedAt), ("data_captured_at", b.dataCapturedAt),
        ("completed_at", b.completedAt), ("health.last_verified_at", b.health.lastVerifiedAt)] ++
    validateBackupHealth b.health b.state ++
    [(b.completedAt.any fun completed => b.health.lastVerifiedAt.any fun verified =>
        decide (verified < completed),
      ⟨"health.last_verified_at", "must not precede completed_at"⟩)] ++
    (b.completedAt.elim [] fun completed =>
      recordedFrom "health.evidence.recorded_at" b.health.evidence completed
        "must not precede completed_at") ++
    recordedBy "health.evidence.recorded_at" b.health.evidence b.updatedAt
      "must not follow object metadata updated_at" ++
    validateOptionalFailure "failure" b.failure ++
    b.stateChecks

/-- The backup passes its tests. -/
def BackupMetadata.Valid (b : BackupMetadata) : Prop := Passes b.checks

/-! ## Restores -/

def validateRestoreModeMetadata (r : RestoreMetadata) : Tests :=
  (if r.mode = .objectLevel then
    validateObjectReferences "requested_objects" r.requestedObjects true ++
      [(!providerHas r.provider .objectRestore,
        ⟨"provider.capabilities", "OBJECT_LEVEL requires OBJECT_RESTORE capability"⟩)]
  else
    [(!r.requestedObjects.isEmpty,
      ⟨"requested_objects", "is only valid for OBJECT_LEVEL restore"⟩)]) ++
    (if r.mode = .pitr then
      [(r.pitrTargetAt.isNone,
          ⟨"pitr_target_at", "PITR restore requires a target timestamp"⟩),
        (!providerHas r.provider .pitr,
          ⟨"provider.capabilities", "PITR restore requires PITR capability"⟩)]
    else
      [(r.pitrTargetAt.isSome, ⟨"pitr_target_at", "is only valid for PITR restore"⟩)]) ++
    [(r.mode == .isolatedDrill && !providerHas r.provider .restoreDrill,
      ⟨"provider.capabilities", "ISOLATED_DRILL requires RESTORE_DRILL capability"⟩)]

/-- The provider has no operation. -/
def ProviderMetadata.idle (provider : ProviderMetadata) : Bool := provider.operationID == ""

def fencingStateChecks (f : FencingMetadata) : Tests :=
  match f.state with
  | .notRequired =>
      [(!f.targetIDs.isEmpty || f.epoch != 0 || f.provider.isSome || f.confirmedAt.isSome ||
          !f.evidence.isEmpty || f.failure.isSome,
        ⟨"fencing", "NOT_REQUIRED must not contain fencing operation metadata"⟩)]
  | .required =>
      [(f.epoch == 0 || f.provider.all (fun provider => !provider.idle) || f.confirmedAt.isSome ||
          !f.evidence.isEmpty || f.failure.isSome,
        ⟨"fencing", "REQUIRED describes a planned fence without execution results"⟩)]
  | .confirmed =>
      [(f.epoch == 0 || f.provider.all ProviderMetadata.idle || f.confirmedAt.isNone ||
          !containsEvidenceKind f.evidence .fencingConfirmation || f.failure.isSome,
        ⟨"fencing", "CONFIRMED requires provider operation, timestamp, and confirmation " ++
          "evidence"⟩)] ++
        f.confirmedAt.elim [] fun confirmed =>
          recordedBy "fencing.evidence.recorded_at" f.evidence confirmed
            "must not follow confirmed_at"
  | .failed =>
      [(f.epoch == 0 || f.provider.all ProviderMetadata.idle || f.confirmedAt.isSome ||
          f.failure.isNone,
        ⟨"fencing", "FAILED requires provider operation and failure metadata"⟩)]

def validateFencing (f : FencingMetadata) : Tests :=
  validateIDSet "fencing.target_ids" f.targetIDs (f.state != .notRequired) ++
    validateOptionalTimestamp "fencing.confirmed_at" f.confirmedAt ++
    validateEvidence "fencing.evidence" f.evidence false ++
    validateOptionalFailure "fencing.failure" f.failure ++
    (f.provider.elim [] fun provider =>
      validateProvider "fencing.provider" provider false ++
        [(!providerHas provider .fencing,
          ⟨"fencing.provider.capabilities", "fencing provider must declare FENCING"⟩)]) ++
    fencingStateChecks f

def validateRestoreFencingContext (r : RestoreMetadata) : Tests :=
  let requiresFencing := r.target.statefulness = .stateful ∧ (r.mode = .inPlace ∨ r.mode = .pitr)
  if ¬ requiresFencing then
    [(r.fencing.state != .notRequired,
      ⟨"fencing.state", "fencing is only allowed for in-place/PITR stateful restore"⟩)]
  else if r.state = .planned ∨ r.state = .cancelled ∧ r.startedAt = none then
    [(r.fencing.state != .required && r.fencing.state != .confirmed,
      ⟨"fencing.state", "unstarted stateful restore requires a fencing plan"⟩)]
  else if r.state = .failed ∧ r.fencing.state = .failed then
    [(r.startedAt.isSome || r.provider.operationID != "" || r.verification.outcome != .pending,
      ⟨"state", "restore blocked by failed fencing cannot contain restore execution results"⟩)]
  else
    [(r.fencing.state != .confirmed,
      ⟨"fencing.state", "stateful restore cannot execute before fencing confirmation"⟩)]

def validateRestoreVerification (v : RestoreVerification) : Tests :=
  validateOptionalTimestamp "verification.verified_at" v.verifiedAt ++
    validateEvidence "verification.evidence" v.evidence false ++
    (if v.outcome = .pending then
      [(v.verifiedAt.isSome || !v.evidence.isEmpty,
        ⟨"verification", "PENDING cannot contain verification results"⟩)]
    else
      [(v.verifiedAt.isNone || v.evidence.isEmpty,
        ⟨"verification", "terminal verification requires timestamp and evidence"⟩)] ++
        v.verifiedAt.elim [] fun verified =>
          recordedBy "verification.evidence.recorded_at" v.evidence verified
            "must not follow verified_at")

/-- The start of a restore, or its request. -/
def RestoreMetadata.lowerBound (r : RestoreMetadata) : Time := r.startedAt.getD r.requestedAt

/-- The instants of a restore before its verification are in order. -/
def RestoreMetadata.orderChecks (r : RestoreMetadata) : Tests :=
  [(r.startedAt.any fun started => decide (started < r.requestedAt),
      ⟨"started_at", "must not precede requested_at"⟩),
    (r.startedAt.isSome && r.provider.operationID == "",
      ⟨"provider.operation_id", "started restore requires a provider operation"⟩),
    (r.pitrTargetAt.any fun target => decide (r.requestedAt < target),
      ⟨"pitr_target_at", "must not be in the future relative to requested_at"⟩),
    (r.fencing.confirmedAt.any fun confirmed => r.startedAt.any fun started =>
        decide (started < confirmed),
      ⟨"fencing.confirmed_at", "must not follow restore started_at"⟩),
    (r.fencing.confirmedAt.any fun confirmed => decide (confirmed < r.requestedAt),
      ⟨"fencing.confirmed_at", "must not precede requested_at"⟩)] ++
    recordedFrom "fencing.evidence.recorded_at" r.fencing.evidence r.requestedAt
      "must not precede requested_at" ++
    [(r.completedAt.any fun completed => decide (completed < r.lowerBound),
        ⟨"completed_at", "must not precede request/start"⟩),
      (decide (r.updatedAt < r.requestedAt),
        ⟨"requested_at", "must not follow object metadata updated_at"⟩)]

/-- The results that a state asks for. -/
def RestoreMetadata.stateChecks (r : RestoreMetadata) : Tests :=
  match r.state with
  | .planned =>
      [(r.startedAt.isSome || r.completedAt.isSome || r.provider.operationID != "" ||
          r.verification.outcome != .pending || r.failure.isSome,
        ⟨"state", "planned restore cannot contain execution results"⟩)]
  | .running | .verifying =>
      [(r.startedAt.isNone || r.completedAt.isSome || r.provider.operationID == "" ||
          r.verification.outcome != .pending || r.failure.isSome,
        ⟨"state", "active restore requires start/provider operation and no terminal result"⟩)]
  | .succeeded =>
      [(r.startedAt.isNone || r.completedAt.isNone || r.provider.operationID == "" ||
          r.verification.outcome != .passed || r.failure.isSome,
        ⟨"state", "successful restore requires completed execution and passed verification"⟩)]
  | .failed =>
      [(r.completedAt.isNone || (r.provider.operationID == "" && r.fencing.state != .failed) ||
          r.failure.isNone || r.verification.outcome == .passed,
        ⟨"state",
          "failed restore requires terminal failure and cannot have passed verification"⟩)]
  | .cancelled =>
      [(r.completedAt.isNone || r.verification.outcome != .pending || r.failure.isSome ||
          r.startedAt.isSome != (r.provider.operationID != ""),
        ⟨"state", "cancelled restore requires completion, paired start/provider operation " ++
          "metadata, and no verification or failure"⟩)]

def RestoreMetadata.checks (r : RestoreMetadata) : Tests :=
  [(r.schemaVersion != restoreMetadataSchemaVersion,
      ⟨"schema_version", "must be " ++ restoreMetadataSchemaVersion⟩)] ++
    validateObjectMetadata r.toObjectMetadata ++
    [(!identifierPattern r.recoveryPointID,
      ⟨"recovery_point_id", "must be a canonical identifier"⟩)] ++
    validateIDSet "backup_ids" r.backupIDs true ++
    validateObjectReference "target" r.target ++
    [(r.target.scopeID != r.scopeID, ⟨"target.scope_id", "must match restore scope_id"⟩)] ++
    validateObjectReferenceScopes "requested_objects" r.requestedObjects r.scopeID ++
    validateProvider "provider" r.provider true ++
    [(!providerHas r.provider .restore,
      ⟨"provider.capabilities", "restore provider must declare RESTORE"⟩)] ++
    validateRestoreModeMetadata r ++
    validateFencing r.fencing ++
    validateTimestamp "requested_at" r.requestedAt ++
    validateOptionalTimestamp "started_at" r.startedAt ++
    validateOptionalTimestamp "completed_at" r.completedAt ++
    validateOptionalTimestamp "pitr_target_at" r.pitrTargetAt ++
    r.orderChecks ++
    observedBy r.updatedAt
      [("started_at", r.startedAt), ("completed_at", r.completedAt),
        ("fencing.confirmed_at", r.fencing.confirmedAt),
        ("verification.verified_at", r.verification.verifiedAt)] ++
    recordedBy "fencing.evidence.recorded_at" r.fencing.evidence r.updatedAt
      "must not follow object metadata updated_at" ++
    recordedBy "verification.evidence.recorded_at" r.verification.evidence r.updatedAt
      "must not follow object metadata updated_at" ++
    validateRestoreVerification r.verification ++
    [(r.verification.verifiedAt.any fun verified => decide (verified < r.lowerBound),
        ⟨"verification.verified_at", "must not precede request/start"⟩),
      (r.verification.outcome != .pending && r.startedAt.isNone,
        ⟨"verification.outcome", "terminal verification requires started_at"⟩)] ++
    validateOptionalFailure "failure" r.failure ++
    validateRestoreFencingContext r ++
    r.stateChecks ++
    [(r.verification.verifiedAt.any fun verified => r.completedAt.any fun completed =>
          decide (completed < verified),
        ⟨"verification.verified_at", "must not follow completed_at"⟩),
      (r.state == .succeeded && r.mode == .isolatedDrill &&
          (!containsEvidenceKind r.verification.evidence .restoreDrill ||
            !containsEvidenceKind r.verification.evidence .functionalTest),
        ⟨"verification.evidence",
          "successful restore drill requires restore-drill and functional-test evidence"⟩)]

def validateRestoreMetadata (r : RestoreMetadata) : Except ValidationError Unit :=
  firstFailure r.checks

/-- The restore passes its tests. -/
def RestoreMetadata.Valid (r : RestoreMetadata) : Prop := Passes r.checks

/-! ## Objectives -/

def RecoveryObjectiveEvidence.resultChecks (o : RecoveryObjectiveEvidence) : Tests :=
  match o.result with
  | .passed =>
      [(o.observedRPOSeconds.isNone || o.observedRTOSeconds.isNone,
          ⟨"result", "passed objective requires observed RPO and RTO"⟩),
        (o.observedRPOSeconds.any (fun seconds => decide (o.targetRPOSeconds < seconds)) ||
            o.observedRTOSeconds.any fun seconds => decide (o.targetRTOSeconds < seconds),
          ⟨"result", "passed objective exceeds the configured target"⟩),
        (trimSpace o.failureReason != "",
          ⟨"failure_reason", "passed objective cannot contain a failure reason"⟩),
        (!containsEvidenceKind o.evidence .functionalTest,
          ⟨"evidence", "passed objective requires functional-test evidence"⟩)]
  | .failed =>
      let exceedsTarget :=
        o.observedRPOSeconds.any (fun seconds => decide (o.targetRPOSeconds < seconds)) ||
          o.observedRTOSeconds.any fun seconds => decide (o.targetRTOSeconds < seconds)
      [(!exceedsTarget && trimSpace o.failureReason == "",
          ⟨"failure_reason", "failed objective requires an exceeded target or failure reason"⟩),
        (trimSpace o.failureReason != o.failureReason ||
            decide (512 < o.failureReason.utf8ByteSize),
          ⟨"failure_reason", "must be canonical and not exceed 512 bytes"⟩)]

def RecoveryObjectiveEvidence.checks (o : RecoveryObjectiveEvidence) : Tests :=
  [(o.schemaVersion != objectiveEvidenceSchemaVersion,
      ⟨"schema_version", "must be " ++ objectiveEvidenceSchemaVersion⟩)] ++
    validateObjectMetadata o.toObjectMetadata ++
    [(!identifierPattern o.policyID, ⟨"policy_id", "must be a canonical identifier"⟩),
      (!identifierPattern o.recoveryPointID,
        ⟨"recovery_point_id", "must be a canonical identifier"⟩),
      (!identifierPattern o.restoreID, ⟨"restore_id", "must be a canonical identifier"⟩)] ++
    validateObjectReference "target" o.target ++
    [(o.target.scopeID != o.scopeID, ⟨"target.scope_id", "must match objective scope_id"⟩),
      (o.targetRPOSeconds == 0 || o.targetRTOSeconds == 0,
        ⟨"target_rpo_seconds", "RPO and RTO targets must be positive"⟩)] ++
    validateTimestamp "measured_at" o.measuredAt ++
    [(decide (o.updatedAt < o.measuredAt),
      ⟨"measured_at", "must not follow object metadata updated_at"⟩)] ++
    validateEvidence "evidence" o.evidence true ++
    [(!containsEvidenceKind o.evidence .restoreDrill,
      ⟨"evidence", "RPO/RTO measurement requires restore-drill evidence"⟩)] ++
    recordedBy "evidence.recorded_at" o.evidence o.measuredAt "must not follow measured_at" ++
    o.resultChecks

/-- The objective passes its tests. -/
def RecoveryObjectiveEvidence.Valid (o : RecoveryObjectiveEvidence) : Prop := Passes o.checks

/-! ## What a valid record says -/

/-- A test of an instant that may be unset. -/
theorem any_eq_false {α : Type*} {value : Option α} {p : α → Bool} :
    value.any p = false ↔ ∀ a, value = some a → p a = false := by
  cases value <;> simp

theorem passes_recordedBy {field message : String} {evidence : List EvidenceReference}
    {bound : Time} : Passes (recordedBy field evidence bound message) ↔
      ∀ reference ∈ evidence, reference.recordedAt ≤ bound := by
  simp only [recordedBy, passes_map, decide_eq_false_iff_not, not_lt]

theorem passes_validateObjectMetadata {metadata : ObjectMetadata} :
    Passes (validateObjectMetadata metadata) ↔ metadata.Valid := by
  simp only [validateObjectMetadata, validateTimestamp, passes_append, passes_relabel,
    ObjectMetadata.passes_checks, passes_cons, passes_nil, and_true, Time.isZero,
    beq_eq_false_iff_ne]
  constructor
  · rintro ⟨⟨valid, _⟩, _⟩
    exact valid
  · intro valid
    exact ⟨⟨valid, valid.created⟩, valid.updated⟩

theorem containsEvidenceKind_iff {evidence : List EvidenceReference} {kind : EvidenceKind} :
    containsEvidenceKind evidence kind = true ↔
      ∃ reference ∈ evidence, reference.kind = kind := by
  simp only [containsEvidenceKind, List.any_eq_true, beq_iff_eq]

theorem RecoveryPoint.Valid.metadata {p : RecoveryPoint} (valid : p.Valid) :
    p.toObjectMetadata.Valid := by
  delta Valid checks at valid
  simp only [passes_append, passes_validateObjectMetadata] at valid
  obtain ⟨⟨⟨⟨⟨⟨⟨⟨⟨⟨⟨⟨⟨_, metadata⟩, _⟩, _⟩, _⟩, _⟩, _⟩, _⟩, _⟩, _⟩, _⟩, _⟩, _⟩, _⟩ := valid
  exact metadata

/-- The tests of a backup, one by one. -/
@[mk_iff] structure BackupMetadata.Parts (b : BackupMetadata) : Prop where
  schema : b.schemaVersion = backupMetadataSchemaVersion
  metadata : b.toObjectMetadata.Valid
  recoveryPoint : identifierPattern b.recoveryPointID = true
  target : Passes (validateObjectReference "target" b.target)
  scope : b.target.scopeID = b.scopeID
  provider : Passes (validateProvider "provider" b.provider true)
  capability : providerHas b.provider .backup = true
  mode : Passes (validateBackupModeMetadata b)
  artifact : Passes (b.artifact.elim [] fun artifact =>
    validateArtifact artifact b.provider.repositoryID)
  pitr : Passes (b.pitr.elim [] validatePITR)
  requested : Passes (validateTimestamp "requested_at" b.requestedAt)
  started : Passes (validateOptionalTimestamp "started_at" b.startedAt)
  captured : Passes (validateOptionalTimestamp "data_captured_at" b.dataCapturedAt)
  completed : Passes (validateOptionalTimestamp "completed_at" b.completedAt)
  order : Passes b.orderChecks
  observed : Passes (observedBy b.updatedAt
    [("started_at", b.startedAt), ("data_captured_at", b.dataCapturedAt),
      ("completed_at", b.completedAt), ("health.last_verified_at", b.health.lastVerifiedAt)])
  health : Passes (validateBackupHealth b.health b.state)
  verified : ∀ completed, b.completedAt = some completed →
    ∀ verified, b.health.lastVerifiedAt = some verified → completed ≤ verified
  recordedFrom : Passes (b.completedAt.elim [] fun completed =>
    recordedFrom "health.evidence.recorded_at" b.health.evidence completed
      "must not precede completed_at")
  recordedBy : ∀ reference ∈ b.health.evidence, reference.recordedAt ≤ b.updatedAt
  failure : Passes (validateOptionalFailure "failure" b.failure)
  state : Passes b.stateChecks

theorem BackupMetadata.valid_iff {b : BackupMetadata} : b.Valid ↔ b.Parts := by
  delta Valid checks
  simp only [passes_append, passes_cons, passes_nil, and_true, and_assoc,
    passes_validateObjectMetadata, passes_recordedBy, bne_eq_false_iff_eq, Bool.not_eq_false',
    any_eq_false, decide_eq_false_iff_not, not_lt, parts_iff]

namespace BackupMetadata.Parts

variable {b : BackupMetadata} (parts : b.Parts)
include parts

/-- Incremental and differential backups name a parent, and no others do. -/
theorem parent_iff :
    b.parentBackupID ≠ "" ↔ b.mode = .incremental ∨ b.mode = .differential := by
  have mode := parts.mode
  rw [validateBackupModeMetadata, passes_append, passes_append] at mode
  have parent := mode.1.1
  have named : identifierPattern b.parentBackupID = true → b.parentBackupID ≠ "" := by
    intro matched empty
    rw [empty] at matched
    exact absurd matched (by decide)
  cases kind : b.mode <;> simp [kind] at parent ⊢
  case incremental => exact named parent.1
  case differential => exact named parent.1
  all_goals exact parent

/-- No set instant follows the update. -/
theorem observed_le : (∀ t, b.startedAt = some t → t ≤ b.updatedAt) ∧
    (∀ t, b.dataCapturedAt = some t → t ≤ b.updatedAt) ∧
    (∀ t, b.completedAt = some t → t ≤ b.updatedAt) ∧
    ∀ t, b.health.lastVerifiedAt = some t → t ≤ b.updatedAt := by
  have observed := parts.observed
  simpa only [observedBy, List.map_cons, List.map_nil, passes_cons, passes_nil, and_true,
    any_eq_false, decide_eq_false_iff_not, not_lt] using observed

/-- When a backup was verified, and by what. -/
theorem verified_at (state : b.health.state = .verified) :
    ∃ last, b.health.lastVerifiedAt = some last ∧ last ≤ b.updatedAt ∧
      (∃ reference ∈ b.health.evidence, reference.kind = .restoreDrill) ∧
      ∃ reference ∈ b.health.evidence, reference.kind = .functionalTest := by
  have health := parts.health
  rw [validateBackupHealth, passes_append, passes_append] at health
  have states := health.1.2
  simp only [healthStateChecks, state, passes_cons, passes_nil, and_true,
    Bool.or_eq_false_iff, Bool.not_eq_false', containsEvidenceKind_iff,
    Option.isNone_eq_false_iff] at states
  obtain ⟨_, ⟨⟨set, _⟩, drill⟩, test⟩ := states
  obtain ⟨last, set⟩ := Option.isSome_iff_exists.mp set
  exact ⟨last, set, parts.observed_le.2.2.2 last set, drill, test⟩

end BackupMetadata.Parts

/-- The tests of a restore, one by one. -/
@[mk_iff] structure RestoreMetadata.Parts (r : RestoreMetadata) : Prop where
  schema : (r.schemaVersion != restoreMetadataSchemaVersion) = false
  metadata : r.toObjectMetadata.Valid
  point : (!identifierPattern r.recoveryPointID) = false
  backups : Passes (validateIDSet "backup_ids" r.backupIDs true)
  target : Passes (validateObjectReference "target" r.target)
  scope : (r.target.scopeID != r.scopeID) = false
  objects : Passes (validateObjectReferenceScopes "requested_objects" r.requestedObjects r.scopeID)
  provider : Passes (validateProvider "provider" r.provider true)
  capability : (!providerHas r.provider .restore) = false
  mode : Passes (validateRestoreModeMetadata r)
  fencing : Passes (validateFencing r.fencing)
  requested : Passes (validateTimestamp "requested_at" r.requestedAt)
  started : Passes (validateOptionalTimestamp "started_at" r.startedAt)
  completed : Passes (validateOptionalTimestamp "completed_at" r.completedAt)
  pitr : Passes (validateOptionalTimestamp "pitr_target_at" r.pitrTargetAt)
  order : Passes r.orderChecks
  observed : Passes (observedBy r.updatedAt
    [("started_at", r.startedAt), ("completed_at", r.completedAt),
      ("fencing.confirmed_at", r.fencing.confirmedAt),
      ("verification.verified_at", r.verification.verifiedAt)])
  fenced : ∀ reference ∈ r.fencing.evidence, reference.recordedAt ≤ r.updatedAt
  recorded : ∀ reference ∈ r.verification.evidence, reference.recordedAt ≤ r.updatedAt
  verification : Passes (validateRestoreVerification r.verification)
  bounded : ∀ verified, r.verification.verifiedAt = some verified → r.lowerBound ≤ verified
  outcome : (r.verification.outcome != .pending && r.startedAt.isNone) = false
  failure : Passes (validateOptionalFailure "failure" r.failure)
  context : Passes (validateRestoreFencingContext r)
  state : Passes r.stateChecks
  ended : ∀ verified, r.verification.verifiedAt = some verified →
    ∀ completed, r.completedAt = some completed → verified ≤ completed
  evidence : (r.state == .succeeded && r.mode == .isolatedDrill &&
    (!containsEvidenceKind r.verification.evidence .restoreDrill ||
      !containsEvidenceKind r.verification.evidence .functionalTest)) = false

theorem RestoreMetadata.valid_iff {r : RestoreMetadata} : r.Valid ↔ r.Parts := by
  delta Valid checks
  simp only [passes_append, passes_cons, passes_nil, and_true, and_assoc,
    passes_validateObjectMetadata, any_eq_false, decide_eq_false_iff_not, not_lt,
    passes_recordedBy, parts_iff]

/-- A restore that succeeded was started after its request, and its verification lies between
its evidence and its end. -/
theorem RestoreMetadata.Parts.succeeded {r : RestoreMetadata} (parts : r.Parts)
    (state : r.state = .succeeded) :
    ∃ started completed verified, r.startedAt = some started ∧ r.completedAt = some completed ∧
      r.verification.verifiedAt = some verified ∧ r.verification.outcome = .passed ∧
      r.requestedAt ≤ started ∧ verified ≤ completed ∧
      ∀ reference ∈ r.verification.evidence, reference.recordedAt ≤ verified := by
  have order := parts.order
  have verification := parts.verification
  have results := parts.state
  simp only [stateChecks, state, passes_cons, passes_nil, and_true, Bool.or_eq_false_iff,
    bne_eq_false_iff_eq, Option.isNone_eq_false_iff] at results
  obtain ⟨⟨⟨⟨started, completed⟩, _⟩, outcome⟩, _⟩ := results
  obtain ⟨started, isStarted⟩ := Option.isSome_iff_exists.mp started
  obtain ⟨completed, isCompleted⟩ := Option.isSome_iff_exists.mp completed
  simp only [validateRestoreVerification, outcome, passes_append, reduceCtorEq, if_false,
    passes_cons, passes_nil, and_true, Bool.or_eq_false_iff,
    Option.isNone_eq_false_iff] at verification
  obtain ⟨_, ⟨set, _⟩, recorded⟩ := verification
  obtain ⟨verified, isVerified⟩ := Option.isSome_iff_exists.mp set
  rw [isVerified, Option.elim_some, passes_recordedBy] at recorded
  simp only [orderChecks, passes_append, passes_cons, any_eq_false, decide_eq_false_iff_not,
    not_lt] at order
  exact ⟨started, completed, verified, isStarted, isCompleted, isVerified, outcome,
    order.1.1.1 started isStarted, parts.ended verified isVerified completed isCompleted, recorded⟩

end ControlCenter.Recovery
