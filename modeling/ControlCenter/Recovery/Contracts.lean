import ControlCenter.CoreContracts.Metadata

/-!
# Recovery metadata

`internal/recovery/contracts.go`: what is recorded of recovery points, backups, restores and
measured objectives. The records describe operations; none of them executes one.

The enumerations hold the values that the validators support, and a list is never nil: a
record with another text or a nil list is refused before anything else is looked at. Instants
are in UTC, which the validators ask of every one.
-/

set_option autoImplicit false

namespace ControlCenter.Recovery

open Library CoreContracts

def recoveryPointSchemaVersion : String := "recovery.point/v1"

def backupMetadataSchemaVersion : String := "recovery.backup/v1"

def restoreMetadataSchemaVersion : String := "recovery.restore/v1"

def objectiveEvidenceSchemaVersion : String := "recovery.objective-evidence/v1"

/-! ## Objects -/

inductive ObjectKind where
  | node
  | service
  | database
  | configuration
  | user
  | group
  | policy
  | application
  | site
  | controlPlane
  deriving DecidableEq

def ObjectKind.text : ObjectKind → String
  | .node => "NODE"
  | .service => "SERVICE"
  | .database => "DATABASE"
  | .configuration => "CONFIGURATION"
  | .user => "USER"
  | .group => "GROUP"
  | .policy => "POLICY"
  | .application => "APPLICATION"
  | .site => "SITE"
  | .controlPlane => "CONTROL_PLANE"

inductive Statefulness where
  | stateless
  | stateful
  deriving DecidableEq

def Statefulness.text : Statefulness → String
  | .stateless => "STATELESS"
  | .stateful => "STATEFUL"

structure ObjectReference where
  kind : ObjectKind
  objectID : String
  scopeID : String
  statefulness : Statefulness
  deriving DecidableEq

structure FailureMetadata where
  code : String
  message : String
  retryable : Bool
  deriving DecidableEq

/-! ## Recovery points -/

inductive RecoveryPointState where
  | creating
  | ready
  | partially
  | failed
  | expired
  deriving DecidableEq

inductive RecoveryPointTrigger where
  | manual
  | scheduled
  | preChange
  | preDestructive
  deriving DecidableEq

inductive ConsistencyLevel where
  | crash
  | application
  | object
  deriving DecidableEq

structure RecoveryPoint extends ObjectMetadata where
  schemaVersion : String
  state : RecoveryPointState
  trigger : RecoveryPointTrigger
  consistency : ConsistencyLevel
  objects : List ObjectReference
  backupIDs : List String
  changeID : String
  expiresAt : Option Time
  failure : Option FailureMetadata
  deriving DecidableEq

/-! ## Backups -/

inductive ProviderCapability where
  | backup
  | restore
  | baseBackup
  | walArchive
  | pitr
  | snapshot
  | objectVersion
  | objectRestore
  | restoreDrill
  | fencing
  deriving DecidableEq

def ProviderCapability.text : ProviderCapability → String
  | .backup => "BACKUP"
  | .restore => "RESTORE"
  | .baseBackup => "BASE_BACKUP"
  | .walArchive => "WAL_ARCHIVE"
  | .pitr => "PITR"
  | .snapshot => "SNAPSHOT"
  | .objectVersion => "OBJECT_VERSION"
  | .objectRestore => "OBJECT_RESTORE"
  | .restoreDrill => "RESTORE_DRILL"
  | .fencing => "FENCING"

structure ProviderMetadata where
  providerID : String
  adapterID : String
  version : String
  repositoryID : String
  operationID : String
  capabilities : List ProviderCapability
  deriving DecidableEq

inductive EvidenceKind where
  | checksum
  | providerLog
  | restoreDrill
  | functionalTest
  | fencingConfirmation
  deriving DecidableEq

def EvidenceKind.text : EvidenceKind → String
  | .checksum => "CHECKSUM"
  | .providerLog => "PROVIDER_LOG"
  | .restoreDrill => "RESTORE_DRILL"
  | .functionalTest => "FUNCTIONAL_TEST"
  | .fencingConfirmation => "FENCING_CONFIRMATION"

structure EvidenceReference where
  id : String
  kind : EvidenceKind
  reference : String
  digest : String
  recordedAt : Time
  deriving DecidableEq

inductive BackupMode where
  | full
  | incremental
  | differential
  | snapshot
  | baseWAL
  | objectVersion
  deriving DecidableEq

inductive BackupState where
  | planned
  | running
  | completed
  | failed
  | expired
  | deleted
  deriving DecidableEq

inductive EncryptionMode where
  | none
  | providerManaged
  | customerManaged
  deriving DecidableEq

structure BackupArtifact where
  repositoryID : String
  objectKey : String
  sizeBytes : UInt64
  digest : String
  encryption : EncryptionMode
  encryptionKeyID : String
  deriving DecidableEq

structure PITRWindow where
  timeline : UInt32
  startLSN : String
  endLSN : String
  earliestRestoreAt : Time
  latestRestoreAt : Time
  deriving DecidableEq

inductive BackupHealthState where
  | unknown
  | unverified
  | verified
  | degraded
  | failed
  deriving DecidableEq

structure BackupHealth where
  state : BackupHealthState
  lastVerifiedAt : Option Time
  restoreID : String
  evidence : List EvidenceReference
  deriving DecidableEq

structure BackupMetadata extends ObjectMetadata where
  schemaVersion : String
  recoveryPointID : String
  target : ObjectReference
  mode : BackupMode
  state : BackupState
  parentBackupID : String
  provider : ProviderMetadata
  artifact : Option BackupArtifact
  pitr : Option PITRWindow
  requestedAt : Time
  startedAt : Option Time
  dataCapturedAt : Option Time
  completedAt : Option Time
  health : BackupHealth
  failure : Option FailureMetadata
  deriving DecidableEq

/-! ## Restores -/

inductive FencingState where
  | notRequired
  | required
  | confirmed
  | failed
  deriving DecidableEq

structure FencingMetadata where
  state : FencingState
  targetIDs : List String
  epoch : UInt64
  provider : Option ProviderMetadata
  confirmedAt : Option Time
  evidence : List EvidenceReference
  failure : Option FailureMetadata
  deriving DecidableEq

inductive RestoreMode where
  | inPlace
  | alternate
  | isolatedDrill
  | objectLevel
  | pitr
  deriving DecidableEq

inductive RestoreState where
  | planned
  | running
  | verifying
  | succeeded
  | failed
  | cancelled
  deriving DecidableEq

inductive VerificationOutcome where
  | pending
  | passed
  | failed
  deriving DecidableEq

structure RestoreVerification where
  outcome : VerificationOutcome
  verifiedAt : Option Time
  evidence : List EvidenceReference
  deriving DecidableEq

structure RestoreMetadata extends ObjectMetadata where
  schemaVersion : String
  recoveryPointID : String
  backupIDs : List String
  mode : RestoreMode
  state : RestoreState
  target : ObjectReference
  requestedObjects : List ObjectReference
  provider : ProviderMetadata
  fencing : FencingMetadata
  requestedAt : Time
  startedAt : Option Time
  completedAt : Option Time
  pitrTargetAt : Option Time
  verification : RestoreVerification
  failure : Option FailureMetadata
  deriving DecidableEq

/-! ## Objectives -/

inductive ObjectiveResult where
  | passed
  | failed
  deriving DecidableEq

structure RecoveryObjectiveEvidence extends ObjectMetadata where
  schemaVersion : String
  policyID : String
  target : ObjectReference
  recoveryPointID : String
  restoreID : String
  targetRPOSeconds : UInt64
  targetRTOSeconds : UInt64
  observedRPOSeconds : Option UInt64
  observedRTOSeconds : Option UInt64
  measuredAt : Time
  result : ObjectiveResult
  evidence : List EvidenceReference
  failureReason : String
  deriving DecidableEq

end ControlCenter.Recovery
