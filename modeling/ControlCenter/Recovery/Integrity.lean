import ControlCenter.Library.ParentWalk
import ControlCenter.Library.Registry
import ControlCenter.Recovery.Validation

/-!
# The recovery metadata graph

`internal/recovery/integrity.go`: a complete snapshot of recovery points, backups, restores and
objective evidence, and the validator of the references between them. It first tests each
record and claims its object id, provider operations, artifact and evidence ids. Then it
follows the references in six passes, one of which walks up the parents of the backups.

Each pass is a list of tests, and looks records up by the ids that the first part found to
differ. The walk takes as many steps as it is given, and more steps never change its result.
-/

set_option autoImplicit false

namespace ControlCenter.Recovery

open Library CoreContracts

structure RecoveryMetadataGraph where
  recoveryPoints : List RecoveryPoint
  backups : List BackupMetadata
  restores : List RestoreMetadata
  objectiveEvidence : List RecoveryObjectiveEvidence
  deriving DecidableEq

/-! ## Registration -/

/-- What may be claimed once in a graph. -/
inductive Space where
  | objectID
  | operation
  | artifact
  | evidence
  deriving DecidableEq

abbrev Step := Registration (Space × String) ValidationError

def registerRecoveryObjectID (path objectID : String) : Step :=
  .claim (.objectID, objectID) path fun previous =>
    ⟨path ++ ".object_id", "duplicates recovery object id claimed by " ++ previous⟩

def ProviderMetadata.operationKey (provider : ProviderMetadata) : String :=
  provider.providerID ++ "\x00" ++ provider.adapterID ++ "\x00" ++ provider.operationID

def registerProviderOperation (path : String) (provider : ProviderMetadata) : List Step :=
  if provider.operationID = "" then []
  else [.claim (.operation, provider.operationKey) path fun previous =>
    ⟨path ++ ".operation_id", "provider operation is already claimed by " ++ previous⟩]

def BackupArtifact.key (artifact : BackupArtifact) : String :=
  artifact.repositoryID ++ "\x00" ++ artifact.objectKey

def registerArtifact (path : String) : Option BackupArtifact → List Step
  | none => []
  | some artifact => [.claim (.artifact, artifact.key) path fun previous =>
      ⟨path ++ ".artifact.object_key", "artifact is already claimed by " ++ previous⟩]

def registerEvidenceOrigins (path : String) (evidence : List EvidenceReference) : List Step :=
  evidence.zipIdx.map fun (reference, index) =>
    .claim (.evidence, reference.id) (item path index) fun previous =>
      ⟨item path index ++ ".id", "evidence id is already claimed by " ++ previous⟩

def prefixedValidationError (path : String) (e : ValidationError) : ValidationError :=
  ⟨path ++ "." ++ e.field, e.message⟩

def RecoveryPoint.steps (p : RecoveryPoint) (index : Nat) : List Step :=
  let path := item "recovery_points" index
  [.tests (relabel (prefixedValidationError path) p.checks),
    registerRecoveryObjectID path p.objectID]

def BackupMetadata.steps (b : BackupMetadata) (index : Nat) : List Step :=
  let path := item "backups" index
  [.tests (relabel (prefixedValidationError path) b.checks),
    registerRecoveryObjectID path b.objectID] ++
    registerProviderOperation (path ++ ".provider") b.provider ++
    registerArtifact path b.artifact

def RestoreMetadata.steps (r : RestoreMetadata) (index : Nat) : List Step :=
  let path := item "restores" index
  [.tests (relabel (prefixedValidationError path) r.checks),
    registerRecoveryObjectID path r.objectID] ++
    registerProviderOperation (path ++ ".provider") r.provider ++
    (r.fencing.provider.elim [] (registerProviderOperation (path ++ ".fencing.provider"))) ++
    registerEvidenceOrigins (path ++ ".verification.evidence") r.verification.evidence ++
    registerEvidenceOrigins (path ++ ".fencing.evidence") r.fencing.evidence

def RecoveryObjectiveEvidence.steps (o : RecoveryObjectiveEvidence) (index : Nat) : List Step :=
  let path := item "objective_evidence" index
  [.tests (relabel (prefixedValidationError path) o.checks),
    registerRecoveryObjectID path o.objectID]

namespace RecoveryMetadataGraph

def steps (g : RecoveryMetadataGraph) : List Step :=
  (g.recoveryPoints.zipIdx.flatMap fun (p, index) => p.steps index) ++
    (g.backups.zipIdx.flatMap fun (b, index) => b.steps index) ++
    (g.restores.zipIdx.flatMap fun (r, index) => r.steps index) ++
    (g.objectiveEvidence.zipIdx.flatMap fun (o, index) => o.steps index)

/-! ## Looking records up

The source keeps the position of each id in a map. Ids differ once the first part has passed,
so the first record with an id is the only one. -/

def point? (g : RecoveryMetadataGraph) (id : String) : Option RecoveryPoint :=
  g.recoveryPoints.find? fun p => p.objectID == id

def backup? (g : RecoveryMetadataGraph) (id : String) : Option BackupMetadata :=
  g.backups.find? fun b => b.objectID == id

def restore? (g : RecoveryMetadataGraph) (id : String) : Option RestoreMetadata :=
  g.restores.find? fun r => r.objectID == id

end RecoveryMetadataGraph

inductive Channel where
  | verification
  | fencing
  deriving DecidableEq

structure EvidenceOrigin where
  restoreID : String
  channel : Channel
  evidence : EvidenceReference
  deriving DecidableEq

/-- Where the evidence of a restore comes from. -/
def RestoreMetadata.origins (r : RestoreMetadata) : List EvidenceOrigin :=
  r.verification.evidence.map (fun reference => ⟨r.objectID, .verification, reference⟩) ++
    r.fencing.evidence.map fun reference => ⟨r.objectID, .fencing, reference⟩

def RecoveryMetadataGraph.origin? (g : RecoveryMetadataGraph) (id : String) :
    Option EvidenceOrigin :=
  (g.restores.flatMap RestoreMetadata.origins).find? fun origin => origin.evidence.id == id

/-! ## Links -/

def validateLinkedOwnership (path : String) (left right : ObjectMetadata) : Tests :=
  [(left.scopeID != right.scopeID, ⟨path, "linked records have different scope_id"⟩),
    (left.ownerScope != right.ownerScope, ⟨path, "linked records have different owner_scope"⟩)]

def validReferencedBackupState (pointState : RecoveryPointState) (backupState : BackupState) :
    Bool :=
  match pointState with
  | .creating | .ready | .partially => backupState == .completed
  | .expired => successfulBackupState backupState
  | .failed => false

def sameProviderStorage (left right : ProviderMetadata) : Bool :=
  left.providerID == right.providerID && left.adapterID == right.adapterID &&
    left.version == right.version && left.repositoryID == right.repositoryID

def backupTargetsContain (backups : List BackupMetadata) (target : ObjectReference) : Bool :=
  backups.any fun b => b.target == target

def backupTargetsContainType (backups : List BackupMetadata) (target : ObjectReference) : Bool :=
  backups.any fun b =>
    b.target.kind == target.kind && b.target.statefulness == target.statefulness

/-- The point says when its backups were complete. -/
def settledPointState (state : RecoveryPointState) : Bool :=
  state == .ready || state == .partially || state == .expired

/-- The tests of a backup that a recovery point lists. -/
def outputChecks (path field : String) (p : RecoveryPoint) (b : BackupMetadata) : Tests :=
  [(b.recoveryPointID != p.objectID, ⟨field, "backup points to a different recovery point"⟩)] ++
    validateLinkedOwnership (path ++ ".backup_ids") p.toObjectMetadata b.toObjectMetadata ++
    [(!p.objects.contains b.target, ⟨field, "backup target is outside the recovery point"⟩),
      (!validReferencedBackupState p.state b.state,
        ⟨field, "backup state is not coherent with recovery point state"⟩),
      (decide (b.requestedAt < p.createdAt),
        ⟨field, "backup request predates recovery point creation"⟩),
      (b.completedAt.any fun completed =>
          settledPointState p.state && decide (p.updatedAt < completed),
        ⟨field, "backup completion follows recovery point updated_at"⟩)]

/-- The object is the target of a backup that the point lists. -/
def RecoveryMetadataGraph.covered (g : RecoveryMetadataGraph) (p : RecoveryPoint)
    (object : ObjectReference) : Bool :=
  p.backupIDs.any fun id => (g.backup? id).any fun b => b.target == object

def pointLinkChecks (g : RecoveryMetadataGraph) (p : RecoveryPoint) (index : Nat) : Tests :=
  let path := item "recovery_points" index
  (p.backupIDs.zipIdx.flatMap fun (id, position) =>
    let field := item (path ++ ".backup_ids") position
    foundChecks (g.backup? id) ⟨field, "referenced backup does not exist"⟩
      (outputChecks path field p)) ++
    if p.state = .ready then
      p.objects.zipIdx.flatMap fun (object, position) =>
        [(!g.covered p object, ⟨item (path ++ ".objects") position,
          "ready recovery point has no completed backup for this object"⟩)]
    else []

/-- What the state of a backup asks of its recovery point. -/
def backupPointStateChecks (path : String) (p : RecoveryPoint) (b : BackupMetadata) : Tests :=
  match b.state with
  | .planned | .running =>
      [(p.state != .creating,
        ⟨path ++ ".state", "active backup requires a CREATING recovery point"⟩)]
  | .failed =>
      [(p.state != .creating && p.state != .partially && p.state != .failed,
        ⟨path ++ ".state",
          "failed backup requires a CREATING, PARTIAL, or FAILED recovery point"⟩)]
  | .completed | .expired | .deleted => []

def backupLinkChecks (g : RecoveryMetadataGraph) (b : BackupMetadata) (index : Nat) : Tests :=
  let path := item "backups" index
  foundChecks (g.point? b.recoveryPointID)
    ⟨path ++ ".recovery_point_id", "referenced recovery point does not exist"⟩ fun p =>
    validateLinkedOwnership (path ++ ".recovery_point_id") b.toObjectMetadata
        p.toObjectMetadata ++
      [(!p.objects.contains b.target,
          ⟨path ++ ".target", "target is outside the referenced recovery point"⟩),
        (decide (b.requestedAt < p.createdAt) || decide (b.createdAt < p.createdAt),
          ⟨path ++ ".requested_at", "backup provenance predates recovery point creation"⟩),
        (successfulBackupState b.state && !p.backupIDs.contains b.objectID,
          ⟨path ++ ".object_id", "successful backup is not referenced by its recovery point"⟩),
        (!successfulBackupState b.state && p.backupIDs.contains b.objectID,
          ⟨path ++ ".object_id",
            "non-successful backup cannot be referenced as recovery point output"⟩)] ++
      backupPointStateChecks path p b

def validateRecoveryPointLinks (g : RecoveryMetadataGraph) : Tests :=
  (g.recoveryPoints.zipIdx.flatMap fun (p, index) => pointLinkChecks g p index) ++
    g.backups.zipIdx.flatMap fun (b, index) => backupLinkChecks g b index

/-- The artifact of the backup can be read. -/
def BackupMetadata.unavailable (b : BackupMetadata) : Bool :=
  (b.state != .completed && b.state != .expired) || b.artifact.isNone || b.completedAt.isNone

/-- The tests of the parent of a backup. -/
def parentChecks (path : String) (b parent : BackupMetadata) : Tests :=
  validateLinkedOwnership path b.toObjectMetadata parent.toObjectMetadata ++
    [(parent.target != b.target, ⟨path, "parent backup has a different target"⟩),
      (!sameProviderStorage parent.provider b.provider,
        ⟨path, "parent backup has different provider or repository provenance"⟩),
      (parent.unavailable, ⟨path, "parent backup is not an available completed artifact"⟩),
      (parent.completedAt.any fun completed => decide (b.requestedAt < completed),
        ⟨path, "parent backup completed after child request"⟩),
      (parent.dataCapturedAt.any fun captured => b.dataCapturedAt.any fun own =>
          decide (own < captured),
        ⟨path, "parent data capture follows child data capture"⟩),
      (b.mode == .differential && parent.mode != .full,
        ⟨path, "differential backup requires a FULL parent"⟩),
      (b.mode == .incremental && parent.mode != .full && parent.mode != .incremental,
        ⟨path, "incremental backup requires a FULL or INCREMENTAL parent"⟩)]

def parentLinkChecks (g : RecoveryMetadataGraph) (b : BackupMetadata) (index : Nat) : Tests :=
  if b.parentBackupID = "" then []
  else
    let path := item "backups" index ++ ".parent_backup_id"
    foundChecks (g.backup? b.parentBackupID) ⟨path, "referenced parent backup does not exist"⟩
      (parentChecks path b)

def validateBackupParentLinks (g : RecoveryMetadataGraph) : Tests :=
  g.backups.zipIdx.flatMap fun (b, index) => parentLinkChecks g b index

/-- The tests of a backup that a restore reads. -/
def sourceChecks (path field : String) (r : RestoreMetadata) (p : RecoveryPoint)
    (b : BackupMetadata) : Tests :=
  [(b.recoveryPointID != p.objectID || !p.backupIDs.contains b.objectID,
      ⟨field, "backup is not an output of the referenced recovery point"⟩)] ++
    validateLinkedOwnership (path ++ ".backup_ids") r.toObjectMetadata b.toObjectMetadata ++
    [(b.unavailable, ⟨field, "backup has no available completed artifact"⟩),
      (b.completedAt.any fun completed => decide (r.requestedAt < completed),
        ⟨field, "restore request predates backup completion"⟩),
      (!sameProviderStorage b.provider r.provider,
        ⟨field, "restore provider does not match backup artifact provenance"⟩)]

/-- The backup covers the target of a point-in-time restore. -/
def coversPITR (r : RestoreMetadata) (b : BackupMetadata) : Bool :=
  b.mode == .baseWAL && b.pitr.any fun window => r.pitrTargetAt.any fun target =>
    decide (window.earliestRestoreAt ≤ target) && decide (target ≤ window.latestRestoreAt)

/-- The tests of what a restore asks of its sources. -/
def coverageChecks (path : String) (r : RestoreMetadata) (p : RecoveryPoint)
    (sources : List BackupMetadata) : Tests :=
  (match r.mode with
    | .inPlace | .pitr | .objectLevel =>
        [(!p.objects.contains r.target || !backupTargetsContain sources r.target,
          ⟨path ++ ".target", "restore target is not covered by its recovery point backups"⟩)]
    | .alternate | .isolatedDrill =>
        [(!backupTargetsContainType sources r.target, ⟨path ++ ".target",
          "alternate/drill target type is not compatible with source backups"⟩)]) ++
    (r.requestedObjects.zipIdx.flatMap fun (requested, position) =>
      let field := item (path ++ ".requested_objects") position
      [(!p.objects.contains requested,
          ⟨field, "requested object is outside the recovery point"⟩),
        (!backupTargetsContain sources requested,
          ⟨field, "requested object is not covered by referenced backups"⟩)]) ++
    [(r.mode == .pitr && !sources.any (coversPITR r),
      ⟨path ++ ".pitr_target_at", "no referenced BASE_WAL backup covers the PITR target"⟩)] ++
    r.verification.evidence.zipIdx.flatMap fun (reference, position) =>
      [(r.startedAt.any fun started => decide (reference.recordedAt < started),
        ⟨item (path ++ ".verification.evidence") position ++ ".recorded_at",
          "verification evidence predates restore start"⟩)]

def restoreLinkChecks (g : RecoveryMetadataGraph) (r : RestoreMetadata) (index : Nat) : Tests :=
  let path := item "restores" index
  foundChecks (g.point? r.recoveryPointID)
    ⟨path ++ ".recovery_point_id", "referenced recovery point does not exist"⟩ fun p =>
    validateLinkedOwnership (path ++ ".recovery_point_id") r.toObjectMetadata
        p.toObjectMetadata ++
      [(p.state == .creating || p.state == .failed,
          ⟨path ++ ".recovery_point_id", "restore requires a completed recovery point"⟩),
        (decide (r.requestedAt < p.createdAt) || decide (r.createdAt < p.createdAt),
          ⟨path ++ ".requested_at", "restore provenance predates recovery point creation"⟩),
        (p.expiresAt.any fun expires => decide (expires ≤ r.requestedAt),
          ⟨path ++ ".requested_at",
            "restore request does not precede recovery point expiration"⟩)] ++
      (r.backupIDs.zipIdx.flatMap fun (id, position) =>
        let field := item (path ++ ".backup_ids") position
        foundChecks (g.backup? id) ⟨field, "referenced backup does not exist"⟩
          (sourceChecks path field r p)) ++
      coverageChecks path r p (r.backupIDs.filterMap g.backup?)

def validateRestoreLinks (g : RecoveryMetadataGraph) : Tests :=
  g.restores.zipIdx.flatMap fun (r, index) => restoreLinkChecks g r index

def validateEvidenceConsumers (g : RecoveryMetadataGraph) (path : String)
    (evidence : List EvidenceReference) (restoreID : String) (channel : Channel) : Tests :=
  evidence.zipIdx.flatMap fun (reference, position) =>
    foundChecks (g.origin? reference.id)
      ⟨item path position ++ ".id", "evidence has no restore provenance"⟩ fun origin =>
      [(origin.restoreID != restoreID || origin.channel != channel,
          ⟨item path position ++ ".id", "evidence belongs to a different restore provenance"⟩),
        (origin.evidence != reference,
          ⟨item path position, "evidence metadata differs from its immutable origin"⟩)]

/-- The tests of the restore that the health of a backup names. -/
def healthChecks (g : RecoveryMetadataGraph) (path : String) (b : BackupMetadata)
    (r : RestoreMetadata) : Tests :=
  validateLinkedOwnership (path ++ ".restore_id") b.toObjectMetadata r.toObjectMetadata ++
    [(r.recoveryPointID != b.recoveryPointID || !r.backupIDs.contains b.objectID,
        ⟨path ++ ".restore_id", "restore does not prove this backup and recovery point"⟩),
      (r.mode != .isolatedDrill || r.completedAt.isNone || r.verification.verifiedAt.isNone,
        ⟨path ++ ".restore_id", "backup health requires a completed isolated restore drill"⟩),
      (b.health.lastVerifiedAt.any fun last =>
          (r.completedAt.any fun completed => decide (last < completed)) ||
            r.verification.verifiedAt.any fun verified => decide (last < verified),
        ⟨path ++ ".last_verified_at",
          "must not precede linked restore completion and verification"⟩)] ++
    validateEvidenceConsumers g (path ++ ".evidence") b.health.evidence r.objectID
      .verification ++
    if b.health.state = .verified then
      [(r.state != .succeeded || r.verification.outcome != .passed,
        ⟨path ++ ".state", "VERIFIED requires a successful linked restore"⟩)]
    else
      [(r.state != .failed || r.verification.outcome != .failed,
        ⟨path ++ ".state", "DEGRADED requires a failed linked restore verification"⟩)]

def healthLinkChecks (g : RecoveryMetadataGraph) (b : BackupMetadata) (index : Nat) : Tests :=
  if b.health.state = .verified ∨ b.health.state = .degraded then
    let path := item "backups" index ++ ".health"
    foundChecks (g.restore? b.health.restoreID)
      ⟨path ++ ".restore_id", "referenced restore does not exist"⟩ (healthChecks g path b)
  else []

def validateBackupHealthLinks (g : RecoveryMetadataGraph) : Tests :=
  g.backups.zipIdx.flatMap fun (b, index) => healthLinkChecks g b index

/-- The seconds since 1970, as `Unix` counts them. -/
def unixSeconds (t : Time) : Int64 := Int64.ofInt (t / 1000000000 - 62135596800)

def nanosecond (t : Time) : Int := t % 1000000000

def elapsedSecondsCeiling (start finish : Time) : Option UInt64 :=
  if finish < start then none
  else
    let signBit : UInt64 := 9223372036854775808
    let startSeconds := (unixSeconds start).toUInt64 ^^^ signBit
    let endSeconds := (unixSeconds finish).toUInt64 ^^^ signBit
    let seconds := endSeconds - startSeconds
    if nanosecond start < nanosecond finish then
      if seconds = 18446744073709551615 then none else some (seconds + 1)
    else some seconds

/-- The restore reads a backup of the target, or was asked for it. The ids of a restore have
been looked up before. -/
def restoreCoversObjectiveTarget (g : RecoveryMetadataGraph) (r : RestoreMetadata)
    (target : ObjectReference) : Bool :=
  (r.backupIDs.any fun id => (g.backup? id).any fun b => b.target == target) ||
    r.requestedObjects.contains target

/-- The observed time is not below the time that the restore took. -/
def observedRTOChecks (path : String) (o : RecoveryObjectiveEvidence) (r : RestoreMetadata) :
    Tests :=
  match o.observedRTOSeconds, r.startedAt, r.completedAt with
  | some observed, some started, some completed =>
      match elapsedSecondsCeiling started completed with
      | none => [(true, ⟨path ++ ".observed_rto_seconds",
          "linked restore execution duration exceeds representable seconds"⟩)]
      | some minimum => [(decide (observed < minimum), ⟨path ++ ".observed_rto_seconds",
          "understates the linked restore execution duration"⟩)]
  | _, _, _ => []

/-- The result agrees with the end of the restore. -/
def objectiveResultChecks (path : String) (o : RecoveryObjectiveEvidence) (r : RestoreMetadata) :
    Tests :=
  match o.result with
  | .passed =>
      [(r.state != .succeeded || r.verification.outcome != .passed,
        ⟨path ++ ".result", "PASSED requires a successful linked restore"⟩)]
  | .failed =>
      [(r.state != .succeeded && r.state != .failed,
        ⟨path ++ ".result", "FAILED requires a terminal linked restore"⟩)]

/-- The tests of the point and the restore that an objective names. -/
def objectiveChecks (g : RecoveryMetadataGraph) (path : String) (o : RecoveryObjectiveEvidence)
    (p : RecoveryPoint) (r : RestoreMetadata) : Tests :=
  validateLinkedOwnership (path ++ ".recovery_point_id") o.toObjectMetadata
      p.toObjectMetadata ++
    validateLinkedOwnership (path ++ ".restore_id") o.toObjectMetadata r.toObjectMetadata ++
    [(r.recoveryPointID != p.objectID,
        ⟨path ++ ".restore_id", "restore belongs to a different recovery point"⟩),
      (r.mode != .isolatedDrill || r.completedAt.isNone || r.verification.verifiedAt.isNone,
        ⟨path ++ ".restore_id",
          "objective evidence requires a completed isolated restore drill"⟩),
      (!p.objects.contains o.target || !restoreCoversObjectiveTarget g r o.target,
        ⟨path ++ ".target", "target is not covered by the linked recovery point and restore"⟩),
      ((r.completedAt.any fun completed => decide (o.measuredAt < completed)) ||
          r.verification.verifiedAt.any fun verified => decide (o.measuredAt < verified),
        ⟨path ++ ".measured_at",
          "must not precede linked restore completion and verification"⟩),
      (decide (o.createdAt < o.measuredAt), ⟨path ++ ".created_at",
        "objective record cannot be created before its measurement"⟩)] ++
    validateEvidenceConsumers g (path ++ ".evidence") o.evidence r.objectID .verification ++
    objectiveResultChecks path o r ++ observedRTOChecks path o r

def objectiveLinkChecks (g : RecoveryMetadataGraph) (o : RecoveryObjectiveEvidence)
    (index : Nat) : Tests :=
  let path := item "objective_evidence" index
  foundChecks (g.point? o.recoveryPointID)
    ⟨path ++ ".recovery_point_id", "referenced recovery point does not exist"⟩ fun p =>
    foundChecks (g.restore? o.restoreID)
      ⟨path ++ ".restore_id", "referenced restore does not exist"⟩ fun r =>
      objectiveChecks g path o p r

def validateObjectiveLinks (g : RecoveryMetadataGraph) : Tests :=
  g.objectiveEvidence.zipIdx.flatMap fun (o, index) => objectiveLinkChecks g o index

/-! ## The validator -/

namespace RecoveryMetadataGraph

/-- The backup that a backup names as its parent. -/
def parent (g : RecoveryMetadataGraph) (id : String) : Option String :=
  (g.backup? id).bind fun b => if b.parentBackupID = "" then none else some b.parentBackupID

def known (g : RecoveryMetadataGraph) (id : String) : Bool := (g.backup? id).isSome

end RecoveryMetadataGraph

/-- The error of a walk up the parents. -/
def walkError (g : RecoveryMetadataGraph) : ParentWalk.WalkError String → ValidationError
  | .cycle id => ⟨"backups.parent_backup_id", "backup parent cycle detected at " ++ id⟩
  | .missing id =>
      ⟨item "backups" (g.backups.findIdx fun b => b.objectID == id) ++ ".parent_backup_id",
        "referenced parent backup does not exist"⟩

/-- The walk takes as many steps as it is given; `none` means that they did not suffice. -/
def validateBackupParentCycles (fuel : Nat) (g : RecoveryMetadataGraph) :
    Option (Except ValidationError Unit) :=
  (ParentWalk.visitAll g.parent g.known fuel [] (g.backups.map (·.objectID))).map
    (Except.mapError (walkError g))

/-- `ValidateRecoveryMetadataGraph`, with the steps of the walk. -/
def validateGraph (fuel : Nat) (g : RecoveryMetadataGraph) :
    Option (Except ValidationError Unit) :=
  match firstFailure (registrationChecks [] g.steps ++ validateRecoveryPointLinks g) with
  | .error e => some (.error e)
  | .ok () =>
      match validateBackupParentCycles fuel g with
      | none => none
      | some (.error e) => some (.error e)
      | some (.ok ()) =>
          some (firstFailure (validateBackupParentLinks g ++ validateRestoreLinks g ++
            validateBackupHealthLinks g ++ validateObjectiveLinks g))

/-- `ValidateRecoveryMetadataGraph` accepts the graph. -/
def Accepted (g : RecoveryMetadataGraph) : Prop := ∃ fuel, validateGraph fuel g = some (.ok ())

end ControlCenter.Recovery
