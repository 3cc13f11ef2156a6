import ControlCenter.Recovery.Soundness

/-!
# What the recovery graph guarantees

Four properties of every accepted graph. The ancestors of an incremental or differential
backup form a finite chain that ends at a full one (`Sound.ancestry`). A ready recovery point
has a completed backup of each of its objects (`Sound.ready`). A verified backup is listed by a
drill that succeeded, and the instants of the two are in order (`Sound.verified`). No two
backups share an id, a provider operation or an artifact (`Sound.apart`).

`recovery_graph_integrity` puts them together, with the termination of the validator and its
independence of the order of the records.
-/

set_option autoImplicit false

namespace ControlCenter.Recovery

open Library CoreContracts

/-! ## Ancestors -/

theorem SameOwner.trans {a b c : ObjectMetadata} (first : SameOwner a b)
    (second : SameOwner b c) : SameOwner a c :=
  ⟨first.scope.trans second.scope, first.owner.trans second.owner⟩

theorem SameStorage.trans {a b c : ProviderMetadata} (first : SameStorage a b)
    (second : SameStorage b c) : SameStorage a c :=
  ⟨first.provider.trans second.provider, first.adapter.trans second.adapter,
    first.version.trans second.version, first.repository.trans second.repository⟩

/-- The second backup is the parent of the first, and was complete before its request. -/
def Precedes (child parent : BackupMetadata) : Prop :=
  child.parentBackupID = parent.objectID ∧
    ∃ completed, parent.completedAt = some completed ∧ completed ≤ child.requestedAt

/-- The backup has an artifact that extends to the other backup. -/
structure Supports (g : RecoveryMetadataGraph) (b ancestor : BackupMetadata) : Prop where
  listed : ancestor ∈ g.backups
  artifact : ancestor.artifact.isSome = true
  target : ancestor.target = b.target
  owner : SameOwner b.toObjectMetadata ancestor.toObjectMetadata
  storage : SameStorage ancestor.provider b.provider

variable {g : RecoveryMetadataGraph} {b : BackupMetadata} {p : RecoveryPoint}

theorem Supports.trans {a c : BackupMetadata} (first : Supports g a b) (second : Supports g b c) :
    Supports g a c :=
  ⟨second.listed, second.artifact, second.target.trans first.target,
    first.owner.trans second.owner, second.storage.trans first.storage⟩

/-- The backups above a backup, up to a full one. -/
structure Ancestry (g : RecoveryMetadataGraph) (b : BackupMetadata)
    (ancestors : List BackupMetadata) : Prop where
  chain : List.IsChain Precedes (b :: ancestors)
  supports : ∀ ancestor ∈ ancestors, Supports g b ancestor
  full : ∃ last, ancestors.getLast? = some last ∧ last.mode = .full ∧ last.parentBackupID = ""

/-- The parent that the walk sees is the one that the backup names. -/
theorem Sound.parent_eq (sound : Sound g) (listed : b ∈ g.backups) (named : b.parentBackupID ≠ "") :
    g.parent b.objectID = some b.parentBackupID := by
  rw [RecoveryMetadataGraph.parent, sound.unique.backup?.mpr ⟨listed, rfl⟩, Option.bind_some,
    if_neg named]

theorem Sound.parts (sound : Sound g) (listed : b ∈ g.backups) : b.Parts :=
  BackupMetadata.valid_iff.mp (sound.records.backups b listed)

theorem Sound.pointMetadata (sound : Sound g) (listed : p ∈ g.recoveryPoints) :
    p.toObjectMetadata.Valid :=
  (sound.records.points p listed).metadata

/-- **Incremental and differential backups rest on a full one.** -/
theorem Sound.ancestry (sound : Sound g) (listed : b ∈ g.backups)
    (mode : b.mode = .incremental ∨ b.mode = .differential) :
    ∃ ancestors, Ancestry g b ancestors := by
  -- The induction is on the number of steps that the walk takes up to an end.
  obtain ⟨n, height⟩ := sound.grounded b listed
  induction n generalizing b with
  | zero =>
      cases height with
      | root top =>
          rw [sound.parent_eq listed ((sound.parts listed).parent_iff.mpr mode)] at top
          cases top
  | succ n ih =>
      have named := (sound.parts listed).parent_iff.mpr mode
      obtain ⟨parent, member, own, linked⟩ := sound.parents b listed named
      cases height with
      | up edge known above =>
          rw [sound.parent_eq listed named, ← own] at edge
          cases edge
          obtain ⟨completed, isCompleted⟩ := Option.isSome_iff_exists.mp linked.available.completed
          have precedes : Precedes b parent :=
            ⟨own.symm, completed, isCompleted, linked.completed completed isCompleted⟩
          have supports : Supports g b parent :=
            ⟨member, linked.available.artifact, linked.target, linked.owner, linked.storage⟩
          have kind : parent.mode = .full ∨ parent.mode = .incremental := by
            rcases mode with incremental | differential
            · exact linked.incremental incremental
            · exact .inl (linked.differential differential)
          rcases kind with full | incremental
          · have root : parent.parentBackupID = "" := by
              by_contra other
              have := (sound.parts member).parent_iff.mp other
              simp [full] at this
            exact ⟨[parent], by simpa using precedes, by simpa using supports, parent, rfl, full,
              root⟩
          · obtain ⟨ancestors, chain, supported, last, isLast, full⟩ :=
              ih member (.inl incremental) above
            refine ⟨parent :: ancestors, .cons_cons precedes chain, ?_, last, ?_, full⟩
            · rw [List.forall_mem_cons]
              exact ⟨supports, fun ancestor inside => supports.trans (supported ancestor inside)⟩
            · rw [List.getLast?_cons, isLast, Option.getD_some]

/-! ## Ready recovery points -/

/-- A listed backup is one that the point may list. -/
theorem Sound.outputs (sound : Sound g) (listed : p ∈ g.recoveryPoints) (member : b ∈ g.backups)
    (output : b.objectID ∈ p.backupIDs) : Outputs p b := by
  obtain ⟨b', member', own, outputs⟩ := (sound.points p listed).outputs _ output
  rwa [sound.unique.backup_eq member' member own] at outputs

/-- **A ready point has a completed backup of each object.** -/
theorem Sound.ready (sound : Sound g) (listed : p ∈ g.recoveryPoints) (ready : p.state = .ready)
    {object : ObjectReference} (inside : object ∈ p.objects) :
    ∃ b ∈ g.backups, b.objectID ∈ p.backupIDs ∧ b.target = object ∧ b.state = .completed := by
  obtain ⟨b, member, output, target⟩ := (sound.points p listed).covered ready object inside
  have state := (sound.outputs listed member output).state
  rw [ready] at state
  exact ⟨b, member, output, target, by simpa [validReferencedBackupState] using state⟩

/-! ## Verified backups -/

/-- The drill that verified a backup, with the instants of both in order. -/
structure VerifiedBy (b : BackupMetadata) (r : RestoreMetadata) (backupCompleted started
    restoreCompleted lastVerified : Time) : Prop where
  listed : b.objectID ∈ r.backupIDs
  recoveryPoint : r.recoveryPointID = b.recoveryPointID
  succeeded : r.state = .succeeded
  passed : r.verification.outcome = .passed
  drill : r.mode = .isolatedDrill
  backupCompletedAt : b.completedAt = some backupCompleted
  startedAt : r.startedAt = some started
  restoreCompletedAt : r.completedAt = some restoreCompleted
  lastVerifiedAt : b.health.lastVerifiedAt = some lastVerified
  request : backupCompleted ≤ r.requestedAt
  start : r.requestedAt ≤ started
  recorded : ∀ reference ∈ b.health.evidence,
    started ≤ reference.recordedAt ∧ reference.recordedAt ≤ restoreCompleted
  completion : started ≤ restoreCompleted ∧ restoreCompleted ≤ lastVerified
  update : lastVerified ≤ b.updatedAt
  evidence : ∀ reference ∈ b.health.evidence, reference ∈ r.verification.evidence
  drillEvidence : ∃ reference ∈ b.health.evidence, reference.kind = .restoreDrill
  testEvidence : ∃ reference ∈ b.health.evidence, reference.kind = .functionalTest

/-- **A verified backup was verified by a drill.** -/
theorem Sound.verified (sound : Sound g) (listed : b ∈ g.backups)
    (state : b.health.state = .verified) :
    ∃ r ∈ g.restores, ∃ backupCompleted started restoreCompleted lastVerified,
      VerifiedBy b r backupCompleted started restoreCompleted lastVerified := by
  obtain ⟨r, member, _, linked⟩ := sound.health b listed (.inl state)
  obtain ⟨last, isLast, update, drill, test⟩ := (sound.parts listed).verified_at state
  obtain ⟨succeeded, passed⟩ := linked.succeeded state
  obtain ⟨started, completed, verified, isStarted, isCompleted, _, _, start, within, recorded⟩ :=
    (RestoreMetadata.valid_iff.mp (sound.records.restores r member)).succeeded succeeded
  obtain ⟨p, point, _, allowed⟩ := sound.restores r member
  obtain ⟨b', member', own, source⟩ := allowed.sources _ linked.listed
  rw [sound.unique.backup_eq member' listed own] at source
  obtain ⟨done, isDone⟩ := Option.isSome_iff_exists.mp source.available.completed
  have between : ∀ reference ∈ b.health.evidence,
      started ≤ reference.recordedAt ∧ reference.recordedAt ≤ completed := by
    intro reference inside
    have own := linked.evidence reference inside
    exact ⟨allowed.evidence reference own started isStarted, (recorded reference own).trans within⟩
  have order : started ≤ completed := by
    obtain ⟨reference, inside, _⟩ := drill
    exact (between reference inside).1.trans (between reference inside).2
  exact ⟨r, member, done, started, completed, last, {
    listed := linked.listed
    recoveryPoint := linked.recoveryPoint
    succeeded := succeeded
    passed := passed
    drill := linked.drill
    backupCompletedAt := isDone
    startedAt := isStarted
    restoreCompletedAt := isCompleted
    lastVerifiedAt := isLast
    request := source.completed done isDone
    start := start
    recorded := between
    completion := ⟨order, linked.afterCompletion last isLast completed isCompleted⟩
    update := update
    evidence := linked.evidence
    drillEvidence := drill
    testEvidence := test }⟩

/-! ## Backups that share nothing -/

/-- The backups have different ids, provider operations and artifacts. -/
structure Apart (b b' : BackupMetadata) : Prop where
  objectID : b.objectID ≠ b'.objectID
  operation : b.provider.operationID ≠ "" → ¬ (b.provider.providerID = b'.provider.providerID ∧
    b.provider.adapterID = b'.provider.adapterID ∧
    b.provider.operationID = b'.provider.operationID)
  artifact : ∀ artifact, b.artifact = some artifact → ∀ artifact', b'.artifact = some artifact' →
    ¬ (artifact.repositoryID = artifact'.repositoryID ∧
      artifact.objectKey = artifact'.objectKey)

theorem apart_of_disjoint {b' : BackupMetadata} (disjoint : b.keys.Disjoint b'.keys) :
    Apart b b' where
  objectID same := disjoint (a := (.objectID, b.objectID)) (by simp [BackupMetadata.keys])
    (by simp [BackupMetadata.keys, same])
  operation := by
    rintro named ⟨provider, adapter, operation⟩
    have same : b.provider.operationKey = b'.provider.operationKey := by
      rw [ProviderMetadata.operationKey, ProviderMetadata.operationKey, provider, adapter,
        operation]
    have named' : b'.provider.operationID ≠ "" := operation ▸ named
    exact disjoint (a := (.operation, b.provider.operationKey))
      (by simp [BackupMetadata.keys, ProviderMetadata.keys, named])
      (by simp [BackupMetadata.keys, ProviderMetadata.keys, named', same])
  artifact := by
    rintro artifact isArtifact artifact' isArtifact' ⟨repository, object⟩
    have same : artifact.key = artifact'.key := by
      rw [BackupArtifact.key, BackupArtifact.key, repository, object]
    exact disjoint (a := (.artifact, artifact.key))
      (by simp [BackupMetadata.keys, isArtifact])
      (by simp [BackupMetadata.keys, isArtifact', same])

/-- **No two backups share an id, an operation or an artifact.** -/
theorem Sound.apart (sound : Sound g) : g.backups.Pairwise Apart := by
  have own : (g.backups.flatMap BackupMetadata.keys).Nodup :=
    sound.distinct.sublist (((List.sublist_append_right _ _).trans
      (List.sublist_append_left _ _)).trans (List.sublist_append_left _ _))
  exact (List.nodup_flatMap.mp own).2.imp fun disjoint => apart_of_disjoint disjoint

/-! ## The guarantees together -/

/-- **The integrity of recovery graphs.** The validator ends for every graph, the order of the
records does not matter to it, and what it accepts has the four properties. -/
theorem recovery_graph_integrity :
    (∀ g, ∃ result, ∀ fuel, g.backups.length < fuel → validateGraph fuel g = some result) ∧
    (∀ g g', g.Reordered g' → (Accepted g ↔ Accepted g')) ∧
    ∀ g, Accepted g →
      (∀ b ∈ g.backups, b.mode = .incremental ∨ b.mode = .differential →
        ∃ ancestors, Ancestry g b ancestors) ∧
      (∀ p ∈ g.recoveryPoints, p.state = .ready → ∀ object ∈ p.objects,
        ∃ b ∈ g.backups, b.objectID ∈ p.backupIDs ∧ b.target = object ∧
          b.state = .completed) ∧
      (∀ b ∈ g.backups, b.health.state = .verified →
        ∃ r ∈ g.restores, ∃ backupCompleted started restoreCompleted lastVerified,
          VerifiedBy b r backupCompleted started restoreCompleted lastVerified) ∧
      g.backups.Pairwise Apart := by
  refine ⟨validateGraph_ends, fun g g' reordered => ?_, fun g accepted => ?_⟩
  · rw [accepted_iff, accepted_iff]
    exact ⟨fun sound => sound.perm reordered, fun sound => sound.perm reordered.symm⟩
  · have sound := accepted_iff.mp accepted
    exact ⟨fun b listed mode => sound.ancestry listed mode,
      fun p listed ready object inside => sound.ready listed ready inside,
      fun b listed state => sound.verified listed state, sound.apart⟩

/-! ## A drilled database -/

def sampleObject : ObjectReference := ⟨.database, "db", "site", .stateful⟩

def sampleDigest : String :=
  "sha256:0000000000000000000000000000000000000000000000000000000000000000"

def sampleProvider (operationID : String) (capabilities : List ProviderCapability) :
    ProviderMetadata :=
  ⟨"provider", "adapter", "1.0.0", "repository", operationID, capabilities⟩

def sampleMetadata (id : String) (createdAt updatedAt : Time) : ObjectMetadata :=
  ⟨id, "site", "owner", 1, "1", createdAt, updatedAt⟩

def sampleEvidence : List EvidenceReference :=
  [⟨"e1", .restoreDrill, "log", sampleDigest, 12⟩,
    ⟨"e2", .functionalTest, "test", sampleDigest, 12⟩]

/-- A point with one object. -/
def samplePoint : RecoveryPoint :=
  { toObjectMetadata := sampleMetadata "point" 1 5
    schemaVersion := recoveryPointSchemaVersion
    state := .ready
    trigger := .preChange
    consistency := .application
    objects := [sampleObject]
    backupIDs := ["backup"]
    changeID := "change"
    expiresAt := some 100
    failure := none }

/-- A full backup, verified at 15. -/
def sampleBackup : BackupMetadata :=
  { toObjectMetadata := sampleMetadata "backup" 2 20
    schemaVersion := backupMetadataSchemaVersion
    recoveryPointID := "point"
    target := sampleObject
    mode := .full
    state := .completed
    parentBackupID := ""
    provider := sampleProvider "op1" [.backup]
    artifact := some ⟨"repository", "db/full", 1, sampleDigest, .none, ""⟩
    pitr := none
    requestedAt := 2
    startedAt := some 2
    dataCapturedAt := some 3
    completedAt := some 4
    health := ⟨.verified, some 15, "drill", sampleEvidence⟩
    failure := none }

/-- The drill that verified it, at 13. -/
def sampleDrill : RestoreMetadata :=
  { toObjectMetadata := sampleMetadata "drill" 10 15
    schemaVersion := restoreMetadataSchemaVersion
    recoveryPointID := "point"
    backupIDs := ["backup"]
    mode := .isolatedDrill
    state := .succeeded
    target := sampleObject
    requestedObjects := []
    provider := sampleProvider "op2" [.restore, .restoreDrill]
    fencing := ⟨.notRequired, [], 0, none, none, [], none⟩
    requestedAt := 10
    startedAt := some 11
    completedAt := some 14
    pitrTargetAt := none
    verification := ⟨.passed, some 13, sampleEvidence⟩
    failure := none }

def sampleGraph : RecoveryMetadataGraph := ⟨[samplePoint], [sampleBackup], [sampleDrill], []⟩

theorem sampleGraph_accepted : Accepted sampleGraph := ⟨2, by decide +kernel⟩

/-- A second point, with an increment of the sample backup. -/
def incrementPoint : RecoveryPoint :=
  { samplePoint with
    toObjectMetadata := sampleMetadata "increments" 21 25, backupIDs := ["increment"] }

def incrementBackup : BackupMetadata :=
  { sampleBackup with
    toObjectMetadata := sampleMetadata "increment" 22 25
    recoveryPointID := "increments"
    mode := .incremental
    parentBackupID := "backup"
    provider := sampleProvider "op3" [.backup]
    artifact := some ⟨"repository", "db/increment", 1, sampleDigest, .none, ""⟩
    requestedAt := 22
    startedAt := some 22
    dataCapturedAt := some 23
    completedAt := some 24
    health := ⟨.unverified, none, "", []⟩ }

def incrementGraph : RecoveryMetadataGraph :=
  ⟨[incrementPoint, samplePoint], [incrementBackup, sampleBackup], [sampleDrill], []⟩

/-- The four properties, for an increment of a drilled backup. -/
theorem recovery_graph_integrity_sample :
    Accepted incrementGraph ∧
      (∃ ancestors, Ancestry incrementGraph incrementBackup ancestors) ∧
      (∃ b ∈ incrementGraph.backups, b.objectID ∈ incrementPoint.backupIDs ∧
        b.target = sampleObject ∧ b.state = .completed) ∧
      (∃ r ∈ incrementGraph.restores, ∃ backupCompleted started restoreCompleted lastVerified,
        VerifiedBy sampleBackup r backupCompleted started restoreCompleted lastVerified) ∧
      Apart incrementBackup sampleBackup := by
  have accepted : Accepted incrementGraph := ⟨3, by decide +kernel⟩
  obtain ⟨ancestry, ready, verified, apart⟩ := recovery_graph_integrity.2.2 _ accepted
  exact ⟨accepted, ancestry incrementBackup List.mem_cons_self (.inl rfl),
    ready incrementPoint List.mem_cons_self rfl sampleObject List.mem_cons_self,
    verified sampleBackup (by simp [incrementGraph]) rfl, by simpa [incrementGraph] using apart⟩

end ControlCenter.Recovery
