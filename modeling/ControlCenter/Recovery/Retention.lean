import ControlCenter.Recovery.GraphProperties

/-!
# Deleting an expired backup

Retention removes the artifact of an expired backup and keeps its record as deleted. The
record stays valid (`BackupMetadata.Parts.deleted`), and every reference to it that does not
need the artifact stays sound. A restore that lists the backup does need it, even when the
restore ended long ago: the graph after a deletion is accepted exactly when no restore lists
the backup (`deletion_accepted_iff`). The health of a verified or degraded backup names such a
restore, so the record of such a backup can never be turned into a deleted one
(`deletion_refused_after_drill`).
-/

set_option autoImplicit false

namespace ControlCenter.Recovery

open Library CoreContracts

/-- The backup after its artifact was deleted. -/
def BackupMetadata.deleted (b : BackupMetadata) (updatedAt : Time) (resourceVersion : String) :
    BackupMetadata :=
  { b with
    state := .deleted, artifact := none, updatedAt := updatedAt,
    resourceVersion := resourceVersion }

/-- The graph in which the backup with the id is deleted. -/
def RecoveryMetadataGraph.delete (g : RecoveryMetadataGraph) (id : String) (updatedAt : Time)
    (resourceVersion : String) : RecoveryMetadataGraph :=
  { g with
    backups := g.backups.map fun b =>
      if b.objectID = id then b.deleted updatedAt resourceVersion else b }

/-! ## The record -/

variable {b : BackupMetadata} {updatedAt : Time} {resourceVersion : String}

/-- **The deleted record of an expired backup is valid.** -/
theorem BackupMetadata.Parts.deleted (parts : b.Parts) (expired : b.state = .expired)
    (successor : IsSuccessor b.toObjectMetadata
      (b.deleted updatedAt resourceVersion).toObjectMetadata false) :
    (b.deleted updatedAt resourceVersion).Parts := by
  have later : b.updatedAt ≤ updatedAt := successor.updatedAt
  have order : Passes (b.deleted updatedAt resourceVersion).orderChecks := by
    have before := parts.order
    simp only [orderChecks, passes_cons, decide_eq_false_iff_not, not_lt] at before ⊢
    exact ⟨before.1.trans later, before.2⟩
  have observed : Passes (observedBy updatedAt
      [("started_at", b.startedAt), ("data_captured_at", b.dataCapturedAt),
        ("completed_at", b.completedAt),
        ("health.last_verified_at", b.health.lastVerifiedAt)]) := by
    obtain ⟨started, captured, completed, verified⟩ := parts.observed_le
    simp only [observedBy, List.map_cons, List.map_nil, passes_cons, passes_nil, and_true,
      any_eq_false, decide_eq_false_iff_not, not_lt]
    exact ⟨fun t set => (started t set).trans later, fun t set => (captured t set).trans later,
      fun t set => (completed t set).trans later, fun t set => (verified t set).trans later⟩
  have health : Passes (validateBackupHealth b.health .deleted) := by
    have before := parts.health
    rw [expired, validateBackupHealth] at before
    rw [validateBackupHealth]
    simp only [passes_append] at before ⊢
    refine ⟨⟨before.1.1, ?_⟩, before.2⟩
    have states := before.1.2
    unfold healthStateChecks at states ⊢
    cases kind : b.health.state <;>
      simp_all [successfulBackupState]
  have state : Passes (b.deleted updatedAt resourceVersion).stateChecks := by
    have before := parts.state
    simp only [stateChecks, expired, passes_cons, passes_nil, and_true,
      Bool.or_eq_false_iff] at before
    simp only [stateChecks, BackupMetadata.deleted, passes_cons, passes_nil, and_true,
      Bool.or_eq_false_iff]
    exact ⟨⟨⟨before.1.1.1, rfl⟩, before.1.2⟩, before.2⟩
  exact {
    schema := parts.schema
    metadata := successor.validNext
    recoveryPoint := parts.recoveryPoint
    target := parts.target
    scope := parts.scope
    provider := parts.provider
    capability := parts.capability
    mode := parts.mode
    artifact := passes_nil
    pitr := parts.pitr
    requested := parts.requested
    started := parts.started
    captured := parts.captured
    completed := parts.completed
    order := order
    observed := observed
    health := health
    verified := parts.verified
    recordedFrom := parts.recordedFrom
    recordedBy := fun reference inside => (parts.recordedBy reference inside).trans later
    failure := parts.failure
    state := state }

/-! ## The graph -/

section Delete

variable {g : RecoveryMetadataGraph} {id : String} {updatedAt : Time} {resourceVersion : String}

/-- The record of a backup after the deletion. -/
def afterDelete (id : String) (updatedAt : Time) (resourceVersion : String)
    (b : BackupMetadata) : BackupMetadata :=
  if b.objectID = id then b.deleted updatedAt resourceVersion else b

theorem afterDelete_of_ne {b : BackupMetadata} (other : b.objectID ≠ id) :
    afterDelete id updatedAt resourceVersion b = b := if_neg other

/-- What the deletion keeps of a backup. -/
structure Kept (b b' : BackupMetadata) : Prop where
  objectID : b'.objectID = b.objectID
  scopeID : b'.scopeID = b.scopeID
  ownerScope : b'.ownerScope = b.ownerScope
  createdAt : b'.createdAt = b.createdAt
  recoveryPointID : b'.recoveryPointID = b.recoveryPointID
  target : b'.target = b.target
  mode : b'.mode = b.mode
  parentBackupID : b'.parentBackupID = b.parentBackupID
  provider : b'.provider = b.provider
  pitr : b'.pitr = b.pitr
  requestedAt : b'.requestedAt = b.requestedAt
  dataCapturedAt : b'.dataCapturedAt = b.dataCapturedAt
  completedAt : b'.completedAt = b.completedAt
  health : b'.health = b.health

theorem kept (b : BackupMetadata) : Kept b (afterDelete id updatedAt resourceVersion b) := by
  unfold afterDelete
  split <;> exact ⟨rfl, rfl, rfl, rfl, rfl, rfl, rfl, rfl, rfl, rfl, rfl, rfl, rfl, rfl⟩

theorem mem_delete {b' : BackupMetadata} :
    b' ∈ (g.delete id updatedAt resourceVersion).backups ↔
      ∃ b ∈ g.backups, afterDelete id updatedAt resourceVersion b = b' := List.mem_map

/-- Backups with a property that the deletion keeps. -/
theorem exists_delete {P Q : BackupMetadata → Prop}
    (keeps : ∀ b b', Kept b b' → P b → Q b') (before : ∃ b ∈ g.backups, P b) :
    ∃ b ∈ (g.delete id updatedAt resourceVersion).backups, Q b := by
  obtain ⟨b, listed, holds⟩ := before
  exact ⟨_, mem_delete.mpr ⟨b, listed, rfl⟩, keeps b _ (kept b) holds⟩

theorem backup?_delete (wanted : String) :
    (g.delete id updatedAt resourceVersion).backup? wanted =
      (g.backup? wanted).map (afterDelete id updatedAt resourceVersion) := by
  rw [RecoveryMetadataGraph.backup?, RecoveryMetadataGraph.delete, List.find?_map]
  have same : ((fun b : BackupMetadata => b.objectID == wanted) ∘
      afterDelete id updatedAt resourceVersion) = fun b => b.objectID == wanted := by
    funext b
    rw [Function.comp_apply, (kept b).objectID]
  exact congrArg (fun test => (g.backups.find? test).map
    (afterDelete id updatedAt resourceVersion)) same

theorem parent_delete : (g.delete id updatedAt resourceVersion).parent = g.parent := by
  funext wanted
  rw [RecoveryMetadataGraph.parent, RecoveryMetadataGraph.parent, backup?_delete]
  cases g.backup? wanted with
  | none => rfl
  | some b =>
      rw [Option.map_some, Option.bind_some, Option.bind_some, (kept b).parentBackupID]

theorem known_delete : (g.delete id updatedAt resourceVersion).known = g.known := by
  funext wanted
  rw [RecoveryMetadataGraph.known, RecoveryMetadataGraph.known, backup?_delete,
    Option.isSome_map]

/-- The deletion claims nothing new. -/
theorem keys_delete : (g.delete id updatedAt resourceVersion).keys.Sublist g.keys := by
  have own : ((g.delete id updatedAt resourceVersion).backups.flatMap BackupMetadata.keys).Sublist
      (g.backups.flatMap BackupMetadata.keys) := by
    rw [RecoveryMetadataGraph.delete, List.flatMap_map]
    refine flatMap_sublist (fun b => ?_) _
    split
    · rw [BackupMetadata.keys, BackupMetadata.keys]
      exact (List.Sublist.refl _).append (List.nil_sublist _)
    · exact .refl _
  exact (((List.Sublist.refl _).append own).append (.refl _)).append (.refl _)

variable {r : RestoreMetadata} {p : RecoveryPoint}

theorem RestoreLinked.delete (linked : RestoreLinked g r p) (unlisted : id ∉ r.backupIDs) :
    RestoreLinked (g.delete id updatedAt resourceVersion) r p where
  owner := linked.owner
  state := linked.state
  requested := linked.requested
  created := linked.created
  unexpired := linked.unexpired
  sources wanted listed := by
    obtain ⟨b, member, rfl, source⟩ := linked.sources wanted listed
    have other : b.objectID ≠ id := fun same => unlisted (same ▸ listed)
    exact ⟨b, mem_delete.mpr ⟨b, member, afterDelete_of_ne other⟩, rfl, source⟩
  target mode := by
    obtain ⟨inside, covered⟩ := linked.target mode
    refine ⟨inside, exists_delete (fun b b' same => ?_) covered⟩
    rw [same.objectID, same.target]
    exact fun holds => holds
  targetType mode := by
    refine exists_delete (fun b b' same => ?_) (linked.targetType mode)
    rw [same.objectID, same.target]
    exact fun holds => holds
  requestedObjects object listed := by
    obtain ⟨inside, covered⟩ := linked.requestedObjects object listed
    refine ⟨inside, exists_delete (fun b b' same => ?_) covered⟩
    rw [same.objectID, same.target]
    exact fun holds => holds
  pitr mode := by
    refine exists_delete (fun b b' same => ?_) (linked.pitr mode)
    rw [same.objectID, coversPITR, coversPITR, same.mode, same.pitr]
    exact fun holds => holds
  evidence := linked.evidence

theorem ObjectiveLinked.delete {o : RecoveryObjectiveEvidence} (linked : ObjectiveLinked g o p r) :
    ObjectiveLinked (g.delete id updatedAt resourceVersion) o p r := by
  refine { linked with covered := linked.covered.imp_left fun covered => ?_ }
  refine exists_delete (fun b b' same => ?_) covered
  rw [same.objectID, same.target]
  exact fun holds => holds

theorem ParentLinked.child {b b' parent : BackupMetadata} (same : Kept b b')
    (linked : ParentLinked b parent) : ParentLinked b' parent where
  owner := ⟨same.scopeID.trans linked.owner.scope, same.ownerScope.trans linked.owner.owner⟩
  target := linked.target.trans same.target.symm
  storage := same.provider ▸ linked.storage
  available := linked.available
  completed := same.requestedAt ▸ linked.completed
  captured := same.dataCapturedAt ▸ linked.captured
  differential := same.mode ▸ linked.differential
  incremental := same.mode ▸ linked.incremental

theorem HealthLinked.kept {b b' : BackupMetadata} (same : Kept b b') (linked : HealthLinked b r) :
    HealthLinked b' r where
  owner := ⟨same.scopeID.trans linked.owner.scope, same.ownerScope.trans linked.owner.owner⟩
  recoveryPoint := linked.recoveryPoint.trans same.recoveryPointID.symm
  listed := same.objectID ▸ linked.listed
  drill := linked.drill
  completed := linked.completed
  verified := linked.verified
  afterCompletion := same.health ▸ linked.afterCompletion
  afterVerification := same.health ▸ linked.afterVerification
  evidence := same.health ▸ linked.evidence
  succeeded := same.health ▸ linked.succeeded
  failed := same.health ▸ linked.failed

/-- The record of an expired backup that an expired point lists, and of any other. -/
theorem Outputs.afterDelete {b : BackupMetadata} (outputs : Outputs p b)
    (expired : b.objectID = id → p.state = .expired) :
    Outputs p (afterDelete id updatedAt resourceVersion b) := by
  have same : Kept b (Recovery.afterDelete id updatedAt resourceVersion b) := Recovery.kept b
  refine ⟨same.recoveryPointID.trans outputs.recoveryPoint,
    ⟨outputs.owner.scope.trans same.scopeID.symm, outputs.owner.owner.trans same.ownerScope.symm⟩,
    same.target ▸ outputs.target, ?_, same.requestedAt ▸ outputs.requested,
    same.completedAt ▸ outputs.completed⟩
  unfold Recovery.afterDelete
  split
  · next own =>
      rw [expired own]
      rfl
  · exact outputs.state

theorem BackupLinked.afterDelete {b : BackupMetadata} (linked : BackupLinked p b)
    (expired : b.objectID = id → b.state = .expired) :
    BackupLinked p (afterDelete id updatedAt resourceVersion b) := by
  unfold Recovery.afterDelete
  split
  · next own =>
      refine ⟨⟨linked.owner.scope, linked.owner.owner⟩, linked.target, linked.requested,
        linked.created, ?_, ?_, ?_⟩
      · have listed := linked.listed
        rw [expired own] at listed
        exact listed
      · rintro (planned | running)
        · cases planned
        · cases running
      · intro failed
        cases failed
  · exact linked

end Delete

/-! ## When a deletion is accepted -/

/-- An expired backup that an expired point lists and no backup builds on. -/
structure Deletable (g : RecoveryMetadataGraph) (p : RecoveryPoint) (b : BackupMetadata) :
    Prop where
  point : p ∈ g.recoveryPoints
  expiredPoint : p.state = .expired
  backup : b ∈ g.backups
  expiredBackup : b.state = .expired
  listed : b.objectID ∈ p.backupIDs
  childless : ∀ child ∈ g.backups, child.parentBackupID ≠ b.objectID

/-- A deletion keeps the graph sound when no restore lists the backup. -/
theorem Sound.delete {g : RecoveryMetadataGraph} (sound : Sound g) {p : RecoveryPoint}
    (deletable : Deletable g p b)
    (successor : IsSuccessor b.toObjectMetadata
      (b.deleted updatedAt resourceVersion).toObjectMetadata false)
    (unlisted : ∀ r ∈ g.restores, b.objectID ∉ r.backupIDs) :
    Sound (g.delete b.objectID updatedAt resourceVersion) := by
  have own : ∀ {x}, x ∈ g.backups → x.objectID = b.objectID → x = b := fun listed same =>
    sound.unique.backup_eq listed deletable.backup same
  have holder := sound.outputs deletable.point deletable.backup deletable.listed
  constructor
  case records =>
    refine ⟨sound.records.points, fun x listed => ?_, sound.records.restores,
      sound.records.objectives⟩
    obtain ⟨x, member, rfl⟩ := mem_delete.mp listed
    by_cases same : x.objectID = b.objectID
    · rw [own member same, afterDelete, if_pos rfl, BackupMetadata.valid_iff]
      exact (sound.parts deletable.backup).deleted deletable.expiredBackup successor
    · rw [afterDelete_of_ne same]
      exact sound.records.backups x member
  case distinct => exact sound.distinct.sublist keys_delete
  case points =>
    intro q listed
    refine ⟨fun wanted output => ?_, fun ready object inside => ?_⟩
    · obtain ⟨x, member, rfl, outputs⟩ := (sound.points q listed).outputs wanted output
      refine ⟨_, mem_delete.mpr ⟨x, member, rfl⟩, (kept x).objectID,
        outputs.afterDelete fun same => ?_⟩
      -- The point that lists the backup is the one it belongs to, which has expired.
      have mine := own member same
      have point : q.objectID = p.objectID := by
        rw [← outputs.recoveryPoint, mine, holder.recoveryPoint]
      rw [sound.unique.point_eq listed deletable.point point, deletable.expiredPoint]
    · refine exists_delete (fun x x' same => ?_)
        ((sound.points q listed).covered ready object inside)
      rw [same.objectID, same.target]
      exact fun holds => holds
  case backups =>
    intro x listed
    obtain ⟨x, member, rfl⟩ := mem_delete.mp listed
    obtain ⟨q, point, belongs, linked⟩ := sound.backups x member
    refine ⟨q, point, belongs.trans (kept x).recoveryPointID.symm,
      linked.afterDelete fun same => ?_⟩
    rw [own member same]
    exact deletable.expiredBackup
  case grounded =>
    intro x listed
    obtain ⟨x, member, rfl⟩ := mem_delete.mp listed
    rw [parent_delete, known_delete, (kept x).objectID]
    exact sound.grounded x member
  case parents =>
    intro x listed
    obtain ⟨x, member, rfl⟩ := mem_delete.mp listed
    rw [(kept x).parentBackupID]
    intro named
    obtain ⟨parent, above, belongs, linked⟩ := sound.parents x member named
    have other : parent.objectID ≠ b.objectID := fun same =>
      deletable.childless x member (belongs ▸ same)
    exact ⟨parent, mem_delete.mpr ⟨parent, above, afterDelete_of_ne other⟩, belongs,
      linked.child (kept x)⟩
  case restores =>
    intro r listed
    obtain ⟨q, point, belongs, linked⟩ := sound.restores r listed
    exact ⟨q, point, belongs, linked.delete (unlisted r listed)⟩
  case health =>
    intro x listed
    obtain ⟨x, member, rfl⟩ := mem_delete.mp listed
    rw [(kept x).health]
    intro named
    obtain ⟨r, restore, belongs, linked⟩ := sound.health x member named
    exact ⟨r, restore, belongs, linked.kept (kept x)⟩
  case objectives =>
    intro o listed
    obtain ⟨q, point, belongs, r, restore, belongs', linked⟩ := sound.objectives o listed
    exact ⟨q, point, belongs, r, restore, belongs', linked.delete⟩

/-- A restore that lists a deleted backup is refused. -/
theorem not_sound_delete {g : RecoveryMetadataGraph} {r : RestoreMetadata}
    (restore : r ∈ g.restores) (listed : b.objectID ∈ r.backupIDs) :
    ¬ Sound (g.delete b.objectID updatedAt resourceVersion) := by
  intro sound
  obtain ⟨p, _, _, linked⟩ := sound.restores r restore
  obtain ⟨x, member, same, source⟩ := linked.sources _ listed
  obtain ⟨x, _, rfl⟩ := mem_delete.mp member
  have state := source.available.state
  rw [afterDelete, if_pos ((kept x).objectID.symm.trans same)] at state
  rcases state with completed | expired
  · cases completed
  · cases expired

/-- **A deletion is accepted exactly when no restore lists the backup.** -/
theorem deletion_accepted_iff {g : RecoveryMetadataGraph} {p : RecoveryPoint}
    {b : BackupMetadata} {updatedAt : Time} {resourceVersion : String} (accepted : Accepted g)
    (deletable : Deletable g p b) (successor : IsSuccessor b.toObjectMetadata
      (b.deleted updatedAt resourceVersion).toObjectMetadata false) :
    Accepted (g.delete b.objectID updatedAt resourceVersion) ↔
      ∀ r ∈ g.restores, b.objectID ∉ r.backupIDs := by
  rw [accepted_iff] at accepted ⊢
  constructor
  · intro sound r restore listed
    exact not_sound_delete restore listed sound
  · exact accepted.delete deletable successor

/-- The deletion of a backup that was verified, or found degraded, is refused. -/
theorem deletion_refused_after_drill {g : RecoveryMetadataGraph} {b : BackupMetadata}
    {updatedAt : Time} {resourceVersion : String} (accepted : Accepted g)
    (listed : b ∈ g.backups) (drilled : b.health.state = .verified ∨ b.health.state = .degraded) :
    ¬ Accepted (g.delete b.objectID updatedAt resourceVersion) := by
  rw [accepted_iff] at accepted ⊢
  obtain ⟨r, restore, _, linked⟩ := accepted.health b listed drilled
  exact not_sound_delete restore linked.listed

/-! ## An expired database backup -/

/-- The sample point after its expiration. -/
def expiredPoint : RecoveryPoint :=
  { samplePoint with updatedAt := 40, state := .expired, expiresAt := some 30 }

/-- The sample backup after the expiration of its point. -/
def expiredBackup : BackupMetadata := { sampleBackup with updatedAt := 45, state := .expired }

/-- The same backup, never drilled. -/
def undrilledBackup : BackupMetadata :=
  { expiredBackup with health := ⟨.unverified, none, "", []⟩ }

def expiredGraph : RecoveryMetadataGraph := ⟨[expiredPoint], [expiredBackup], [sampleDrill], []⟩

def undrilledGraph : RecoveryMetadataGraph := ⟨[expiredPoint], [undrilledBackup], [], []⟩

theorem undrilledGraph_accepted : Accepted undrilledGraph := ⟨2, by decide +kernel⟩

theorem undrilledGraph_deletable : Deletable undrilledGraph expiredPoint undrilledBackup :=
  ⟨by decide, rfl, by decide, rfl, by decide, by decide⟩

theorem undrilledBackup_successor : IsSuccessor undrilledBackup.toObjectMetadata
    (undrilledBackup.deleted 50 "2").toObjectMetadata false :=
  validateSuccessor_ok.mp (by decide +kernel)

/-- The backup that was never drilled can be deleted. -/
theorem deletion_accepted_undrilled : Accepted (undrilledGraph.delete "backup" 50 "2") :=
  (deletion_accepted_iff undrilledGraph_accepted undrilledGraph_deletable
    undrilledBackup_successor).mpr (fun _ listed => nomatch listed)

/-- The backup that was verified cannot, although its drill is over. -/
theorem deletion_refused_verified :
    Accepted expiredGraph ∧ Deletable expiredGraph expiredPoint expiredBackup ∧
      IsSuccessor expiredBackup.toObjectMetadata
        (expiredBackup.deleted 50 "2").toObjectMetadata false ∧
      expiredBackup.health.state = .verified ∧ sampleDrill.state = .succeeded ∧
      ¬ Accepted (expiredGraph.delete "backup" 50 "2") := by
  have accepted : Accepted expiredGraph := ⟨2, by decide +kernel⟩
  refine ⟨accepted, ⟨by decide, rfl, by decide, rfl, by decide, by decide⟩,
    validateSuccessor_ok.mp (by decide +kernel), rfl, rfl, ?_⟩
  exact @deletion_refused_after_drill _ expiredBackup _ _ accepted (by decide) (.inl rfl)

end ControlCenter.Recovery
