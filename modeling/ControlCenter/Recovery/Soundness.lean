import ControlCenter.Recovery.Integrity

/-!
# What an accepted recovery graph is

The tests of a record say something of the records it refers to. That is stated here without
positions, paths or lookups (`Outputs`, `BackupLinked`, `ParentLinked`, `RestoreLinked`,
`HealthLinked`, `ObjectiveLinked`), and each statement is what its tests decide. The validator
ends for every graph (`validateGraph_ends`) and accepts a graph exactly when it is `Sound`
(`accepted_iff`). A sound graph stays sound when its lists are reordered (`Sound.perm`).
-/

set_option autoImplicit false

namespace ControlCenter.Recovery

open Library CoreContracts

/-! ## The links of a record -/

structure SameOwner (left right : ObjectMetadata) : Prop where
  scope : left.scopeID = right.scopeID
  owner : left.ownerScope = right.ownerScope

variable {path : String} {p : RecoveryPoint} {b : BackupMetadata} {g : RecoveryMetadataGraph}

@[simp] theorem passes_validateLinkedOwnership {left right : ObjectMetadata} :
    Passes (validateLinkedOwnership path left right) ↔ SameOwner left right := by
  simp only [validateLinkedOwnership, passes_cons, passes_nil, and_true, bne_eq_false_iff_eq]
  constructor
  · rintro ⟨scope, owner⟩
    exact ⟨scope, owner⟩
  · rintro ⟨scope, owner⟩
    exact ⟨scope, owner⟩

/-- The backup is one that the recovery point may list. -/
structure Outputs (p : RecoveryPoint) (b : BackupMetadata) : Prop where
  recoveryPoint : b.recoveryPointID = p.objectID
  owner : SameOwner p.toObjectMetadata b.toObjectMetadata
  target : b.target ∈ p.objects
  state : validReferencedBackupState p.state b.state = true
  requested : p.createdAt ≤ b.requestedAt
  completed : ∀ completed, b.completedAt = some completed → settledPointState p.state = true →
    completed ≤ p.updatedAt

theorem passes_outputChecks {field : String} :
    Passes (outputChecks path field p b) ↔ Outputs p b := by
  simp only [outputChecks, passes_append, passes_cons, passes_nil, and_true,
    passes_validateLinkedOwnership, bne_eq_false_iff_eq, Bool.not_eq_false', any_eq_false,
    List.contains_eq_mem, decide_eq_true_eq, decide_eq_false_iff_not, not_lt,
    Bool.and_eq_false_imp]
  constructor
  · rintro ⟨⟨point, owner⟩, target, state, requested, completed⟩
    exact ⟨point, owner, target, state, requested, completed⟩
  · rintro ⟨point, owner, target, state, requested, completed⟩
    exact ⟨⟨point, owner⟩, target, state, requested, completed⟩

/-- The backup belongs to the recovery point. -/
structure BackupLinked (p : RecoveryPoint) (b : BackupMetadata) : Prop where
  owner : SameOwner b.toObjectMetadata p.toObjectMetadata
  target : b.target ∈ p.objects
  requested : p.createdAt ≤ b.requestedAt
  created : p.createdAt ≤ b.createdAt
  listed : successfulBackupState b.state = true ↔ b.objectID ∈ p.backupIDs
  active : b.state = .planned ∨ b.state = .running → p.state = .creating
  failed : b.state = .failed →
    p.state = .creating ∨ p.state = .partially ∨ p.state = .failed

theorem passes_backupPointStateChecks :
    Passes (backupPointStateChecks path p b) ↔
      (b.state = .planned ∨ b.state = .running → p.state = .creating) ∧
      (b.state = .failed →
        p.state = .creating ∨ p.state = .partially ∨ p.state = .failed) := by
  unfold backupPointStateChecks
  cases b.state <;> cases p.state <;> simp

/-- The tests of a backup against its recovery point. -/
theorem passes_backupLinkChecks {index : Nat} :
    Passes (backupLinkChecks g b index) ↔
      ∃ p, g.point? b.recoveryPointID = some p ∧ BackupLinked p b := by
  rw [backupLinkChecks, passes_foundChecks]
  refine exists_congr fun p => and_congr_right fun _ => ?_
  simp only [passes_append, passes_cons, passes_nil, and_true, passes_validateLinkedOwnership,
    passes_backupPointStateChecks, Bool.not_eq_false', Bool.or_eq_false_iff,
    List.contains_eq_mem, decide_eq_true_eq, decide_eq_false_iff_not, not_lt]
  have agree : (successfulBackupState b.state && !decide (b.objectID ∈ p.backupIDs)) = false ∧
      (!successfulBackupState b.state && decide (b.objectID ∈ p.backupIDs)) = false ↔
        (successfulBackupState b.state = true ↔ b.objectID ∈ p.backupIDs) := by
    cases successfulBackupState b.state <;> simp
  constructor
  · rintro ⟨⟨owner, target, ⟨requested, created⟩, listed⟩, active, failed⟩
    exact ⟨owner, target, requested, created, agree.mp listed, active, failed⟩
  · rintro ⟨owner, target, requested, created, listed, active, failed⟩
    exact ⟨⟨owner, target, ⟨requested, created⟩, agree.mpr listed⟩, active, failed⟩

structure SameStorage (left right : ProviderMetadata) : Prop where
  provider : left.providerID = right.providerID
  adapter : left.adapterID = right.adapterID
  version : left.version = right.version
  repository : left.repositoryID = right.repositoryID

theorem sameProviderStorage_iff {left right : ProviderMetadata} :
    sameProviderStorage left right = true ↔ SameStorage left right := by
  simp only [sameProviderStorage, Bool.and_eq_true, beq_iff_eq]
  constructor
  · rintro ⟨⟨⟨provider, adapter⟩, version⟩, repository⟩
    exact ⟨provider, adapter, version, repository⟩
  · rintro ⟨provider, adapter, version, repository⟩
    exact ⟨⟨⟨provider, adapter⟩, version⟩, repository⟩

/-- The artifact of the backup can be read. -/
structure Available (b : BackupMetadata) : Prop where
  state : b.state = .completed ∨ b.state = .expired
  artifact : b.artifact.isSome = true
  completed : b.completedAt.isSome = true

theorem unavailable_eq_false : b.unavailable = false ↔ Available b := by
  have state : (b.state != .completed && b.state != .expired) = false ↔
      b.state = .completed ∨ b.state = .expired := by
    cases b.state <;> decide
  simp only [BackupMetadata.unavailable, Bool.or_eq_false_iff, state,
    Option.isNone_eq_false_iff]
  constructor
  · rintro ⟨⟨state, artifact⟩, completed⟩
    exact ⟨state, artifact, completed⟩
  · rintro ⟨state, artifact, completed⟩
    exact ⟨⟨state, artifact⟩, completed⟩

/-- The second backup may be the parent of the first. -/
structure ParentLinked (b parent : BackupMetadata) : Prop where
  owner : SameOwner b.toObjectMetadata parent.toObjectMetadata
  target : parent.target = b.target
  storage : SameStorage parent.provider b.provider
  available : Available parent
  completed : ∀ completed, parent.completedAt = some completed → completed ≤ b.requestedAt
  captured : ∀ captured, parent.dataCapturedAt = some captured →
    ∀ own, b.dataCapturedAt = some own → captured ≤ own
  differential : b.mode = .differential → parent.mode = .full
  incremental : b.mode = .incremental → parent.mode = .full ∨ parent.mode = .incremental

theorem passes_parentChecks {parent : BackupMetadata} :
    Passes (parentChecks path b parent) ↔ ParentLinked b parent := by
  have differential : (b.mode == .differential && parent.mode != .full) = false ↔
      (b.mode = .differential → parent.mode = .full) := by
    cases b.mode <;> cases parent.mode <;> decide
  have incremental : (b.mode == .incremental && parent.mode != .full &&
      parent.mode != .incremental) = false ↔
        (b.mode = .incremental → parent.mode = .full ∨ parent.mode = .incremental) := by
    cases b.mode <;> cases parent.mode <;> decide
  simp only [parentChecks, passes_append, passes_cons, passes_nil, and_true,
    passes_validateLinkedOwnership, bne_eq_false_iff_eq, Bool.not_eq_false',
    sameProviderStorage_iff, unavailable_eq_false, any_eq_false, decide_eq_false_iff_not, not_lt,
    differential, incremental]
  constructor
  · rintro ⟨owner, target, storage, available, completed, captured, differential, incremental⟩
    exact ⟨owner, target, storage, available, completed, captured, differential, incremental⟩
  · rintro ⟨owner, target, storage, available, completed, captured, differential, incremental⟩
    exact ⟨owner, target, storage, available, completed, captured, differential, incremental⟩

/-- The restore may read the backup. -/
structure Source (r : RestoreMetadata) (p : RecoveryPoint) (b : BackupMetadata) : Prop where
  recoveryPoint : b.recoveryPointID = p.objectID
  listed : b.objectID ∈ p.backupIDs
  owner : SameOwner r.toObjectMetadata b.toObjectMetadata
  available : Available b
  completed : ∀ completed, b.completedAt = some completed → completed ≤ r.requestedAt
  storage : SameStorage b.provider r.provider

theorem passes_sourceChecks {field : String} {r : RestoreMetadata} :
    Passes (sourceChecks path field r p b) ↔ Source r p b := by
  simp only [sourceChecks, passes_append, passes_cons, passes_nil, and_true,
    passes_validateLinkedOwnership, Bool.or_eq_false_iff, bne_eq_false_iff_eq,
    Bool.not_eq_false', List.contains_eq_mem, decide_eq_true_eq, sameProviderStorage_iff,
    unavailable_eq_false, any_eq_false, decide_eq_false_iff_not, not_lt]
  constructor
  · rintro ⟨⟨⟨point, listed⟩, owner⟩, available, completed, storage⟩
    exact ⟨point, listed, owner, available, completed, storage⟩
  · rintro ⟨point, listed, owner, available, completed, storage⟩
    exact ⟨⟨⟨point, listed⟩, owner⟩, available, completed, storage⟩

/-- The drill that the health of a backup names. -/
structure HealthLinked (b : BackupMetadata) (r : RestoreMetadata) : Prop where
  owner : SameOwner b.toObjectMetadata r.toObjectMetadata
  recoveryPoint : r.recoveryPointID = b.recoveryPointID
  listed : b.objectID ∈ r.backupIDs
  drill : r.mode = .isolatedDrill
  completed : r.completedAt.isSome = true
  verified : r.verification.verifiedAt.isSome = true
  afterCompletion : ∀ last, b.health.lastVerifiedAt = some last →
    ∀ completed, r.completedAt = some completed → completed ≤ last
  afterVerification : ∀ last, b.health.lastVerifiedAt = some last →
    ∀ verified, r.verification.verifiedAt = some verified → verified ≤ last
  evidence : ∀ reference ∈ b.health.evidence, reference ∈ r.verification.evidence
  succeeded : b.health.state = .verified → r.state = .succeeded ∧ r.verification.outcome = .passed
  failed : b.health.state ≠ .verified → r.state = .failed ∧ r.verification.outcome = .failed

/-- The restore is one that the recovery point allows. -/
structure RestoreLinked (g : RecoveryMetadataGraph) (r : RestoreMetadata) (p : RecoveryPoint) :
    Prop where
  owner : SameOwner r.toObjectMetadata p.toObjectMetadata
  state : p.state ≠ .creating ∧ p.state ≠ .failed
  requested : p.createdAt ≤ r.requestedAt
  created : p.createdAt ≤ r.createdAt
  unexpired : ∀ expires, p.expiresAt = some expires → r.requestedAt < expires
  sources : ∀ id ∈ r.backupIDs, ∃ b ∈ g.backups, b.objectID = id ∧ Source r p b
  target : r.mode = .inPlace ∨ r.mode = .pitr ∨ r.mode = .objectLevel →
    r.target ∈ p.objects ∧ ∃ b ∈ g.backups, b.objectID ∈ r.backupIDs ∧ b.target = r.target
  targetType : r.mode = .alternate ∨ r.mode = .isolatedDrill →
    ∃ b ∈ g.backups, b.objectID ∈ r.backupIDs ∧ b.target.kind = r.target.kind ∧
      b.target.statefulness = r.target.statefulness
  requestedObjects : ∀ object ∈ r.requestedObjects, object ∈ p.objects ∧
    ∃ b ∈ g.backups, b.objectID ∈ r.backupIDs ∧ b.target = object
  pitr : r.mode = .pitr →
    ∃ b ∈ g.backups, b.objectID ∈ r.backupIDs ∧ coversPITR r b = true
  evidence : ∀ reference ∈ r.verification.evidence, ∀ started, r.startedAt = some started →
    started ≤ reference.recordedAt

/-- The point and the drill that an objective names. -/
structure ObjectiveLinked (g : RecoveryMetadataGraph) (o : RecoveryObjectiveEvidence)
    (p : RecoveryPoint) (r : RestoreMetadata) : Prop where
  pointOwner : SameOwner o.toObjectMetadata p.toObjectMetadata
  restoreOwner : SameOwner o.toObjectMetadata r.toObjectMetadata
  recoveryPoint : r.recoveryPointID = p.objectID
  drill : r.mode = .isolatedDrill
  completed : r.completedAt.isSome = true
  verified : r.verification.verifiedAt.isSome = true
  target : o.target ∈ p.objects
  covered : (∃ b ∈ g.backups, b.objectID ∈ r.backupIDs ∧ b.target = o.target) ∨
    o.target ∈ r.requestedObjects
  afterCompletion : ∀ completed, r.completedAt = some completed → completed ≤ o.measuredAt
  afterVerification : ∀ verified, r.verification.verifiedAt = some verified →
    verified ≤ o.measuredAt
  created : o.measuredAt ≤ o.createdAt
  evidence : ∀ reference ∈ o.evidence, reference ∈ r.verification.evidence
  passed : o.result = .passed → r.state = .succeeded ∧ r.verification.outcome = .passed
  failed : o.result = .failed → r.state = .succeeded ∨ r.state = .failed
  observedRTO : ∀ observed, o.observedRTOSeconds = some observed →
    ∀ started, r.startedAt = some started → ∀ completed, r.completedAt = some completed →
      ∃ minimum, elapsedSecondsCeiling started completed = some minimum ∧ minimum ≤ observed

/-! ## The claimed keys -/

def ProviderMetadata.keys (provider : ProviderMetadata) : List (Space × String) :=
  if provider.operationID = "" then [] else [(.operation, provider.operationKey)]

def evidenceKeys (evidence : List EvidenceReference) : List (Space × String) :=
  evidence.map fun reference => (.evidence, reference.id)

def BackupMetadata.keys (b : BackupMetadata) : List (Space × String) :=
  [(.objectID, b.objectID)] ++ b.provider.keys ++
    b.artifact.toList.map fun artifact => (.artifact, artifact.key)

def RestoreMetadata.keys (r : RestoreMetadata) : List (Space × String) :=
  [(.objectID, r.objectID)] ++ r.provider.keys ++
    r.fencing.provider.elim [] ProviderMetadata.keys ++
    evidenceKeys r.verification.evidence ++ evidenceKeys r.fencing.evidence

/-- Everything that the records of a graph claim. -/
def RecoveryMetadataGraph.keys (g : RecoveryMetadataGraph) : List (Space × String) :=
  (g.recoveryPoints.flatMap fun p => [(.objectID, p.objectID)]) ++
    g.backups.flatMap BackupMetadata.keys ++ g.restores.flatMap RestoreMetadata.keys ++
    g.objectiveEvidence.flatMap fun o => [(.objectID, o.objectID)]

theorem filterMap_registerProviderOperation (path : String) (provider : ProviderMetadata) :
    (registerProviderOperation path provider).filterMap Registration.key = provider.keys := by
  unfold registerProviderOperation ProviderMetadata.keys
  split <;> rfl

theorem filterMap_registerEvidenceOrigins (path : String) (evidence : List EvidenceReference) :
    (registerEvidenceOrigins path evidence).filterMap Registration.key =
      evidenceKeys evidence := by
  unfold registerEvidenceOrigins evidenceKeys
  rw [List.filterMap_map]
  conv_rhs => rw [← List.zipIdx_map_fst 0 evidence, List.map_map]
  exact congrFun List.filterMap_eq_map evidence.zipIdx

theorem BackupMetadata.filterMap_steps (b : BackupMetadata) (index : Nat) :
    (b.steps index).filterMap Registration.key = b.keys := by
  simp only [steps, keys, List.filterMap_append, filterMap_registerProviderOperation]
  cases b.artifact <;> rfl

theorem RestoreMetadata.filterMap_steps (r : RestoreMetadata) (index : Nat) :
    (r.steps index).filterMap Registration.key = r.keys := by
  simp only [steps, keys, List.filterMap_append, filterMap_registerProviderOperation,
    filterMap_registerEvidenceOrigins]
  cases r.fencing.provider with
  | none => rfl
  | some provider =>
      simp only [Option.elim, filterMap_registerProviderOperation]
      rfl

/-- Keys that do not depend on positions. -/
theorem filterMap_flatMap_zipIdx {α : Type*} {steps : α → Nat → List Step}
    {keys : α → List (Space × String)}
    (each : ∀ a index, (steps a index).filterMap Registration.key = keys a) (items : List α) :
    (items.zipIdx.flatMap fun (a, index) => steps a index).filterMap Registration.key =
      items.flatMap keys := by
  rw [List.filterMap_flatMap]
  conv_rhs => rw [← List.zipIdx_map_fst 0 items, List.flatMap_map]
  simp only [each]

theorem RecoveryMetadataGraph.filterMap_steps (g : RecoveryMetadataGraph) :
    g.steps.filterMap Registration.key = g.keys := by
  rw [steps, List.filterMap_append, List.filterMap_append, List.filterMap_append,
    filterMap_flatMap_zipIdx BackupMetadata.filterMap_steps,
    filterMap_flatMap_zipIdx RestoreMetadata.filterMap_steps,
    @filterMap_flatMap_zipIdx _ _ (fun p : RecoveryPoint => [(.objectID, p.objectID)])
      (fun _ _ => rfl),
    @filterMap_flatMap_zipIdx _ _
      (fun o : RecoveryObjectiveEvidence => [(.objectID, o.objectID)]) (fun _ _ => rfl)]
  rfl

/-! ## Tests of the records -/

theorem good_registerProviderOperation {provider : ProviderMetadata} :
    ∀ step ∈ registerProviderOperation path provider, step.Good := by
  unfold registerProviderOperation
  split <;> simp [Registration.Good]

theorem good_registerEvidenceOrigins {evidence : List EvidenceReference} :
    ∀ step ∈ registerEvidenceOrigins path evidence, step.Good := by
  intro step listed
  obtain ⟨_, _, rfl⟩ := List.mem_map.mp listed
  exact trivial

theorem RecoveryPoint.good_steps (p : RecoveryPoint) (index : Nat) :
    (∀ step ∈ p.steps index, step.Good) ↔ p.Valid := by
  simp [steps, Registration.Good, registerRecoveryObjectID, Valid]

theorem RecoveryObjectiveEvidence.good_steps (o : RecoveryObjectiveEvidence) (index : Nat) :
    (∀ step ∈ o.steps index, step.Good) ↔ o.Valid := by
  simp [steps, Registration.Good, registerRecoveryObjectID, Valid]

theorem BackupMetadata.good_steps (b : BackupMetadata) (index : Nat) :
    (∀ step ∈ b.steps index, step.Good) ↔ b.Valid := by
  have artifact : ∀ path, ∀ step ∈ registerArtifact path b.artifact, step.Good := by
    intro path
    cases b.artifact <;> simp [registerArtifact, Registration.Good]
  simp only [steps, List.forall_mem_append, List.forall_mem_cons, Registration.Good,
    registerRecoveryObjectID, passes_relabel, Valid]
  exact ⟨fun all => all.1.1.1, fun valid =>
    ⟨⟨⟨valid, trivial, by simp⟩, good_registerProviderOperation⟩, artifact _⟩⟩

theorem RestoreMetadata.good_steps (r : RestoreMetadata) (index : Nat) :
    (∀ step ∈ r.steps index, step.Good) ↔ r.Valid := by
  have fencing : ∀ path, ∀ step ∈ r.fencing.provider.elim [] (registerProviderOperation path),
      step.Good := by
    intro path
    cases r.fencing.provider with
    | none => simp
    | some provider => exact good_registerProviderOperation
  simp only [steps, List.forall_mem_append, List.forall_mem_cons, Registration.Good,
    registerRecoveryObjectID, passes_relabel, Valid]
  exact ⟨fun all => all.1.1.1.1.1, fun valid =>
    ⟨⟨⟨⟨⟨valid, trivial, by simp⟩, good_registerProviderOperation⟩, fencing _⟩,
      good_registerEvidenceOrigins⟩, good_registerEvidenceOrigins⟩⟩

/-- The steps of all records, when those of each record say something of it. -/
theorem forall_flatMap_zipIdx {α : Type*} {steps : α → Nat → List Step} {P : α → Prop}
    (each : ∀ a index, (∀ step ∈ steps a index, step.Good) ↔ P a)
    {items : List α} :
    (∀ step ∈ items.zipIdx.flatMap fun (a, index) => steps a index, step.Good) ↔
      ∀ a ∈ items, P a := by
  rw [List.forall_mem_flatMap]
  simp only [each]
  conv_rhs => rw [← List.zipIdx_map_fst 0 items]
  exact List.forall_mem_map.symm

/-- Every record passes its own tests. -/
structure RecoveryMetadataGraph.RecordsValid (g : RecoveryMetadataGraph) : Prop where
  points : ∀ p ∈ g.recoveryPoints, p.Valid
  backups : ∀ b ∈ g.backups, b.Valid
  restores : ∀ r ∈ g.restores, r.Valid
  objectives : ∀ o ∈ g.objectiveEvidence, o.Valid

theorem passes_registration :
    Passes (registrationChecks [] g.steps) ↔ g.RecordsValid ∧ g.keys.Nodup := by
  rw [passes_registrationChecks, g.filterMap_steps]
  rw [RecoveryMetadataGraph.steps, List.forall_mem_append, List.forall_mem_append,
    List.forall_mem_append, forall_flatMap_zipIdx RecoveryPoint.good_steps,
    forall_flatMap_zipIdx BackupMetadata.good_steps,
    forall_flatMap_zipIdx RestoreMetadata.good_steps,
    forall_flatMap_zipIdx RecoveryObjectiveEvidence.good_steps]
  constructor
  · rintro ⟨⟨⟨⟨points, backups⟩, restores⟩, objectives⟩, distinct, _⟩
    exact ⟨⟨points, backups, restores, objectives⟩, distinct⟩
  · rintro ⟨⟨points, backups, restores, objectives⟩, distinct⟩
    exact ⟨⟨⟨⟨points, backups⟩, restores⟩, objectives⟩, distinct, by simp⟩

/-! ## Records with different ids -/

/-- No two records of a kind have one id, and no two pieces of evidence do. -/
structure RecoveryMetadataGraph.Unique (g : RecoveryMetadataGraph) : Prop where
  points : (g.recoveryPoints.map (·.objectID)).Nodup
  backups : (g.backups.map (·.objectID)).Nodup
  restores : (g.restores.map (·.objectID)).Nodup
  origins : ((g.restores.flatMap RestoreMetadata.origins).map (·.evidence.id)).Nodup

theorem flatMap_sublist {α β : Type*} {f h : α → List β} (each : ∀ a, (f a).Sublist (h a))
    (items : List α) : (items.flatMap f).Sublist (items.flatMap h) := by
  induction items with
  | nil => exact .slnil
  | cons a rest ih =>
      rw [List.flatMap_cons, List.flatMap_cons]
      exact (each a).append ih

/-- Ids in one space that are among the claimed keys differ. -/
theorem nodup_of_sublist {keys : List (Space × String)} {ids : List String} (space : Space)
    (distinct : keys.Nodup) (claimed : (ids.map fun id => (space, id)).Sublist keys) :
    ids.Nodup :=
  (distinct.sublist claimed).of_map _

/-- The ids of records whose first key is their id. -/
theorem nodup_ids {α : Type*} {keys : List (Space × String)} {items : List α} {id : α → String}
    {rest : α → List (Space × String)} (distinct : keys.Nodup)
    (claimed : (items.flatMap fun a => (Space.objectID, id a) :: rest a).Sublist keys) :
    (items.map id).Nodup := by
  refine nodup_of_sublist .objectID distinct (.trans ?_ claimed)
  rw [List.map_map, List.map_eq_flatMap]
  exact flatMap_sublist (fun a => (List.nil_sublist (rest a)).cons_cons _) items

theorem RecoveryMetadataGraph.unique_of_nodup (distinct : g.keys.Nodup) : g.Unique where
  points := by
    refine @nodup_ids _ _ _ _ (fun _ => []) distinct ?_
    exact ((List.sublist_append_left _ _).trans (List.sublist_append_left _ _)).trans
      (List.sublist_append_left _ _)
  backups := by
    refine @nodup_ids _ _ _ (·.objectID) (fun b : BackupMetadata => b.provider.keys ++
      b.artifact.toList.map fun artifact => (.artifact, artifact.key)) distinct ?_
    exact ((List.sublist_append_right _ _).trans (List.sublist_append_left _ _)).trans
      (List.sublist_append_left _ _)
  restores := by
    refine @nodup_ids _ _ _ (·.objectID) (fun r : RestoreMetadata => r.keys.tail) distinct ?_
    exact (List.sublist_append_right _ _).trans (List.sublist_append_left _ _)
  origins := by
    have claimed : (g.restores.flatMap fun r => evidenceKeys r.verification.evidence ++
        evidenceKeys r.fencing.evidence).Sublist (g.restores.flatMap RestoreMetadata.keys) := by
      refine flatMap_sublist (fun r => ?_) _
      rw [RestoreMetadata.keys, List.append_assoc]
      exact List.sublist_append_right _ _
    refine nodup_of_sublist .evidence distinct ?_
    have spelled : ((g.restores.flatMap RestoreMetadata.origins).map (·.evidence.id)).map
        (fun id => (Space.evidence, id)) = g.restores.flatMap fun r =>
          evidenceKeys r.verification.evidence ++ evidenceKeys r.fencing.evidence := by
      rw [List.map_map, List.map_flatMap]
      refine List.flatMap_congr fun r _ => ?_
      rw [RestoreMetadata.origins, List.map_append, List.map_map, List.map_map]
      rfl
    rw [spelled]
    exact claimed.trans ((List.sublist_append_right _ _).trans (List.sublist_append_left _ _))

namespace RecoveryMetadataGraph.Unique

variable {g : RecoveryMetadataGraph}

variable {id : String}

theorem point? (unique : g.Unique) {p : RecoveryPoint} :
    g.point? id = some p ↔ p ∈ g.recoveryPoints ∧ p.objectID = id :=
  find?_key unique.points

theorem backup? (unique : g.Unique) {b : BackupMetadata} :
    g.backup? id = some b ↔ b ∈ g.backups ∧ b.objectID = id :=
  find?_key unique.backups

theorem restore? (unique : g.Unique) {r : RestoreMetadata} :
    g.restore? id = some r ↔ r ∈ g.restores ∧ r.objectID = id :=
  find?_key unique.restores

theorem origin? (unique : g.Unique) {origin : EvidenceOrigin} :
    g.origin? id = some origin ↔
      origin ∈ g.restores.flatMap RestoreMetadata.origins ∧ origin.evidence.id = id :=
  find?_key unique.origins

/-- Records with one id are one record. -/
theorem backup_eq (unique : g.Unique) {b b' : BackupMetadata} (listed : b ∈ g.backups)
    (listed' : b' ∈ g.backups) (same : b.objectID = b'.objectID) : b = b' :=
  List.inj_on_of_nodup_map unique.backups listed listed' same

theorem point_eq (unique : g.Unique) {p p' : RecoveryPoint} (listed : p ∈ g.recoveryPoints)
    (listed' : p' ∈ g.recoveryPoints) (same : p.objectID = p'.objectID) : p = p' :=
  List.inj_on_of_nodup_map unique.points listed listed' same

theorem restore_eq (unique : g.Unique) {r r' : RestoreMetadata} (listed : r ∈ g.restores)
    (listed' : r' ∈ g.restores) (same : r.objectID = r'.objectID) : r = r' :=
  List.inj_on_of_nodup_map unique.restores listed listed' same

/-- A test of the backups with some ids. -/
theorem any_backup? (unique : g.Unique) {ids : List String} {test : BackupMetadata → Bool} :
    (ids.any fun id => (g.backup? id).any test) = true ↔
      ∃ b ∈ g.backups, b.objectID ∈ ids ∧ test b = true := by
  rw [List.any_eq_true]
  constructor
  · rintro ⟨id, listed, holds⟩
    cases found : g.backup? id with
    | none => simp [found] at holds
    | some b =>
        obtain ⟨member, rfl⟩ := unique.backup?.mp found
        exact ⟨b, member, listed, by simpa [found] using holds⟩
  · rintro ⟨b, member, listed, holds⟩
    refine ⟨b.objectID, listed, ?_⟩
    rw [unique.backup?.mpr ⟨member, rfl⟩]
    exact holds

/-- A test of the backups that a restore reads. -/
theorem any_sources (unique : g.Unique) {ids : List String} {test : BackupMetadata → Bool} :
    (ids.filterMap g.backup?).any test = true ↔
      ∃ b ∈ g.backups, b.objectID ∈ ids ∧ test b = true := by
  rw [List.any_eq_true]
  constructor
  · rintro ⟨b, source, holds⟩
    obtain ⟨id, listed, found⟩ := List.mem_filterMap.mp source
    obtain ⟨member, rfl⟩ := unique.backup?.mp found
    exact ⟨b, member, listed, holds⟩
  · rintro ⟨b, member, listed, holds⟩
    exact ⟨b, List.mem_filterMap.mpr ⟨_, listed, unique.backup?.mpr ⟨member, rfl⟩⟩, holds⟩

/-- Evidence of a restore is found as its own. -/
theorem evidence (unique : g.Unique) {r : RestoreMetadata} (listed : r ∈ g.restores)
    {reference : EvidenceReference} :
    (∃ origin, g.origin? reference.id = some origin ∧ origin.restoreID = r.objectID ∧
      origin.channel = .verification ∧ origin.evidence = reference) ↔
        reference ∈ r.verification.evidence := by
  constructor
  · rintro ⟨origin, found, restore, channel, rfl⟩
    obtain ⟨owner, member, made⟩ := List.mem_flatMap.mp (unique.origin?.mp found).1
    rcases List.mem_append.mp made with made | made
    · obtain ⟨own, inside, rfl⟩ := List.mem_map.mp made
      rw [unique.restore_eq listed member restore.symm]
      exact inside
    · obtain ⟨_, _, rfl⟩ := List.mem_map.mp made
      cases channel
  · intro inside
    refine ⟨⟨r.objectID, .verification, reference⟩, unique.origin?.mpr ⟨?_, rfl⟩, rfl, rfl, rfl⟩
    exact List.mem_flatMap.mpr ⟨r, listed, List.mem_append_left _ (List.mem_map_of_mem inside)⟩

end RecoveryMetadataGraph.Unique

/-! ## The passes -/

/-- What a recovery point says of its backups. -/
structure PointLinked (g : RecoveryMetadataGraph) (p : RecoveryPoint) : Prop where
  outputs : ∀ id ∈ p.backupIDs, ∃ b ∈ g.backups, b.objectID = id ∧ Outputs p b
  covered : p.state = .ready → ∀ object ∈ p.objects,
    ∃ b ∈ g.backups, b.objectID ∈ p.backupIDs ∧ b.target = object

section Passes

variable {g : RecoveryMetadataGraph} (unique : g.Unique)
include unique

variable {index : Nat} {r : RestoreMetadata} {o : RecoveryObjectiveEvidence}

theorem passes_pointLinkChecks {p : RecoveryPoint} :
    Passes (pointLinkChecks g p index) ↔ PointLinked g p := by
  have parts : PointLinked g p ↔
      (∀ id ∈ p.backupIDs, ∃ b ∈ g.backups, b.objectID = id ∧ Outputs p b) ∧
      (p.state = .ready → ∀ object ∈ p.objects,
        ∃ b ∈ g.backups, b.objectID ∈ p.backupIDs ∧ b.target = object) := by
    constructor
    · intro linked
      exact ⟨linked.outputs, linked.covered⟩
    · rintro ⟨outputs, covered⟩
      exact ⟨outputs, covered⟩
  rw [pointLinkChecks, passes_append, parts]
  refine and_congr (passes_flatMap_zipIdx fun id position => ?_) ?_
  · simp only [passes_foundChecks, passes_outputChecks, unique.backup?, and_assoc]
  · split
    · next ready =>
        rw [forall_prop_of_true ready]
        refine passes_flatMap_zipIdx fun object position => ?_
        simp only [passes_cons, passes_nil, and_true, Bool.not_eq_false',
          RecoveryMetadataGraph.covered, unique.any_backup?, beq_iff_eq]
    · next other => simp [other]

theorem passes_parentLinkChecks {b : BackupMetadata} :
    Passes (parentLinkChecks g b index) ↔ (b.parentBackupID ≠ "" →
      ∃ parent ∈ g.backups, parent.objectID = b.parentBackupID ∧ ParentLinked b parent) := by
  unfold parentLinkChecks
  split
  · next root => simp [root]
  · next named =>
      rw [passes_foundChecks]
      simp only [passes_parentChecks, unique.backup?, and_assoc, ne_eq, named,
        not_false_eq_true, forall_true_left]

theorem passes_validateEvidenceConsumers {path : String} {evidence : List EvidenceReference}
    (listed : r ∈ g.restores) :
    Passes (validateEvidenceConsumers g path evidence r.objectID .verification) ↔
      ∀ reference ∈ evidence, reference ∈ r.verification.evidence := by
  refine passes_flatMap_zipIdx fun reference position => ?_
  simp only [passes_foundChecks, passes_cons, passes_nil, and_true, Bool.or_eq_false_iff,
    bne_eq_false_iff_eq, and_assoc]
  exact unique.evidence listed

theorem passes_coverageChecks {path : String} {p : RecoveryPoint} :
    Passes (coverageChecks path r p (r.backupIDs.filterMap g.backup?)) ↔
      (r.mode = .inPlace ∨ r.mode = .pitr ∨ r.mode = .objectLevel →
        r.target ∈ p.objects ∧
          ∃ b ∈ g.backups, b.objectID ∈ r.backupIDs ∧ b.target = r.target) ∧
      (r.mode = .alternate ∨ r.mode = .isolatedDrill →
        ∃ b ∈ g.backups, b.objectID ∈ r.backupIDs ∧ b.target.kind = r.target.kind ∧
          b.target.statefulness = r.target.statefulness) ∧
      (∀ object ∈ r.requestedObjects, object ∈ p.objects ∧
        ∃ b ∈ g.backups, b.objectID ∈ r.backupIDs ∧ b.target = object) ∧
      (r.mode = .pitr →
        ∃ b ∈ g.backups, b.objectID ∈ r.backupIDs ∧ coversPITR r b = true) ∧
      ∀ reference ∈ r.verification.evidence, ∀ started, r.startedAt = some started →
        started ≤ reference.recordedAt := by
  have window : (r.mode == .pitr && !(r.backupIDs.filterMap g.backup?).any (coversPITR r)) =
      false ↔ (r.mode = .pitr →
        ∃ b ∈ g.backups, b.objectID ∈ r.backupIDs ∧ coversPITR r b = true) := by
    rw [Bool.and_eq_false_imp, beq_iff_eq, Bool.not_eq_false', unique.any_sources]
  rw [coverageChecks, passes_append, passes_append, passes_append, passes_cons, window]
  simp only [passes_nil, and_true, and_assoc]
  rw [← and_assoc (c := (∀ object ∈ r.requestedObjects, _) ∧ _)]
  refine and_congr ?_ (and_congr (passes_flatMap_zipIdx fun object position => ?_)
    (and_congr_right fun _ => passes_flatMap_zipIdx fun reference position => ?_))
  rotate_left
  · simp only [passes_cons, passes_nil, and_true, Bool.not_eq_false', List.contains_eq_mem,
      decide_eq_true_eq, backupTargetsContain, unique.any_sources, beq_iff_eq]
  · simp only [passes_cons, passes_nil, and_true, any_eq_false, decide_eq_false_iff_not, not_lt]
  have targets : backupTargetsContain (r.backupIDs.filterMap g.backup?) r.target = true ↔
      ∃ b ∈ g.backups, b.objectID ∈ r.backupIDs ∧ b.target = r.target := by
    simp only [backupTargetsContain, unique.any_sources, beq_iff_eq]
  have types : backupTargetsContainType (r.backupIDs.filterMap g.backup?) r.target = true ↔
      ∃ b ∈ g.backups, b.objectID ∈ r.backupIDs ∧ b.target.kind = r.target.kind ∧
        b.target.statefulness = r.target.statefulness := by
    simp only [backupTargetsContainType, unique.any_sources, Bool.and_eq_true, beq_iff_eq]
  cases r.mode <;> simp [targets, types]

theorem passes_restoreLinkChecks :
    Passes (restoreLinkChecks g r index) ↔
      ∃ p ∈ g.recoveryPoints, p.objectID = r.recoveryPointID ∧ RestoreLinked g r p := by
  rw [restoreLinkChecks, passes_foundChecks]
  simp only [unique.point?, and_assoc]
  refine exists_congr fun p => and_congr_right fun _ => and_congr_right fun _ => ?_
  rw [passes_append, passes_append, passes_coverageChecks unique,
    @passes_flatMap_zipIdx _ _ _ _ (fun id => ∃ b ∈ g.backups, b.objectID = id ∧ Source r p b)
      fun id position => by
        simp only [passes_foundChecks, passes_sourceChecks, unique.backup?, and_assoc]]
  simp only [passes_append, passes_cons, passes_nil, and_true, passes_validateLinkedOwnership,
    Bool.or_eq_false_iff, beq_eq_false_iff_ne, any_eq_false, decide_eq_false_iff_not, not_lt,
    not_le]
  constructor
  · rintro ⟨⟨⟨owner, state, ⟨requested, created⟩, unexpired⟩, sources⟩, target, type, objects,
      window, evidence⟩
    exact ⟨owner, state, requested, created, unexpired, sources, target, type, objects, window,
      evidence⟩
  · rintro ⟨owner, state, requested, created, unexpired, sources, target, type, objects, window,
      evidence⟩
    exact ⟨⟨⟨owner, state, ⟨requested, created⟩, unexpired⟩, sources⟩, target, type, objects,
      window, evidence⟩

theorem passes_healthChecks {path : String} {b : BackupMetadata} (listed : r ∈ g.restores) :
    Passes (healthChecks g path b r) ↔ HealthLinked b r := by
  rw [healthChecks, passes_append, passes_append, passes_append,
    passes_validateEvidenceConsumers unique listed]
  have outcome : Passes (if b.health.state = .verified then
      [(r.state != .succeeded || r.verification.outcome != .passed, (⟨path ++ ".state",
        "VERIFIED requires a successful linked restore"⟩ : ValidationError))]
      else [(r.state != .failed || r.verification.outcome != .failed, ⟨path ++ ".state",
        "DEGRADED requires a failed linked restore verification"⟩)]) ↔
      (b.health.state = .verified → r.state = .succeeded ∧ r.verification.outcome = .passed) ∧
      (b.health.state ≠ .verified → r.state = .failed ∧ r.verification.outcome = .failed) := by
    split <;> simp_all
  rw [outcome]
  simp only [passes_cons, passes_nil, and_true, passes_validateLinkedOwnership,
    Bool.or_eq_false_iff, bne_eq_false_iff_eq, Bool.not_eq_false', List.contains_eq_mem,
    decide_eq_true_eq, Option.isNone_eq_false_iff, any_eq_false, decide_eq_false_iff_not, not_lt]
  constructor
  · rintro ⟨⟨⟨owner, ⟨point, own⟩, ⟨⟨drill, completed⟩, verified⟩, after⟩, evidence⟩, succeeded,
      failed⟩
    exact ⟨owner, point, own, drill, completed, verified, fun last set => (after last set).1,
      fun last set => (after last set).2, evidence, succeeded, failed⟩
  · rintro ⟨owner, point, own, drill, completed, verified, afterCompletion, afterVerification,
      evidence, succeeded, failed⟩
    exact ⟨⟨⟨owner, ⟨point, own⟩, ⟨⟨drill, completed⟩, verified⟩, fun last set =>
      ⟨afterCompletion last set, afterVerification last set⟩⟩, evidence⟩, succeeded, failed⟩

theorem passes_healthLinkChecks {b : BackupMetadata} :
    Passes (healthLinkChecks g b index) ↔
      (b.health.state = .verified ∨ b.health.state = .degraded →
        ∃ r ∈ g.restores, r.objectID = b.health.restoreID ∧ HealthLinked b r) := by
  unfold healthLinkChecks
  split
  · next named =>
      rw [passes_foundChecks, forall_prop_of_true named]
      simp only [unique.restore?, and_assoc]
      exact exists_congr fun r => and_congr_right fun listed => and_congr_right fun _ =>
        passes_healthChecks unique listed
  · next other => simp [other]

omit unique in
theorem passes_observedRTOChecks {path : String} : Passes (observedRTOChecks path o r) ↔
      ∀ observed, o.observedRTOSeconds = some observed →
        ∀ started, r.startedAt = some started → ∀ completed, r.completedAt = some completed →
          ∃ minimum, elapsedSecondsCeiling started completed = some minimum ∧
            minimum ≤ observed := by
  unfold observedRTOChecks
  cases o.observedRTOSeconds with
  | none => simp
  | some observed =>
      cases r.startedAt with
      | none => simp
      | some started =>
          cases r.completedAt with
          | none => simp
          | some completed =>
              cases elapsed : elapsedSecondsCeiling started completed <;> simp [elapsed]

theorem passes_objectiveChecks {path : String} {p : RecoveryPoint} (listed : r ∈ g.restores) :
    Passes (objectiveChecks g path o p r) ↔ ObjectiveLinked g o p r := by
  have result : Passes (objectiveResultChecks path o r) ↔
      (o.result = .passed → r.state = .succeeded ∧ r.verification.outcome = .passed) ∧
      (o.result = .failed → r.state = .succeeded ∨ r.state = .failed) := by
    unfold objectiveResultChecks
    cases o.result with
    | passed => simp
    | failed => cases r.state <;> simp
  have covers : restoreCoversObjectiveTarget g r o.target = true ↔
      (∃ b ∈ g.backups, b.objectID ∈ r.backupIDs ∧ b.target = o.target) ∨
        o.target ∈ r.requestedObjects := by
    simp only [restoreCoversObjectiveTarget, Bool.or_eq_true, unique.any_backup?, beq_iff_eq,
      List.contains_eq_mem, decide_eq_true_eq]
  rw [objectiveChecks, passes_append, passes_append, passes_append, passes_append, passes_append,
    passes_validateEvidenceConsumers unique listed, result, passes_observedRTOChecks]
  simp only [passes_cons, passes_nil, and_true, passes_validateLinkedOwnership,
    Bool.or_eq_false_iff, bne_eq_false_iff_eq, Bool.not_eq_false', List.contains_eq_mem,
    decide_eq_true_eq, Option.isNone_eq_false_iff, any_eq_false, decide_eq_false_iff_not, not_lt,
    covers]
  constructor
  · rintro ⟨⟨⟨⟨⟨pointOwner, restoreOwner⟩, point, ⟨⟨drill, completed⟩, verified⟩,
      ⟨target, covered⟩, ⟨afterCompletion, afterVerification⟩, created⟩, evidence⟩, passed,
      failed⟩, observed⟩
    exact ⟨pointOwner, restoreOwner, point, drill, completed, verified, target, covered,
      afterCompletion, afterVerification, created, evidence, passed, failed, observed⟩
  · rintro ⟨pointOwner, restoreOwner, point, drill, completed, verified, target, covered,
      afterCompletion, afterVerification, created, evidence, passed, failed, observed⟩
    exact ⟨⟨⟨⟨⟨pointOwner, restoreOwner⟩, point, ⟨⟨drill, completed⟩, verified⟩,
      ⟨target, covered⟩, ⟨afterCompletion, afterVerification⟩, created⟩, evidence⟩, passed,
      failed⟩, observed⟩

theorem passes_objectiveLinkChecks :
    Passes (objectiveLinkChecks g o index) ↔
      ∃ p ∈ g.recoveryPoints, p.objectID = o.recoveryPointID ∧
        ∃ r ∈ g.restores, r.objectID = o.restoreID ∧ ObjectiveLinked g o p r := by
  simp only [objectiveLinkChecks, passes_foundChecks, unique.point?, unique.restore?, and_assoc]
  exact exists_congr fun p => and_congr_right fun _ => and_congr_right fun _ =>
    exists_congr fun r => and_congr_right fun listed => and_congr_right fun _ =>
      passes_objectiveChecks unique listed

end Passes

/-! ## Sound graphs -/

/-- Every record is valid, what the records claim differs, and every reference is to a record
that bears it out. -/
structure Sound (g : RecoveryMetadataGraph) : Prop where
  records : g.RecordsValid
  distinct : g.keys.Nodup
  points : ∀ p ∈ g.recoveryPoints, PointLinked g p
  backups : ∀ b ∈ g.backups,
    ∃ p ∈ g.recoveryPoints, p.objectID = b.recoveryPointID ∧ BackupLinked p b
  grounded : ∀ b ∈ g.backups, ParentWalk.Grounded g.parent g.known b.objectID
  parents : ∀ b ∈ g.backups, b.parentBackupID ≠ "" →
    ∃ parent ∈ g.backups, parent.objectID = b.parentBackupID ∧ ParentLinked b parent
  restores : ∀ r ∈ g.restores,
    ∃ p ∈ g.recoveryPoints, p.objectID = r.recoveryPointID ∧ RestoreLinked g r p
  health : ∀ b ∈ g.backups, b.health.state = .verified ∨ b.health.state = .degraded →
    ∃ r ∈ g.restores, r.objectID = b.health.restoreID ∧ HealthLinked b r
  objectives : ∀ o ∈ g.objectiveEvidence,
    ∃ p ∈ g.recoveryPoints, p.objectID = o.recoveryPointID ∧
      ∃ r ∈ g.restores, r.objectID = o.restoreID ∧ ObjectiveLinked g o p r

theorem Sound.unique (sound : Sound g) : g.Unique :=
  RecoveryMetadataGraph.unique_of_nodup sound.distinct

/-- What is known is among the ids of the backups. -/
theorem RecoveryMetadataGraph.mem_of_known {id : String} (known : g.known id = true) :
    id ∈ g.backups.map (·.objectID) := by
  obtain ⟨b, found⟩ := Option.isSome_iff_exists.mp known
  have own : b.objectID = id := by simpa using List.find?_some found
  exact List.mem_map.mpr ⟨b, List.mem_of_find?_eq_some found, own⟩

variable {fuel : Nat} {result : Except ValidationError Unit}

/-- The walk over the parents ends when it is given more steps than there are backups. -/
theorem validateBackupParentCycles_ends (enough : g.backups.length < fuel) :
    ∃ result, validateBackupParentCycles fuel g = some result := by
  have bounded : (ParentWalk.unmarked (g.backups.map (·.objectID)) []).card < fuel := by
    refine lt_of_le_of_lt ((Finset.card_filter_le _ _).trans (List.toFinset_card_le _)) ?_
    rwa [List.length_map]
  have ends : ∃ result, ParentWalk.visitAll g.parent g.known fuel []
      (g.backups.map (·.objectID)) = some result :=
    ParentWalk.visitAll_some (fun _ => RecoveryMetadataGraph.mem_of_known)
      (fun _ listed => listed) bounded
  obtain ⟨result, ended⟩ := ends
  rw [validateBackupParentCycles, ended]
  exact ⟨_, rfl⟩

/-- More steps do not change the result of the walk. -/
theorem validateBackupParentCycles_more {more : Nat} (le : fuel ≤ more)
    (ended : validateBackupParentCycles fuel g = some result) :
    validateBackupParentCycles more g = some result := by
  obtain ⟨walked, visits, same⟩ := Option.map_eq_some_iff.mp ended
  rw [validateBackupParentCycles, ParentWalk.visitAll_more le visits, Option.map_some, same]

theorem validateBackupParentCycles_ok (ended : validateBackupParentCycles fuel g = some result) :
    result = .ok () ↔ ∀ b ∈ g.backups, ParentWalk.Grounded g.parent g.known b.objectID := by
  obtain ⟨walked, visits, rfl⟩ := Option.map_eq_some_iff.mp ended
  have finished : ParentWalk.Finished g.parent g.known [] := by simp [ParentWalk.Finished]
  have idle : ∀ id : String, ¬ ParentWalk.Busy [] id := by simp [ParentWalk.Busy]
  rw [mapError_ok, ParentWalk.visitAll_ok finished idle visits, List.forall_mem_map]

/-- More steps do not change the result. -/
theorem validateGraph_more {more : Nat} (le : fuel ≤ more)
    (ended : validateGraph fuel g = some result) : validateGraph more g = some result := by
  unfold validateGraph at ended ⊢
  cases first : firstFailure (registrationChecks [] g.steps ++ validateRecoveryPointLinks g) with
  | error e => simpa [first] using ended
  | ok =>
      cases walked : validateBackupParentCycles fuel g with
      | none => simp [first, walked] at ended
      | some walk =>
          simp only [first, walked] at ended
          simp only [validateBackupParentCycles_more le walked]
          exact ended

/-- **The validator ends for every graph,** and more steps than it needs change nothing. -/
theorem validateGraph_ends (g : RecoveryMetadataGraph) :
    ∃ result, ∀ fuel, g.backups.length < fuel → validateGraph fuel g = some result := by
  have ends : ∃ result, validateGraph (g.backups.length + 1) g = some result := by
    obtain ⟨walk, walked⟩ := validateBackupParentCycles_ends (Nat.lt_succ_self g.backups.length)
    unfold validateGraph
    cases firstFailure (registrationChecks [] g.steps ++ validateRecoveryPointLinks g) with
    | error e => exact ⟨_, rfl⟩
    | ok =>
        simp only [walked]
        cases walk <;> exact ⟨_, rfl⟩
  obtain ⟨result, ended⟩ := ends
  exact ⟨result, fun fuel enough => validateGraph_more enough ended⟩

/-- An accepted graph is accepted with every number of steps that suffices. -/
theorem Accepted.validateGraph_eq (accepted : Accepted g) (enough : g.backups.length < fuel) :
    validateGraph fuel g = some (.ok ()) := by
  obtain ⟨some, ended⟩ := accepted
  obtain ⟨result, ends⟩ := validateGraph_ends g
  have more := validateGraph_more (le_max_left some fuel) ended
  rw [ends _ (lt_of_lt_of_le enough (le_max_right some fuel))] at more
  rw [ends fuel enough, more]

/-- The links that the first pass decides. -/
theorem passes_validateRecoveryPointLinks (unique : g.Unique) :
    Passes (validateRecoveryPointLinks g) ↔ (∀ p ∈ g.recoveryPoints, PointLinked g p) ∧
      ∀ b ∈ g.backups,
        ∃ p ∈ g.recoveryPoints, p.objectID = b.recoveryPointID ∧ BackupLinked p b := by
  rw [validateRecoveryPointLinks, passes_append]
  refine and_congr (passes_flatMap_zipIdx fun p index => passes_pointLinkChecks unique)
    (passes_flatMap_zipIdx fun b index => ?_)
  simp only [passes_backupLinkChecks, unique.point?, and_assoc]

/-- **The validator accepts the sound graphs.** -/
theorem accepted_iff : Accepted g ↔ Sound g := by
  constructor
  · rintro ⟨fuel, accepted⟩
    unfold validateGraph at accepted
    split at accepted
    · cases accepted
    · next first =>
        rw [firstFailure_passes, passes_append, passes_registration] at first
        obtain ⟨⟨records, distinct⟩, linked⟩ := first
        have unique := RecoveryMetadataGraph.unique_of_nodup distinct
        obtain ⟨points, backups⟩ := (passes_validateRecoveryPointLinks unique).mp linked
        split at accepted
        · cases accepted
        · cases accepted
        · next walked =>
            have rest := firstFailure_passes.mp (Option.some.inj accepted)
            rw [passes_append, passes_append, passes_append] at rest
            obtain ⟨⟨⟨parents, restores⟩, health⟩, objectives⟩ := rest
            exact ⟨records, distinct, points, backups,
              (validateBackupParentCycles_ok walked).mp rfl,
              (passes_flatMap_zipIdx fun _ _ => passes_parentLinkChecks unique).mp parents,
              (passes_flatMap_zipIdx fun _ _ => passes_restoreLinkChecks unique).mp restores,
              (passes_flatMap_zipIdx fun _ _ => passes_healthLinkChecks unique).mp health,
              (passes_flatMap_zipIdx fun _ _ => passes_objectiveLinkChecks unique).mp
                objectives⟩
  · intro sound
    have unique := sound.unique
    obtain ⟨walk, walked⟩ := validateBackupParentCycles_ends (Nat.lt_succ_self g.backups.length)
    have first : firstFailure (registrationChecks [] g.steps ++ validateRecoveryPointLinks g) =
        .ok () := by
      rw [firstFailure_passes, passes_append, passes_registration,
        passes_validateRecoveryPointLinks unique]
      exact ⟨⟨sound.records, sound.distinct⟩, sound.points, sound.backups⟩
    have rest : firstFailure (validateBackupParentLinks g ++ validateRestoreLinks g ++
        validateBackupHealthLinks g ++ validateObjectiveLinks g) = .ok () := by
      rw [firstFailure_passes, passes_append, passes_append, passes_append]
      exact ⟨⟨⟨
        (passes_flatMap_zipIdx fun _ _ => passes_parentLinkChecks unique).mpr sound.parents,
        (passes_flatMap_zipIdx fun _ _ => passes_restoreLinkChecks unique).mpr sound.restores⟩,
        (passes_flatMap_zipIdx fun _ _ => passes_healthLinkChecks unique).mpr sound.health⟩,
        (passes_flatMap_zipIdx fun _ _ => passes_objectiveLinkChecks unique).mpr
          sound.objectives⟩
    refine ⟨g.backups.length + 1, ?_⟩
    rw [(validateBackupParentCycles_ok walked).mpr sound.grounded] at walked
    rw [validateGraph, first]
    simp only [walked, rest]

/-! ## Reordered graphs -/

/-- The same records in other orders. -/
structure RecoveryMetadataGraph.Reordered (g g' : RecoveryMetadataGraph) : Prop where
  points : g.recoveryPoints.Perm g'.recoveryPoints
  backups : g.backups.Perm g'.backups
  restores : g.restores.Perm g'.restores
  objectives : g.objectiveEvidence.Perm g'.objectiveEvidence

theorem RecoveryMetadataGraph.Reordered.symm {g' : RecoveryMetadataGraph}
    (reordered : g.Reordered g') : g'.Reordered g :=
  ⟨reordered.points.symm, reordered.backups.symm, reordered.restores.symm,
    reordered.objectives.symm⟩

/-- **The order of the records does not matter.** -/
theorem Sound.perm {g' : RecoveryMetadataGraph} (sound : Sound g) (reordered : g.Reordered g') :
    Sound g' := by
  obtain ⟨points, backups, restores, objectives⟩ := reordered
  have lookup : g.backup? = g'.backup? :=
    funext fun id => find?_key_perm backups sound.unique.backups id
  have parent : g.parent = g'.parent := by
    funext id
    rw [RecoveryMetadataGraph.parent, RecoveryMetadataGraph.parent, lookup]
  have known : g.known = g'.known := by
    funext id
    rw [RecoveryMetadataGraph.known, RecoveryMetadataGraph.known, lookup]
  have keys : g.keys.Perm g'.keys :=
    (((points.flatMap_right _).append (backups.flatMap_right _)).append
      (restores.flatMap_right _)).append (objectives.flatMap_right _)
  have linked : ∀ {r p}, RestoreLinked g r p → RestoreLinked g' r p := by
    rintro r p ⟨owner, state, requested, created, unexpired, sources, target, type, objects,
      window, evidence⟩
    simp only [backups.mem_iff] at sources target type objects window
    exact ⟨owner, state, requested, created, unexpired, sources, target, type, objects, window,
      evidence⟩
  have measured : ∀ {o p r}, ObjectiveLinked g o p r → ObjectiveLinked g' o p r := by
    rintro o p r link
    exact { link with covered := by simpa only [backups.mem_iff] using link.covered }
  constructor
  case records =>
    exact ⟨fun p listed => sound.records.points p (points.mem_iff.mpr listed),
      fun b listed => sound.records.backups b (backups.mem_iff.mpr listed),
      fun r listed => sound.records.restores r (restores.mem_iff.mpr listed),
      fun o listed => sound.records.objectives o (objectives.mem_iff.mpr listed)⟩
  case distinct => exact keys.nodup_iff.mp sound.distinct
  case points =>
    intro p listed
    obtain ⟨outputs, covered⟩ := sound.points p (points.mem_iff.mpr listed)
    simp only [backups.mem_iff] at outputs covered
    exact ⟨outputs, covered⟩
  case backups =>
    intro b listed
    simpa only [points.mem_iff] using sound.backups b (backups.mem_iff.mpr listed)
  case grounded =>
    intro b listed
    rw [← parent, ← known]
    exact sound.grounded b (backups.mem_iff.mpr listed)
  case parents =>
    intro b listed
    simpa only [backups.mem_iff] using sound.parents b (backups.mem_iff.mpr listed)
  case restores =>
    intro r listed
    obtain ⟨p, member, own, link⟩ := sound.restores r (restores.mem_iff.mpr listed)
    exact ⟨p, points.mem_iff.mp member, own, linked link⟩
  case health =>
    intro b listed
    simpa only [restores.mem_iff] using sound.health b (backups.mem_iff.mpr listed)
  case objectives =>
    intro o listed
    obtain ⟨p, member, own, r, member', own', link⟩ :=
      sound.objectives o (objectives.mem_iff.mpr listed)
    exact ⟨p, points.mem_iff.mp member, own, r, restores.mem_iff.mp member', own',
      measured link⟩

end ControlCenter.Recovery
