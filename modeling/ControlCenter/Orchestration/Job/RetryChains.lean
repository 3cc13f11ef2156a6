import ControlCenter.Library.Chain
import ControlCenter.Orchestration.Job.RetryHistory

/-!
# Manual retries form chains

In every state a run reaches, the lineage records under one root are one linear chain from
that root. A failed job never changes again, so it is retried in one version only and the
index of sources keeps it from being retried twice; the id of a retry is new, so a record is
only ever added at the end of a chain. The state is described by `Lineages`, which the
operations keep (`Lineages.next`).

`BuildManualRetryHistoryEvidence` walks over the same records and finds the chain
(`historyEvidence_chain`). What it reports is said in `manual_retry_chains`. It fails on a
chain of at most 64 records only where a time cannot be encoded, a version has wrapped
around to zero, or the observation has the zero time.
-/

set_option autoImplicit false

namespace ControlCenter.Orchestration

open Library

/-! ## Identifiers -/

/-- A text that the check of an identifier lets through. -/
def CanonicalIdentifier (value : String) : Prop :=
  trimSpace value ≠ "" ∧ trimSpace value = value ∧
    value.utf8ByteSize ≤ maxManualRetryIdentifierLength

theorem validateManualRetryIdentifier_iff {name value : String} :
    validateManualRetryIdentifier name value = .ok () ↔ CanonicalIdentifier value := by
  unfold validateManualRetryIdentifier CanonicalIdentifier
  split
  · next bad =>
      simp only [reduceCtorEq, false_iff]
      rintro ⟨nonempty, trimmed, short⟩
      exact bad.elim nonempty fun bad => bad.elim (fun other => other trimmed) fun long =>
        absurd short (Nat.not_le.mpr long)
  · next good =>
      simp only [not_or, not_not, Nat.not_lt] at good
      exact ⟨fun _ => good, fun _ => rfl⟩

theorem CanonicalIdentifier.ne_empty {value : String} (canonical : CanonicalIdentifier value) :
    value ≠ "" := by
  rintro rfl
  exact canonical.1 canonical.2.1

theorem ManualRetryRequest.Valid.canonical {request : ManualRetryRequest} (valid : request.Valid) :
    CanonicalIdentifier request.sourceJobID ∧ CanonicalIdentifier request.retryJobID := by
  have checked := valid.identifiers
  simp only [ManualRetryRequest.identifiers, List.forall_mem_cons,
    validateManualRetryIdentifier_iff] at checked
  exact ⟨checked.1, checked.2.1⟩

/-! ## The records -/

namespace MemoryManualRetryRepository

/-- The record is in the repository. -/
def Holds (r : MemoryManualRetryRepository) (lineage : ManualRetryLineage) : Prop :=
  r.byRetryJob.lookup lineage.retryJobID = some lineage

/-- The jobs of a record are stored, and its source is still the failed job it was. -/
structure Retried (r : MemoryManualRetryRepository) (lineage : ManualRetryLineage) : Prop where
  source : ∃ job, r.job lineage.sourceJobID = some job ∧ job.status = .failed ∧
    job.version = lineage.sourceJobVersion
  retry : ∃ job, r.job lineage.retryJobID = some job ∧
    job.idempotencyKey = lineage.retryIdempotencyKey
  root : ∃ job, r.job lineage.rootJobID = some job
  version : lineage.sourceJobVersion ≠ 0
  timed : lineage.requestedAt ≠ 0
  sourceID : CanonicalIdentifier lineage.sourceJobID
  retryID : CanonicalIdentifier lineage.retryJobID
  rootID : CanonicalIdentifier lineage.rootJobID

/-- The records under a root, in the order of the retries. -/
structure ChainOf (r : MemoryManualRetryRepository) (root : String)
    (chain : List ManualRetryLineage) : Prop
    extends IsChain ManualRetryLineage.sourceJobID ManualRetryLineage.retryJobID root chain where
  complete : ∀ lineage, lineage ∈ chain ↔ r.Holds lineage ∧ lineage.rootJobID = root

/-- The three indexes hold the same records, and the records under each root are a chain. -/
structure Lineages (r : MemoryManualRetryRepository) : Prop where
  byAdmission : ∀ key record, r.byAdmission.lookup key = some record →
    record.lineage.reviewedAdmissionID = key ∧ r.Holds record.lineage
  byRetryJob : ∀ key lineage, r.byRetryJob.lookup key = some lineage → lineage.retryJobID = key
  bySource : ∀ key lineage, r.bySource.lookup key = some lineage → r.Holds lineage
  admitted : ∀ lineage, r.Holds lineage → ∃ record,
    r.byAdmission.lookup lineage.reviewedAdmissionID = some record ∧ record.lineage = lineage
  sourced : ∀ lineage, r.Holds lineage →
    r.bySource.lookup (manualRetrySourceKey lineage.sourceJobID lineage.sourceJobVersion) =
      some lineage
  retried : ∀ lineage, r.Holds lineage → r.Retried lineage
  rooted : ∀ lineage, r.Holds lineage → r.byRetryJob.lookup lineage.rootJobID = none
  chains : ∀ root, ∃ chain, r.ChainOf root chain

theorem Lineages.new : MemoryManualRetryRepository.new.Lineages := by
  have empty : ∀ lineage, ¬ MemoryManualRetryRepository.new.Holds lineage := nofun
  refine ⟨nofun, nofun, nofun, ?_, ?_, ?_, ?_, fun root => ⟨[], .nil root, ?_⟩⟩
  · exact fun lineage held => (empty lineage held).elim
  · exact fun lineage held => (empty lineage held).elim
  · exact fun lineage held => (empty lineage held).elim
  · exact fun lineage held => (empty lineage held).elim
  · exact fun lineage => ⟨nofun, fun held => (empty lineage held.1).elim⟩

section Facts

variable {r : MemoryManualRetryRepository} (lineages : r.Lineages)

include lineages

/-- A job with its root as the source of a retry sees it. -/
theorem Lineages.rootJobID_cases (job : Job) :
    (r.byRetryJob.lookup job.id = none ∧ r.rootJobID job = job.id) ∨
    ∃ parent, r.Holds parent ∧ parent.retryJobID = job.id ∧ r.rootJobID job = parent.rootJobID := by
  unfold MemoryManualRetryRepository.rootJobID
  cases found : r.byRetryJob.lookup job.id with
  | none => exact .inl ⟨rfl, rfl⟩
  | some parent =>
      have own := lineages.byRetryJob _ _ found
      refine .inr ⟨parent, ?_, own, rfl⟩
      unfold Holds
      rw [own, found]

variable {job : Job}

/-- A job is a node of the chain of its root. -/
theorem Lineages.mem_nodes {chain : List ManualRetryLineage}
    (chainOf : r.ChainOf (r.rootJobID job) chain) :
    job.id ∈ r.rootJobID job :: chain.map ManualRetryLineage.retryJobID := by
  rcases lineages.rootJobID_cases job with ⟨_, isRoot⟩ | ⟨parent, held, own, root⟩
  · rw [isRoot]
    exact List.mem_cons_self
  · have member := (chainOf.complete parent).mpr ⟨held, root.symm⟩
    exact List.mem_cons_of_mem _ (List.mem_map.mpr ⟨parent, member, own⟩)

/-- The retries of a job are recorded under its own root. -/
theorem Lineages.rootJobID_of_source {lineage : ManualRetryLineage} (held : r.Holds lineage)
    (source : lineage.sourceJobID = job.id) : lineage.rootJobID = r.rootJobID job := by
  obtain ⟨chain, chainOf⟩ := lineages.chains lineage.rootJobID
  have member := (chainOf.complete lineage).mpr ⟨held, rfl⟩
  have node : job.id ∈ lineage.rootJobID :: chain.map ManualRetryLineage.retryJobID := by
    rw [← chainOf.linked.nodes, ← source]
    exact List.mem_append_left _ (List.mem_map_of_mem member)
  rcases lineages.rootJobID_cases job with ⟨orphan, isRoot⟩ | ⟨parent, held', own, root⟩
  · rcases List.mem_cons.mp node with here | below
    · rw [isRoot, here]
    · obtain ⟨parent, member, own⟩ := List.mem_map.mp below
      have held' := ((chainOf.complete parent).mp member).1
      rw [Holds, own, orphan] at held'
      cases held'
  · rcases List.mem_cons.mp node with here | below
    · have noParent := lineages.rooted lineage held
      rw [← here, ← own, held'] at noParent
      cases noParent
    · obtain ⟨parent', member', own'⟩ := List.mem_map.mp below
      obtain ⟨held'', root'⟩ := (chainOf.complete parent').mp member'
      -- both are the one record of the retry job
      rw [Holds, own', ← own, held'] at held''
      cases held''
      rw [root, root']

theorem Lineages.root_canonical (canonical : CanonicalIdentifier job.id) :
    CanonicalIdentifier (r.rootJobID job) := by
  rcases lineages.rootJobID_cases job with ⟨_, isRoot⟩ | ⟨parent, held, _, root⟩
  · rwa [isRoot]
  · rw [root]
    exact (lineages.retried parent held).rootID

/-- A failed job that is not indexed as a source is the last one of its chain. -/
theorem Lineages.untried {id : String} (found : r.job id = some job) (own : job.id = id)
    (untried : manualRetrySourceKey job.id job.version ∉ r.bySource)
    {lineage : ManualRetryLineage} (held : r.Holds lineage) : lineage.sourceJobID ≠ job.id := by
  intro source
  obtain ⟨job', found', _, version⟩ := (lineages.retried lineage held).source
  rw [source, own, found] at found'
  cases found'
  have indexed := lineages.sourced lineage held
  rw [source, ← version] at indexed
  exact untried (Table.mem_of_lookup indexed)

end Facts

/-! ## The operations keep the chains -/

/-- The jobs of `r` are still stored in `r'`, and the finished ones as they were. -/
def KeepsJobs (r r' : MemoryManualRetryRepository) : Prop :=
  ∀ id job, r.job id = some job → ∃ job', r'.job id = some job' ∧ job.SameOrigin job' ∧
    (job.status.terminal = true → job' = job)

variable {r : MemoryManualRetryRepository}

theorem keepsJobs_next (sound : r.jobs.Sound) (op : Op) :
    r.KeepsJobs (memoryMachine.next r op) := by
  intro id job found
  have effect := machine_effect sound op id
  rw [found] at effect
  generalize (memoryMachine.next r op).job id = after at effect ⊢
  cases effect with
  | same _ => exact ⟨job, rfl, ⟨rfl, rfl, rfl, rfl, rfl, rfl, rfl⟩, fun _ => rfl⟩
  | moves _ _ moves =>
      refine ⟨_, rfl, moves.sameOrigin, fun finished => ?_⟩
      rw [moves.unfinished] at finished
      cases finished

theorem Retried.keeps {r' : MemoryManualRetryRepository} {lineage : ManualRetryLineage}
    (retried : r.Retried lineage) (keeps : r.KeepsJobs r') : r'.Retried lineage := by
  obtain ⟨job, found, failed, version⟩ := retried.source
  obtain ⟨job', found', _, same⟩ := keeps _ job found
  cases same (by rw [failed]; rfl)
  obtain ⟨retry, retryFound, key⟩ := retried.retry
  obtain ⟨retry', retryFound', origin, _⟩ := keeps _ retry retryFound
  obtain ⟨root, rootFound⟩ := retried.root
  obtain ⟨root', rootFound', _⟩ := keeps _ root rootFound
  exact { retried with
    source := ⟨job, found', failed, version⟩
    retry := ⟨retry', retryFound', origin.idempotencyKey.trans key⟩
    root := ⟨root', rootFound'⟩ }

/-- The operations on the jobs leave the records as they are. -/
theorem Lineages.keeps {r' : MemoryManualRetryRepository} (lineages : r.Lineages)
    (keeps : r.KeepsJobs r') (sameAdmission : r'.byAdmission = r.byAdmission)
    (sameRetryJob : r'.byRetryJob = r.byRetryJob) (sameSource : r'.bySource = r.bySource) :
    r'.Lineages := by
  have holds : ∀ lineage, r'.Holds lineage ↔ r.Holds lineage := by
    intro lineage
    rw [Holds, Holds, sameRetryJob]
  constructor
  case byAdmission => simpa only [sameAdmission, holds] using lineages.byAdmission
  case byRetryJob => simpa only [sameRetryJob] using lineages.byRetryJob
  case bySource => simpa only [sameSource, holds] using lineages.bySource
  case admitted => simpa only [sameAdmission, holds] using lineages.admitted
  case sourced => simpa only [sameSource, holds] using lineages.sourced
  case retried =>
      exact fun lineage held => (lineages.retried lineage ((holds _).mp held)).keeps keeps
  case rooted => simpa only [sameRetryJob, holds] using lineages.rooted
  case chains =>
    intro root
    obtain ⟨chain, chainOf⟩ := lineages.chains root
    exact ⟨chain, chainOf.toIsChain, by simpa only [holds] using chainOf.complete⟩

section Recorded

variable {r : MemoryManualRetryRepository} {request : ManualRetryRequest} {source : Job}
  {fingerprintValue : String}

variable {lineage : ManualRetryLineage}

/-- The record of an accepted retry. -/
theorem holds_recordRetry :
    (r.recordRetry request source fingerprintValue).Holds lineage ↔
      lineage = request.lineage source (r.rootJobID source) ∨
        lineage.retryJobID ≠ request.retryJobID ∧ r.Holds lineage := by
  unfold Holds recordRetry
  simp only [ManualRetryRequest.createRequest, Table.lookup_insert_ite]
  split
  · next same => simp [same, eq_comm]
  · next other =>
      refine ⟨fun held => .inr ⟨other, held⟩, ?_⟩
      rintro (rfl | ⟨_, held⟩)
      · exact absurd rfl other
      · exact held

variable (sound : r.jobs.Sound) (lineages : r.Lineages) (valid : request.Valid)
  (unknown : r.byAdmission.lookup request.reviewedAdmissionID = none)
  (found : r.jobs.jobs.lookup request.sourceJobID = some source)
  (retryable : Retryable r request source)

include lineages retryable in
theorem Lineages.recorded_iff :
    (r.recordRetry request source fingerprintValue).Holds lineage ↔
      lineage = request.lineage source (r.rootJobID source) ∨ r.Holds lineage := by
  rw [holds_recordRetry]
  refine or_congr_right ⟨And.right, fun held => ⟨fun same => ?_, held⟩⟩
  obtain ⟨job, stored, _⟩ := (lineages.retried lineage held).retry
  exact retryable.freshJob (same ▸ Table.mem_of_lookup stored)

include sound found lineages in
/-- The root of a stored job is stored. -/
theorem Lineages.root_stored : ∃ job, r.job (r.rootJobID source) = some job := by
  rcases lineages.rootJobID_cases source with ⟨_, isRoot⟩ | ⟨parent, held, _, root⟩
  · rw [isRoot, sound.keyed _ _ found]
    exact ⟨source, found⟩
  · rw [root]
    exact (lineages.retried parent held).root

include sound lineages retryable found in
/-- A new record goes to the end of the chain of its root. -/
theorem Lineages.extends {chain : List ManualRetryLineage}
    (chainOf : r.ChainOf (r.rootJobID source) chain) :
    IsChain ManualRetryLineage.sourceJobID ManualRetryLineage.retryJobID (r.rootJobID source)
      (chain ++ [request.lineage source (r.rootJobID source)]) := by
  have own := sound.keyed _ _ found
  refine chainOf.toIsChain.concat ?_ ?_
  · rcases chainOf.tip_or_source (lineages.mem_nodes chainOf) with atTip | ⟨lineage, member, tried⟩
    · exact atTip
    · have held := ((chainOf.complete lineage).mp member).1
      exact absurd tried (lineages.untried found own retryable.untried held)
  · -- the nodes of the chain are stored, the new job is not
    intro node
    rcases List.mem_cons.mp node with isRoot | below
    · obtain ⟨job, stored⟩ := lineages.root_stored sound found
      refine retryable.freshJob ?_
      rw [show request.retryJobID = r.rootJobID source from isRoot]
      exact Table.mem_of_lookup stored
    · obtain ⟨lineage, member, same⟩ := List.mem_map.mp below
      have held := ((chainOf.complete lineage).mp member).1
      obtain ⟨job, stored, _⟩ := (lineages.retried lineage held).retry
      exact retryable.freshJob (Table.mem_of_lookup (same ▸ stored))

include sound lineages valid retryable found in
theorem Lineages.recorded_retried
    (keeps : r.KeepsJobs (r.recordRetry request source fingerprintValue)) :
    (r.recordRetry request source fingerprintValue).Retried
      (request.lineage source (r.rootJobID source)) := by
  have own := sound.keyed _ _ found
  obtain ⟨source', found', _, same⟩ := keeps _ _ found
  cases same (by rw [retryable.failed]; rfl)
  obtain ⟨root, rootFound⟩ := lineages.root_stored sound found
  obtain ⟨root', rootFound', _⟩ := keeps _ _ rootFound
  exact {
    source := by
      refine ⟨source, ?_, retryable.failed, rfl⟩
      show (r.recordRetry request source fingerprintValue).job source.id = some source
      rw [own]
      exact found'
    retry := ⟨(request.createRequest source).job, AList.lookup_insert _, rfl⟩
    root := ⟨root', rootFound'⟩
    version := by
      show source.version ≠ 0
      rw [retryable.version]
      exact valid.version
    timed := valid.timed
    sourceID := by
      show CanonicalIdentifier source.id
      rw [own]
      exact valid.canonical.1
    retryID := valid.canonical.2
    rootID := lineages.root_canonical (own.symm ▸ valid.canonical.1) }

include sound lineages found retryable in
/-- The root of a record of the new state is not the new job, and has no parent. -/
theorem Lineages.recorded_rooted
    (held : lineage = request.lineage source (r.rootJobID source) ∨ r.Holds lineage) :
    (r.recordRetry request source fingerprintValue).byRetryJob.lookup lineage.rootJobID = none := by
  have stored : ∃ job, r.job lineage.rootJobID = some job := by
    rcases held with rfl | held
    · exact lineages.root_stored sound found
    · exact (lineages.retried lineage held).root
  have noParent : r.byRetryJob.lookup lineage.rootJobID = none := by
    rcases held with rfl | held
    · show r.byRetryJob.lookup (r.rootJobID source) = none
      rcases lineages.rootJobID_cases source with ⟨orphan, isRoot⟩ | ⟨parent, held, _, root⟩
      · rw [isRoot, orphan]
      · rw [root, lineages.rooted parent held]
    · exact lineages.rooted lineage held
  have other : lineage.rootJobID ≠ request.retryJobID := by
    intro same
    obtain ⟨job, stored⟩ := stored
    exact retryable.freshJob (same ▸ Table.mem_of_lookup stored)
  simp only [MemoryManualRetryRepository.recordRetry, ManualRetryRequest.createRequest,
    Table.lookup_insert_ite, if_neg other, noParent]

include sound lineages found retryable in
/-- The chains of the new state: the one under the root of the source has grown. -/
theorem Lineages.recorded_chainOf {root : String} {chain : List ManualRetryLineage}
    (chainOf : r.ChainOf root chain) :
    (r.recordRetry request source fingerprintValue).ChainOf root
      (if r.rootJobID source = root then
        chain ++ [request.lineage source (r.rootJobID source)] else chain) := by
  split
  · next here =>
      subst here
      refine ⟨lineages.extends sound found retryable chainOf, fun lineage => ?_⟩
      rw [lineages.recorded_iff retryable, List.mem_append, List.mem_singleton, chainOf.complete]
      constructor
      · rintro (old | rfl)
        · exact ⟨.inr old.1, old.2⟩
        · exact ⟨.inl rfl, rfl⟩
      · rintro ⟨rfl | held, root⟩
        · exact .inr rfl
        · exact .inl ⟨held, root⟩
  · next elsewhere =>
      refine ⟨chainOf.toIsChain, fun lineage => ?_⟩
      rw [lineages.recorded_iff retryable, chainOf.complete]
      refine ⟨fun old => ⟨.inr old.1, old.2⟩, ?_⟩
      rintro ⟨rfl | held, root⟩
      · exact absurd root elsewhere
      · exact ⟨held, root⟩

include sound lineages valid unknown retryable found in
/-- An accepted retry keeps the records in order. -/
theorem Lineages.recordRetry
    (keeps : r.KeepsJobs (r.recordRetry request source fingerprintValue)) :
    (r.recordRetry request source fingerprintValue).Lineages := by
  have own : (r.recordRetry request source fingerprintValue).Holds
      (request.lineage source (r.rootJobID source)) := holds_recordRetry.mpr (.inl rfl)
  have old : ∀ lineage, r.Holds lineage →
      (r.recordRetry request source fingerprintValue).Holds lineage :=
    fun lineage held => (lineages.recorded_iff retryable).mpr (.inr held)
  constructor
  case byAdmission =>
    intro key record stored
    simp only [MemoryManualRetryRepository.recordRetry, Table.lookup_insert_ite] at stored
    split at stored
    · next same =>
        cases stored
        exact ⟨same.symm, own⟩
    · obtain ⟨keyed, held⟩ := lineages.byAdmission key record stored
      exact ⟨keyed, old _ held⟩
  case byRetryJob =>
    intro key lineage stored
    simp only [MemoryManualRetryRepository.recordRetry, Table.lookup_insert_ite] at stored
    split at stored
    · next same =>
        cases stored
        exact same.symm
    · exact lineages.byRetryJob key lineage stored
  case bySource =>
    intro key lineage stored
    simp only [MemoryManualRetryRepository.recordRetry, Table.lookup_insert_ite] at stored
    split at stored
    · cases stored
      exact own
    · exact old _ (lineages.bySource key lineage stored)
  case admitted =>
    intro lineage held
    simp only [MemoryManualRetryRepository.recordRetry, Table.lookup_insert_ite]
    rcases (lineages.recorded_iff retryable).mp held with rfl | held
    · exact ⟨_, if_pos rfl, rfl⟩
    · obtain ⟨record, stored, same⟩ := lineages.admitted lineage held
      have other : lineage.reviewedAdmissionID ≠ request.reviewedAdmissionID := by
        intro same
        rw [same, unknown] at stored
        cases stored
      exact ⟨record, by rw [if_neg other, stored], same⟩
  case sourced =>
    intro lineage held
    simp only [MemoryManualRetryRepository.recordRetry, Table.lookup_insert_ite]
    rcases (lineages.recorded_iff retryable).mp held with rfl | held
    · exact if_pos rfl
    · have indexed := lineages.sourced lineage held
      rw [if_neg, indexed]
      intro same
      exact retryable.untried (same ▸ Table.mem_of_lookup indexed)
  case retried =>
    intro lineage held
    rcases (lineages.recorded_iff retryable).mp held with rfl | held
    · exact lineages.recorded_retried sound valid found retryable keeps
    · exact (lineages.retried lineage held).keeps keeps
  case rooted =>
    intro lineage held
    exact lineages.recorded_rooted sound found retryable ((lineages.recorded_iff retryable).mp held)
  case chains =>
    intro root
    obtain ⟨chain, chainOf⟩ := lineages.chains root
    exact ⟨_, lineages.recorded_chainOf sound found retryable chainOf⟩

end Recorded

/-- **Every operation keeps the chains.** -/
theorem Lineages.next (sound : r.jobs.Sound) (lineages : r.Lineages) (op : Op) :
    (memoryMachine.next r op).Lineages := by
  have keeps := keepsJobs_next sound op
  cases op with
  | job op => exact lineages.keeps keeps rfl rfl rfl
  | createManualRetry ctx request =>
      have step := createManualRetry_step r ctx request
      simp only [Machine.next, memoryMachine, MemoryManualRetryRepository.step] at keeps ⊢
      generalize (r.createManualRetry ctx request).1 = r' at step keeps ⊢
      generalize (r.createManualRetry ctx request).2 = reply at step
      cases step with
      | refused | replayed _ _ _ => exact lineages
      | recorded fingerprinted unknown found retryable =>
          exact lineages.recordRetry sound (manualRetryRequestFingerprint_valid fingerprinted)
            unknown found retryable keeps

end MemoryManualRetryRepository

theorem exec_lineages (ops : List Op) : (memoryMachine.exec .new ops).Lineages := by
  induction ops using List.reverseRecOn with
  | nil => exact .new
  | append_singleton ops op ih =>
      rw [Machine.exec_concat]
      exact ih.next (exec_sound ops) op

/-! ## The history of a chain -/

namespace MemoryManualRetryRepository

theorem mem_lineageOf {r : MemoryManualRetryRepository} {root : String}
    {lineage : ManualRetryLineage} :
    lineage ∈ r.lineageOf root ↔
      (∃ key record, r.byAdmission.lookup key = some record ∧ record.lineage = lineage) ∧
        lineage.rootJobID = root := by
  simp only [lineageOf, List.mem_filter, List.mem_map, decide_eq_true_eq]
  refine and_congr_left fun _ => ⟨?_, ?_⟩
  · rintro ⟨⟨key, record⟩, member, same⟩
    exact ⟨key, record, AList.mem_lookup_iff.mpr member, same⟩
  · rintro ⟨key, record, found, same⟩
    exact ⟨⟨key, record⟩, AList.mem_lookup_iff.mp found, same⟩

/-- The records listed under a root are those of its chain. -/
theorem Lineages.lineageOf_perm {r : MemoryManualRetryRepository} (lineages : r.Lineages)
    {root : String} {chain : List ManualRetryLineage} (chainOf : r.ChainOf root chain) :
    (r.lineageOf root).Perm chain := by
  have keys : (r.byAdmission.entries.map fun entry => entry.2.lineage).map
      ManualRetryLineage.reviewedAdmissionID = r.byAdmission.keys := by
    rw [List.map_map]
    refine List.map_congr_left fun entry member => ?_
    exact (lineages.byAdmission entry.1 entry.2 (AList.mem_lookup_iff.mpr member)).1
  have listed : (r.byAdmission.entries.map fun entry => entry.2.lineage).Nodup :=
    .of_map ManualRetryLineage.reviewedAdmissionID (keys ▸ r.byAdmission.keys_nodup)
  have inOrder : chain.Nodup := .of_map ManualRetryLineage.retryJobID chainOf.nodup.of_cons
  refine (List.perm_ext_iff_of_nodup (listed.filter _) inOrder).mpr fun lineage => ?_
  rw [chainOf.complete]
  refine mem_lineageOf.trans (and_congr_left fun _ => ⟨?_, ?_⟩)
  · rintro ⟨key, record, found, rfl⟩
    exact (lineages.byAdmission key record found).2
  · intro held
    obtain ⟨record, found, same⟩ := lineages.admitted lineage held
    exact ⟨_, record, found, same⟩

end MemoryManualRetryRepository

/-- A record that the reader takes as complete. -/
def ManualRetryLineage.Complete (root : String) (item : ManualRetryLineage) : Prop :=
  item.rootJobID = root ∧ item.sourceJobID ≠ "" ∧ item.retryJobID ≠ "" ∧
    item.sourceJobVersion ≠ 0 ∧ item.requestedAt ≠ 0

variable {root : String}

theorem indexBySource_ok {items : List ManualRetryLineage}
    (complete : ∀ item ∈ items, item.Complete root)
    (distinct : (items.map ManualRetryLineage.sourceJobID).Nodup)
    (bySource : Table ManualRetryLineage) (fresh : ∀ item ∈ items, item.sourceJobID ∉ bySource) :
    ∃ indexed, indexBySource root items bySource = .ok indexed ∧
      ∀ node item, indexed.lookup node = some item ↔
        item ∈ items ∧ item.sourceJobID = node ∨ bySource.lookup node = some item := by
  induction items generalizing bySource with
  | nil => exact ⟨bySource, rfl, by simp⟩
  | cons first rest ih =>
      rw [List.forall_mem_cons] at complete fresh
      rw [List.map_cons, List.nodup_cons] at distinct
      obtain ⟨sameRoot, source, retry, version, timed⟩ := complete.1
      have freshRest : ∀ item ∈ rest,
          item.sourceJobID ∉ bySource.insert first.sourceJobID first := by
        intro item member
        rw [AList.mem_insert, not_or]
        exact ⟨fun same => distinct.1 (List.mem_map.mpr ⟨item, member, same⟩), fresh.2 item member⟩
      obtain ⟨indexed, ok, spec⟩ := ih complete.2 distinct.2 _ freshRest
      refine ⟨indexed, ?_, fun node item => ?_⟩
      · rw [indexBySource, if_neg, if_neg fresh.1, ok]
        simp [sameRoot, source, retry, version, Time.isZero_iff, timed]
      · rw [spec, Table.lookup_insert_ite, List.mem_cons]
        split
        · next here =>
            subst here
            have missing := AList.lookup_eq_none.mpr fresh.1
            simp only [missing, Option.some.injEq, reduceCtorEq, or_false]
            constructor
            · rintro (old | rfl)
              · exact ⟨.inr old.1, old.2⟩
              · exact ⟨.inl rfl, rfl⟩
            · rintro ⟨rfl | member, same⟩
              · exact .inr rfl
              · exact .inl ⟨member, same⟩
        · next other =>
            refine or_congr_left ⟨fun old => ⟨.inr old.1, old.2⟩, ?_⟩
            rintro ⟨rfl | member, same⟩
            · exact absurd same.symm other
            · exact ⟨member, same⟩

/-- The walk from the start of linked records follows them to the end. -/
theorem followChain_chain {bySource : Table ManualRetryLineage} {chain : List ManualRetryLineage}
    {cursor : String} {visited : List String} {fuel : Nat}
    (chained : IsChain ManualRetryLineage.sourceJobID ManualRetryLineage.retryJobID cursor chain)
    (unvisited : ∀ node ∈ cursor :: chain.map ManualRetryLineage.retryJobID, node ∉ visited)
    (indexed : ∀ item ∈ chain, bySource.lookup item.sourceJobID = some item)
    (ends : bySource.lookup (tip ManualRetryLineage.retryJobID cursor chain) = none)
    (enough : chain.length < fuel) :
    followChain bySource fuel visited cursor = .ok chain := by
  induction chain generalizing cursor visited fuel with
  | nil =>
      obtain ⟨fuel, rfl⟩ := Nat.exists_eq_succ_of_ne_zero (Nat.ne_of_gt enough)
      rw [followChain, if_neg (unvisited cursor List.mem_cons_self)]
      simp only [tip] at ends
      simp only [ends]
  | cons item rest ih =>
      obtain ⟨fuel, rfl⟩ := Nat.exists_eq_succ_of_ne_zero (Nat.ne_of_gt (Nat.zero_lt_of_lt enough))
      obtain ⟨⟨starts, linked⟩, nodup⟩ := chained
      rw [List.map_cons] at nodup unvisited
      rw [List.forall_mem_cons] at indexed
      rw [followChain, if_neg (unvisited cursor List.mem_cons_self), ← starts, indexed.1]
      have onward : followChain bySource fuel (item.sourceJobID :: visited) item.retryJobID =
          .ok rest := by
        refine ih ⟨linked, nodup.of_cons⟩ (fun node member => ?_) indexed.2 ends
          (Nat.lt_of_succ_lt_succ enough)
        rw [List.mem_cons, not_or]
        refine ⟨?_, unvisited node (List.mem_cons_of_mem _ member)⟩
        rintro rfl
        exact (List.nodup_cons.mp nodup).1 (starts ▸ member)
      simp only [onward]

theorem manualRetryHistoryPayload_isSome {entries : List ManualRetryLineage} :
    (manualRetryHistoryPayload root entries).isSome = true ↔
      ∀ item ∈ entries, Time.yearInRange item.requestedAt = true := by
  have entry : ∀ item, (manualRetryHistoryEntry item).isSome = true ↔
      Time.yearInRange item.requestedAt = true := by
    intro item
    simp [manualRetryHistoryEntry, Json.time]
  rw [manualRetryHistoryPayload, Option.isSome_map]
  induction entries with
  | nil => simp
  | cons first rest ih =>
      rw [List.mapM_cons, List.forall_mem_cons]
      refine Iff.trans ?_ (and_congr (entry first) ih)
      cases manualRetryHistoryEntry first with
      | none => simp
      | some value => cases rest.mapM manualRetryHistoryEntry <;> simp

/-- The evidence of a chain. -/
def chainEvidence (root : String) (source : Job) (observedAt : Time)
    (chain : List ManualRetryLineage) (payload : Json) : ManualRetryHistoryEvidence where
  contractVersion := manualRetryHistoryContractVersion
  rootJobID := root
  sourceJobID := source.id
  sourceJobVersion := source.version
  usedManualRetries := UInt32.ofNat chain.length
  sourceAlreadyRetried := decide (source.id ∈ chain.map ManualRetryLineage.sourceJobID)
  digest := sha256Digest payload.bytes
  observedAt := observedAt

/-- **The walk over the records of a chain**, in whatever order they are listed. -/
theorem historyEvidence_chain {source : Job} {observedAt : Time}
    {chain listed : List ManualRetryLineage} (perm : listed.Perm chain)
    (chained : IsChain ManualRetryLineage.sourceJobID ManualRetryLineage.retryJobID root chain)
    (complete : ∀ item ∈ chain, item.Complete root) {evidence : ManualRetryHistoryEvidence} :
    historyEvidence root source observedAt listed = .ok evidence ↔
      ∃ payload, manualRetryHistoryPayload root chain = some payload ∧
        evidence = chainEvidence root source observedAt chain payload := by
  have distinct : (chain.map ManualRetryLineage.sourceJobID).Nodup :=
    chained.nodup_sources.of_append_left
  obtain ⟨indexed, ok, spec⟩ := indexBySource_ok
    (fun item member => complete item (perm.mem_iff.mp member))
    ((perm.map _).nodup_iff.mpr distinct) ∅ (fun _ _ => AList.notMem_empty _)
  have spec' : ∀ node item, indexed.lookup node = some item ↔
      item ∈ chain ∧ item.sourceJobID = node := by
    intro node item
    rw [spec, perm.mem_iff, AList.lookup_empty]
    simp
  have walked : followChain indexed (chain.length + 1) [] root = .ok chain := by
    refine followChain_chain chained (by simp) (fun item member => (spec' _ _).mpr ⟨member, rfl⟩)
      ?_ (Nat.lt_succ_self _)
    rw [Option.eq_none_iff_forall_ne_some]
    intro item found
    obtain ⟨member, atTip⟩ := (spec' _ _).mp found
    exact chained.source_ne_tip member atTip
  have retried : decide (source.id ∈ indexed) =
      decide (source.id ∈ chain.map ManualRetryLineage.sourceJobID) := by
    refine decide_eq_decide.mpr ?_
    rw [List.mem_map, ← AList.lookup_isSome, Option.isSome_iff_exists]
    simp only [spec']
  simp only [historyEvidence, ok, walked, perm.length_eq, ne_eq, not_true_eq_false, if_false,
    retried]
  cases manualRetryHistoryPayload root chain with
  | none => simp
  | some payload => simp [chainEvidence, eq_comm]

/-- The conditions under which a history is observed. -/
structure Observable (ctx : Context) (job : Job) (observedAt : Time) : Prop where
  live : ctx.err = none
  canonical : CanonicalIdentifier job.id
  version : job.version ≠ 0
  timed : observedAt ≠ 0
  fresh : job.updatedAt ≤ observedAt

namespace MemoryManualRetryRepository

variable {ctx : Context} {r : MemoryManualRetryRepository} {job : Job} {observedAt : Time}

theorem historyRoot_live (r : MemoryManualRetryRepository) (live : ctx.err = none) (job : Job) :
    historyRoot r ctx job = .ok (r.rootJobID job) := by
  unfold historyRoot getManualRetryLineageByRetryJob rootJobID
  rw [live]
  cases r.byRetryJob.lookup job.id <;> rfl

theorem historyRoot_ok {root : String} (ok : historyRoot r ctx job = .ok root) :
    ctx.err = none := by
  cases cause : ctx.err with
  | none => rfl
  | some cause =>
      simp [historyRoot, getManualRetryLineageByRetryJob, cause, manualRetryLineageNotFound] at ok

theorem Lineages.chain_complete (lineages : r.Lineages) {root : String}
    {chain : List ManualRetryLineage} (chainOf : r.ChainOf root chain) (item : ManualRetryLineage)
    (member : item ∈ chain) : item.Complete root := by
  obtain ⟨held, sameRoot⟩ := (chainOf.complete item).mp member
  have retried := lineages.retried item held
  exact ⟨sameRoot, retried.sourceID.ne_empty, retried.retryID.ne_empty, retried.version,
    retried.timed⟩

theorem observable_of_ok {evidence : ManualRetryHistoryEvidence}
    (ok : buildManualRetryHistoryEvidence r ctx job observedAt = .ok evidence) :
    Observable ctx job observedAt := by
  unfold buildManualRetryHistoryEvidence at ok
  split at ok
  · cases ok
  · next canonical =>
      split at ok
      · cases ok
      · next version =>
          split at ok
          · cases ok
          · next times =>
              split at ok
              · cases ok
              · next rooted =>
                  simp only [not_or, Time.isZero_iff, Int.not_lt] at times
                  exact ⟨historyRoot_ok rooted, validateManualRetryIdentifier_iff.mp canonical,
                    version, times.1, times.2.2⟩

/-- What is left to do once the observation is accepted. -/
theorem Lineages.buildManualRetryHistoryEvidence_observable (lineages : r.Lineages)
    (written : job.updatedAt ≠ 0) (observable : Observable ctx job observedAt) :
    buildManualRetryHistoryEvidence r ctx job observedAt =
      if maxManualRetryHistoryEntries < (r.lineageOf (r.rootJobID job)).length then
        .error (invalidManualRetryHistory "retry history exceeds bounded evidence size")
      else historyEvidence (r.rootJobID job) job observedAt
        ((r.lineageOf (r.rootJobID job)).insertionSort ManualRetryLineage.precedes) := by
  obtain ⟨live, canonical, version, timed, fresh⟩ := observable
  have times : ¬ (Time.isZero observedAt = true ∨ Time.isZero job.updatedAt = true ∨
      observedAt < job.updatedAt) := by
    simp only [not_or, Time.isZero_iff, Int.not_lt]
    exact ⟨timed, written, fresh⟩
  have rootOk : validateManualRetryIdentifier "root job id" (r.rootJobID job) = .ok () :=
    validateManualRetryIdentifier_iff.mpr (lineages.root_canonical canonical)
  simp only [buildManualRetryHistoryEvidence, validateManualRetryIdentifier_iff.mpr canonical,
    if_neg version, if_neg times, r.historyRoot_live live, rootOk, listManualRetryLineage, live,
    List.length_insertionSort]

/-- **The history of a stored job** is read off the chain of its root. -/
theorem Lineages.buildManualRetryHistoryEvidence_ok (lineages : r.Lineages)
    (written : job.updatedAt ≠ 0) {chain : List ManualRetryLineage}
    (chainOf : r.ChainOf (r.rootJobID job) chain) {evidence : ManualRetryHistoryEvidence} :
    buildManualRetryHistoryEvidence r ctx job observedAt = .ok evidence ↔
      Observable ctx job observedAt ∧ chain.length ≤ maxManualRetryHistoryEntries ∧
        ∃ payload, manualRetryHistoryPayload (r.rootJobID job) chain = some payload ∧
          evidence = chainEvidence (r.rootJobID job) job observedAt chain payload := by
  have perm := lineages.lineageOf_perm chainOf
  have walk : historyEvidence (r.rootJobID job) job observedAt
      ((r.lineageOf (r.rootJobID job)).insertionSort ManualRetryLineage.precedes) = .ok evidence ↔
      ∃ payload, manualRetryHistoryPayload (r.rootJobID job) chain = some payload ∧
        evidence = chainEvidence (r.rootJobID job) job observedAt chain payload :=
    historyEvidence_chain ((List.perm_insertionSort _ _).trans perm) chainOf.toIsChain
      (lineages.chain_complete chainOf)
  by_cases observable : Observable ctx job observedAt
  · rw [lineages.buildManualRetryHistoryEvidence_observable written observable, perm.length_eq,
      ← walk]
    split
    · next long => simp [Nat.not_le.mpr long]
    · next short => simp [observable, Nat.not_lt.mp short]
  · exact ⟨fun ok => absurd (observable_of_ok ok) observable,
      fun accepted => absurd accepted.1 observable⟩

end MemoryManualRetryRepository

/-- The three indexes hold the same records. -/
def MemoryManualRetryRepository.SameRecords (r : MemoryManualRetryRepository) : Prop :=
  ∀ lineage, (r.Holds lineage ↔
      ∃ key record, r.byAdmission.lookup key = some record ∧ record.lineage = lineage) ∧
    (r.Holds lineage ↔ ∃ key, r.byRetryJob.lookup key = some lineage) ∧
    (r.Holds lineage ↔ ∃ key, r.bySource.lookup key = some lineage)

theorem MemoryManualRetryRepository.Lineages.sameRecords {r : MemoryManualRetryRepository}
    (lineages : r.Lineages) : r.SameRecords := by
  refine fun lineage => ⟨⟨fun held => ?_, ?_⟩, ⟨fun held => ⟨_, held⟩, ?_⟩,
    ⟨fun held => ⟨_, lineages.sourced lineage held⟩, ?_⟩⟩
  · obtain ⟨record, found, same⟩ := lineages.admitted lineage held
    exact ⟨_, record, found, same⟩
  · rintro ⟨key, record, found, rfl⟩
    exact (lineages.byAdmission key record found).2
  · rintro ⟨key, found⟩
    unfold Holds
    rw [lineages.byRetryJob key lineage found, found]
  · rintro ⟨key, found⟩
    exact lineages.bySource key lineage found

/-- **Manual retries form chains that the history builder accepts.** After any run the three
indexes hold the same records and the records under a root are one chain. The history of a
stored job is built when the job's id is canonical, its version has not wrapped around to
zero, the observation has a time not before the last write, the chain has at most 64 records
and each of their times can be encoded, and it reports the length of the chain and whether
the job has been retried. -/
theorem manual_retry_chains (ops : List Op) :
    (memoryMachine.exec .new ops).SameRecords ∧
    ∀ root, ∃ chain, (memoryMachine.exec .new ops).ChainOf root chain ∧
      ∀ id job ctx observedAt, (memoryMachine.exec .new ops).job id = some job →
        (memoryMachine.exec .new ops).rootJobID job = root →
        ((∃ evidence, buildManualRetryHistoryEvidence (memoryMachine.exec .new ops) ctx job
            observedAt = .ok evidence) ↔
          Observable ctx job observedAt ∧ chain.length ≤ maxManualRetryHistoryEntries ∧
            ∀ lineage ∈ chain, Time.yearInRange lineage.requestedAt = true) ∧
        ∀ evidence, buildManualRetryHistoryEvidence (memoryMachine.exec .new ops) ctx job
            observedAt = .ok evidence →
          evidence.usedManualRetries.toNat = chain.length ∧
          (evidence.sourceAlreadyRetried = true ↔
            ∃ lineage, (memoryMachine.exec .new ops).Holds lineage ∧
              lineage.sourceJobID = id) := by
  have lineages := exec_lineages ops
  refine ⟨lineages.sameRecords, fun root => ?_⟩
  obtain ⟨chain, chainOf⟩ := lineages.chains root
  refine ⟨chain, chainOf, ?_⟩
  rintro id job ctx observedAt found rfl
  have written := exec_timed ops id job found
  have own := (exec_sound ops).keyed id job found
  refine ⟨?_, fun evidence built => ?_⟩
  · simp only [lineages.buildManualRetryHistoryEvidence_ok written chainOf]
    constructor
    · rintro ⟨evidence, observable, short, payload, encoded, _⟩
      exact ⟨observable, short, manualRetryHistoryPayload_isSome.mp
        (Option.isSome_iff_exists.mpr ⟨payload, encoded⟩)⟩
    · rintro ⟨observable, short, inRange⟩
      obtain ⟨payload, encoded⟩ :=
        Option.isSome_iff_exists.mp (manualRetryHistoryPayload_isSome.mpr inRange)
      exact ⟨_, observable, short, payload, encoded, rfl⟩
  · obtain ⟨_, short, payload, _, rfl⟩ :=
      (lineages.buildManualRetryHistoryEvidence_ok written chainOf).mp built
    constructor
    · refine UInt32.toNat_ofNat_of_lt' (Nat.lt_of_le_of_lt short ?_)
      decide
    · simp only [chainEvidence, decide_eq_true_eq, List.mem_map, own]
      refine exists_congr fun lineage => and_congr_left fun source => ?_
      rw [chainOf.complete]
      exact ⟨And.left, fun held =>
        ⟨held, lineages.rootJobID_of_source held (source.trans own.symm)⟩⟩

/-! ## A retry after the year 9999 -/

/-- A job of one attempt is created, claimed and failed. -/
def failedJobs : List (JobOp String) :=
  let claimed : List (JobOp String) :=
    [.create .background ⟨"job-1", "change-1", "restart", utf8 "\x7b\x7d", "key-1", 1, 10⟩,
      .claim .background "worker" 20 second]
  let job := (memoryMachine.exec .new (claimed.map .job)).job "job-1"
  let token := (job.bind Job.lease).elim "" Lease.token
  claimed ++ [.fail .background "job-1" token "unreachable" ⟨[], [], []⟩ ⟨second, second⟩ 30]

/-- A retry of the failed job at a given time. -/
def sampleRetry (requestedAt : Time) : ManualRetryRequest where
  sourceJobID := "job-1"
  expectedSourceVersion := 3
  retryJobID := "job-2"
  retryIdempotencyKey := "key-2"
  reviewedAdmissionID := sha256Digest (utf8 "reviewed")
  revalidationAdmissionID := sha256Digest (utf8 "revalidated")
  revisionID := "revision-1"
  revisionDigest := sha256Digest (utf8 "revision")
  policyID := "policy-1"
  policyDigest := sha256Digest (utf8 "policy")
  retryHistoryDigest := sha256Digest (utf8 "history")
  approvalEvidenceDigest := ""
  requestedAt := requestedAt

/-- The first instant of the year 10000. -/
def year10000 : Time := 315537897600 * 1000000000

/-- The chain of `job-1` has one record, requested in the year 10000, and its history cannot
be encoded. -/
theorem late_retry_has_no_history :
    let r := memoryMachine.exec .new
      (failedJobs.map .job ++ [.createManualRetry .background (sampleRetry year10000)])
    (r.job "job-1").map (fun job => (job.updatedAt, job.version, r.rootJobID job)) =
        some (30, 3, "job-1") ∧
      (r.lineageOf "job-1").length = 1 ∧
      (r.job "job-1").map (fun job =>
        buildManualRetryHistoryEvidence r .background job (30 : Time)) =
        some (.error (invalidManualRetryHistory ("encode retry history: " ++ Json.timeError))) := by
  decide +kernel

end ControlCenter.Orchestration
