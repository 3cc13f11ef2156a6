import ControlCenter.Orchestration.Job.Transition

/-!
# Invariants of the job store

What holds of every job in every state that a run of the in-memory repository leads to,
manual retries included.

A job is well formed (`Job.WellFormed`) when its lease, its status and its attempts fit
together. A repository is sound (`MemoryRepository.Sound`) when its jobs are well formed
and lie under their own ids, and when the idempotency index and the jobs point at each
other. Every operation keeps the repository sound (`Sound.next`), so every run does
(`exec_sound`).

The second half counts. A transition raises the version of its job by one and its
attempts by one exactly when the reply is a claim of that job, which gives the law of a
whole run: the claims of a job are its attempts (`claimCount_eq_attempt`).

A claim takes the oldest job that may be started, and one that no worker holds
(`claim_takes_oldest`). So a job is never held twice, and waits for older ones only.
-/

set_option autoImplicit false

namespace ControlCenter.Orchestration

open Library

/-! ## Well-formed jobs -/

/-- How the lease, the status and the attempts of a job fit together. -/
structure Job.WellFormed (job : Job) : Prop where
  lease_iff : job.lease.isSome = true ↔ job.status = .running ∨ job.status = .cancelRequested
  positive : 1 ≤ job.maxAttempts
  attempt_nonneg : 0 ≤ job.attempt
  attempt_le : job.attempt ≤ job.maxAttempts
  queued : job.status = .queued → job.attempt = 0
  started : job.status = .running ∨ job.status = .cancelRequested ∨ job.status = .retryWait ∨
    job.status = .succeeded ∨ job.status = .failed → 1 ≤ job.attempt
  waiting : job.status = .retryWait → job.attempt < job.maxAttempts
  failed : job.status = .failed → job.attempt = job.maxAttempts

theorem Status.leased_iff {status : Status} :
    status.leased = true ↔ status = .running ∨ status = .cancelRequested := by
  cases status <;> simp [Status.leased]

theorem CreateRequest.job_wellFormed {request : CreateRequest}
    (positive : 1 ≤ request.maxAttempts) :
    request.job.WellFormed := by
  constructor <;> simp [CreateRequest.job] <;> omega

variable {job : Job}

theorem Job.WellFormed.attempt_pos_of_leased (wellFormed : job.WellFormed)
    (leased : job.status.leased = true) : 1 ≤ job.attempt := by
  rcases Status.leased_iff.mp leased with running | requested
  · exact wellFormed.started (.inl running)
  · exact wellFormed.started (.inr (.inl requested))

theorem Job.WellFormed.cancel (wellFormed : job.WellFormed) (now : Time) :
    (job.cancel now).WellFormed := by
  have ⟨lease_iff, positive, nonneg, le, _, started, _, _⟩ := wellFormed
  unfold Job.cancel
  split
  · next running =>
      have := started (.inl running)
      have := lease_iff.mpr (.inl running)
      constructor <;> simp <;> assumption
  · constructor <;> simp <;> omega

/-- **Every transition keeps a job well formed.** -/
theorem Transition.wellFormed {op : JobOp String} {reply : Reply} {job' : Job}
    (moves : Transition op reply job job') (wellFormed : job.WellFormed) : job'.WellFormed := by
  have ⟨lease_iff, positive, nonneg, le, queued, started, waiting, failed⟩ := wellFormed
  cases moves with
  | cancelExpired _ _ _ _ => constructor <;> simp [Job.cancelExpired] <;> omega
  | failExhausted _ _ exhausted _ => constructor <;> simp [Job.failExhausted] <;> omega
  | startAttempt _ _ attempts => constructor <;> simp [Job.startAttempt] <;> omega
  | renew _ holds =>
      exact ⟨by simpa [Job.renew] using lease_iff, positive, nonneg, le, queued, started, waiting,
        failed⟩
  | complete _ holds =>
      have := wellFormed.attempt_pos_of_leased holds.1
      unfold Job.complete
      split <;> constructor <;> simp <;> omega
  | failAttempt _ holds =>
      have := wellFormed.attempt_pos_of_leased holds.1
      unfold Job.failAttempt
      simp only
      split
      · constructor <;> simp <;> omega
      · split <;> constructor <;> simp <;> omega
  | cancel _ _ => exact wellFormed.cancel _
  | cancelIfVersion _ _ => exact wellFormed.cancel _

/-! ## Sound repositories -/

/-- The jobs are well formed and lie under their ids. Each job is the one its own
idempotency key points to, and each key points to a job that carries it. -/
structure MemoryRepository.Sound (r : MemoryRepository) : Prop where
  keyed : r.Keyed
  wellFormed : ∀ id job, r.jobs.lookup id = some job → job.WellFormed
  indexed : ∀ id job, r.jobs.lookup id = some job →
    ∃ record, r.idempotency.lookup job.idempotencyKey = some record ∧ record.jobID = id
  stored : ∀ key record, r.idempotency.lookup key = some record →
    ∃ job, r.jobs.lookup record.jobID = some job ∧ job.idempotencyKey = key

theorem checkCreate_valid {request : CreateRequest}
    (checked : MemoryRepository.checkCreate request = .ok ()) :
    1 ≤ request.maxAttempts ∧ request.now ≠ 0 := by
  unfold MemoryRepository.checkCreate at checked
  split at checked
  · cases checked
  · split at checked
    · cases checked
    · split at checked
      · cases checked
      · next valid =>
          rw [not_or, Time.isZero_iff] at valid
          exact ⟨not_lt.mp valid.1, valid.2⟩

namespace MemoryRepository.Sound

theorem new : MemoryRepository.new.Sound := by
  constructor <;> simp [MemoryRepository.new, Keyed]

/-- The job is untouched or takes one transition. -/
def Moved (before after : Option Job) : Prop :=
  after = before ∨ ∃ op reply job job', before = some job ∧ after = some job' ∧
    Transition op reply job job'

theorem moved {r r' : MemoryRepository} (sound : r.Sound)
    (index : r'.idempotency = r.idempotency)
    (moves : ∀ id, Moved (r.jobs.lookup id) (r'.jobs.lookup id)) : r'.Sound := by
  -- a job after the step comes from a well-formed one of the same origin
  have comesFrom : ∀ id job', r'.jobs.lookup id = some job' →
      ∃ job, r.jobs.lookup id = some job ∧ job.SameOrigin job' ∧ job'.WellFormed := by
    intro id job' found'
    rcases moves id with same | ⟨_, _, job, job'', found, found'', moves⟩
    · have found := same ▸ found'
      exact ⟨job', found, by constructor <;> rfl, sound.wellFormed id job' found⟩
    · cases found''.symm.trans found'
      exact ⟨job, found, moves.sameOrigin, moves.wellFormed (sound.wellFormed id job found)⟩
  constructor
  · intro id job' found'
    obtain ⟨job, found, origin, _⟩ := comesFrom id job' found'
    exact origin.id.trans (sound.keyed id job found)
  · intro id job' found'
    obtain ⟨_, _, _, wellFormed⟩ := comesFrom id job' found'
    exact wellFormed
  · intro id job' found'
    obtain ⟨job, found, origin, _⟩ := comesFrom id job' found'
    rw [index, origin.idempotencyKey]
    exact sound.indexed id job found
  · intro key record keyed
    obtain ⟨job, found, own⟩ := sound.stored key record (index ▸ keyed)
    rcases moves record.jobID with same | ⟨_, _, job', job'', found', found'', moves⟩
    · exact ⟨job, same ▸ found, own⟩
    · cases found'.symm.trans found
      exact ⟨job'', found'', moves.sameOrigin.idempotencyKey.trans own⟩

theorem insertNew {r : MemoryRepository} (sound : r.Sound) {request : CreateRequest}
    (positive : 1 ≤ request.maxAttempts) (fresh : request.id ∉ r.jobs)
    (freshKey : request.idempotencyKey ∉ r.idempotency) : (r.insertNew request).Sound := by
  have cases_of_found : ∀ id job, (r.insertNew request).jobs.lookup id = some job →
      id = request.id ∧ job = request.job ∨ id ≠ request.id ∧ r.jobs.lookup id = some job := by
    intro id job found
    rw [MemoryRepository.insertNew, Table.lookup_insert_ite] at found
    split at found
    · next here => exact .inl ⟨here, (Option.some.inj found).symm⟩
    · next other => exact .inr ⟨other, found⟩
  constructor
  · intro id job found
    rcases cases_of_found id job found with ⟨rfl, rfl⟩ | ⟨_, found⟩
    · rfl
    · exact sound.keyed id job found
  · intro id job found
    rcases cases_of_found id job found with ⟨rfl, rfl⟩ | ⟨_, found⟩
    · exact CreateRequest.job_wellFormed positive
    · exact sound.wellFormed id job found
  · intro id job found
    rw [MemoryRepository.insertNew, Table.lookup_insert_ite]
    rcases cases_of_found id job found with ⟨rfl, rfl⟩ | ⟨_, found⟩
    · exact ⟨_, if_pos rfl, rfl⟩
    · obtain ⟨record, keyed, own⟩ := sound.indexed id job found
      have other : job.idempotencyKey ≠ request.idempotencyKey :=
        fun same => freshKey (same ▸ Table.mem_of_lookup keyed)
      exact ⟨record, (if_neg other).trans keyed, own⟩
  · intro key record keyed
    rw [MemoryRepository.insertNew, Table.lookup_insert_ite] at keyed
    rw [MemoryRepository.insertNew, Table.lookup_insert_ite]
    split at keyed
    · next here =>
        cases keyed
        exact ⟨request.job, if_pos rfl, here.symm⟩
    · obtain ⟨job, found, own⟩ := sound.stored key record keyed
      have other : record.jobID ≠ request.id :=
        fun same => fresh (same ▸ Table.mem_of_lookup found)
      exact ⟨job, (if_neg other).trans found, own⟩

/-- An operation on the jobs keeps the repository sound. -/
theorem step {r : MemoryRepository} (sound : r.Sound) (op : JobOp String) :
    (r.step op).1.Sound := by
  have shape := step_shape sound.keyed op
  have effect := step_effect sound.keyed op
  generalize r.step op = result at shape effect ⊢
  obtain ⟨r', reply⟩ := result
  have moved_of_effect : (∀ ctx request, op ≠ .create ctx request) →
      ∀ id, Moved (r.jobs.lookup id) (r'.jobs.lookup id) := by
    intro notCreate id
    have := effect id
    generalize r.jobs.lookup id = before, r'.jobs.lookup id = after at this
    cases this with
    | same _ => exact .inl rfl
    | moves _ moves => exact .inr ⟨_, _, _, _, rfl, rfl, moves⟩
    | creates _ isCreate _ _ => exact absurd isCreate (notCreate _ _)
  cases shape with
  | refused | replayed _ | finished _ _ => exact sound
  | walked _ _ => exact sound.moved rfl (moved_of_effect (by simp))
  | wrote _ moves => exact sound.moved rfl (moved_of_effect (by cases moves <;> simp))
  | created accepted fresh freshKey =>
      exact sound.insertNew (checkCreate_valid accepted.2).1 fresh freshKey

end MemoryRepository.Sound

/-! ## The machine with manual retries -/

/-- What an operation of the machine does to the jobs. -/
inductive StoreStep (r : MemoryRepository) : Op → Reply → MemoryRepository → Prop where
  | job {op : JobOp String} : StoreStep r (.job op) (r.step op).2 (r.step op).1
  | refused {ctx : Context} {request : ManualRetryRequest} {reply : Reply}
      (other : ∀ id, ¬ reply.Claims id) : StoreStep r (.createManualRetry ctx request) reply r
  | retried {ctx : Context} {request : ManualRetryRequest} {lineage : ManualRetryLineage}
      {source : Job} (found : r.jobs.lookup request.sourceJobID = some source)
      (timed : request.requestedAt ≠ 0) (fresh : (request.createRequest source).id ∉ r.jobs)
      (freshKey : (request.createRequest source).idempotencyKey ∉ r.idempotency) :
      StoreStep r (.createManualRetry ctx request)
        (.retried (request.createRequest source).job lineage true)
        (r.insertNew (request.createRequest source))

/-- What stands when nothing is in the way of a retry. -/
structure Retryable (r : MemoryManualRetryRepository) (request : ManualRetryRequest)
    (source : Job) : Prop where
  version : source.version = request.expectedSourceVersion
  failed : source.status = .failed
  untried : manualRetrySourceKey source.id source.version ∉ r.bySource
  freshJob : request.retryJobID ∉ r.jobs.jobs
  freshKey : request.retryIdempotencyKey ∉ r.jobs.idempotency

variable {r : MemoryManualRetryRepository} {request : ManualRetryRequest}

theorem checkSource_retryable {source : Job} (checked : r.checkSource request source = .ok ()) :
    Retryable r request source := by
  unfold MemoryManualRetryRepository.checkSource at checked
  split at checked
  · cases checked
  · next version =>
      split at checked
      · cases checked
      · next failed =>
          split at checked
          · cases checked
          · next untried =>
              split at checked
              · cases checked
              · next freshJob =>
                  split at checked
                  · cases checked
                  · next freshKey =>
                      rw [not_or] at failed
                      exact ⟨not_not.mp version, not_not.mp failed.1, untried, freshJob, freshKey⟩

theorem checkFields_ok {check : String → String → Except JobError Unit}
    {fields : List (String × String)} :
    checkFields check fields = .ok () ↔ ∀ field ∈ fields, check field.1 field.2 = .ok () := by
  induction fields with
  | nil => simp [checkFields]
  | cons field rest ih =>
      rw [checkFields, List.forall_mem_cons, ← ih]
      cases check field.1 field.2 <;> simp

/-- The fields of a request that passes its checks. -/
structure ManualRetryRequest.Valid (request : ManualRetryRequest) : Prop where
  identifiers : ∀ field ∈ request.identifiers,
    validateManualRetryIdentifier field.1 field.2 = .ok ()
  version : request.expectedSourceVersion ≠ 0
  fresh : request.sourceJobID ≠ request.retryJobID
  digests : ∀ field ∈ request.digests, validateManualRetryDigest field.1 field.2 = .ok ()
  approval : request.approvalEvidenceDigest ≠ "" →
    validManualRetryDigest request.approvalEvidenceDigest = true
  timed : request.requestedAt ≠ 0

theorem validateManualRetryRequest_ok :
    validateManualRetryRequest request = .ok () ↔ request.Valid := by
  unfold validateManualRetryRequest
  constructor
  · intro valid
    split at valid
    · cases valid
    · next identifiers =>
        split at valid
        · cases valid
        · next version =>
            split at valid
            · cases valid
            · next fresh =>
                split at valid
                · cases valid
                · next digests =>
                    split at valid
                    · cases valid
                    · next approval =>
                        split at valid
                        · cases valid
                        · next set =>
                            refine ⟨checkFields_ok.mp identifiers, version, fresh,
                              checkFields_ok.mp digests, fun given => ?_,
                              mt (Time.isZero_iff _).mpr set⟩
                            simpa [given] using approval
  · intro valid
    have approval : ¬ (request.approvalEvidenceDigest ≠ "" ∧
        validManualRetryDigest request.approvalEvidenceDigest = false) := by
      rintro ⟨given, bad⟩
      rw [valid.approval given] at bad
      cases bad
    simp only [checkFields_ok.mpr valid.identifiers, checkFields_ok.mpr valid.digests,
      if_neg valid.version, if_neg valid.fresh, if_neg approval,
      if_neg (mt (Time.isZero_iff _).mp valid.timed)]

theorem manualRetryRequestFingerprint_valid {value : String}
    (ok : manualRetryRequestFingerprint request = .ok value) : request.Valid := by
  unfold manualRetryRequestFingerprint at ok
  split at ok
  · cases ok
  · next valid => exact validateManualRetryRequest_ok.mp valid

/-- What a manual retry does: it is refused, it finds the retry its admission led to, or it
records a new one. -/
inductive RetryStep (r : MemoryManualRetryRepository) (request : ManualRetryRequest) :
    Except JobError (Job × ManualRetryLineage × Bool) → MemoryManualRetryRepository → Prop where
  | refused {e : JobError} : RetryStep r request (.error e) r
  | replayed {record : MemoryManualRetryRecord} {retry : Job}
      (known : r.byAdmission.lookup request.reviewedAdmissionID = some record)
      (same : manualRetryRequestFingerprint request = .ok record.fingerprint)
      (found : r.jobs.jobs.lookup record.lineage.retryJobID = some retry) :
      RetryStep r request (.ok (retry, record.lineage, false)) r
  | recorded {fingerprintValue : String} {source : Job}
      (fingerprinted : manualRetryRequestFingerprint request = .ok fingerprintValue)
      (unknown : r.byAdmission.lookup request.reviewedAdmissionID = none)
      (found : r.jobs.jobs.lookup request.sourceJobID = some source)
      (retryable : Retryable r request source) :
      RetryStep r request (.ok ((request.createRequest source).job,
        request.lineage source (r.rootJobID source), true))
        (r.recordRetry request source fingerprintValue)

theorem createManualRetry_step (r : MemoryManualRetryRepository) (ctx : Context)
    (request : ManualRetryRequest) :
    RetryStep r request (r.createManualRetry ctx request).2
      (r.createManualRetry ctx request).1 := by
  unfold MemoryManualRetryRepository.createManualRetry
  split
  · exact .refused
  · split
    · exact .refused
    · next fingerprinted =>
        split
        · next known =>
            split
            · exact .refused
            · next same =>
                rw [not_not] at same
                split
                · exact .refused
                · next found => exact .replayed known (same ▸ fingerprinted) found
        · next unknown =>
            split
            · exact .refused
            · next found =>
                split
                · exact .refused
                · next checked =>
                    exact .recorded fingerprinted unknown found (checkSource_retryable checked)

theorem machine_storeStep (r : MemoryManualRetryRepository) (op : Op) :
    StoreStep r.jobs op (memoryMachine.answer r op) (memoryMachine.next r op).jobs := by
  cases op with
  | job op => exact .job
  | createManualRetry ctx request =>
      have step := createManualRetry_step r ctx request
      simp only [Machine.answer, Machine.next, memoryMachine, MemoryManualRetryRepository.step]
      generalize (r.createManualRetry ctx request).1 = r',
        (r.createManualRetry ctx request).2 = reply
        at step ⊢
      cases step with
      | refused => exact .refused (not_claims_of_ne (by simp [Reply.ofRetry]))
      | replayed _ _ _ => exact .refused (not_claims_of_ne (by simp [Reply.ofRetry]))
      | recorded fingerprinted _ found retryable =>
          exact .retried found (manualRetryRequestFingerprint_valid fingerprinted).timed
            retryable.freshJob retryable.freshKey

/-- What an operation of the machine does to the job under one id. -/
inductive MachineEffect (op : Op) (reply : Reply) (id : String) :
    Option Job → Option Job → Prop where
  | same {before : Option Job} (other : ¬ reply.Claims id) : MachineEffect op reply id before before
  | moves {jobOp : JobOp String} {job job' : Job} (isJob : op = .job jobOp) (own : job.id = id)
      (moves : Transition jobOp reply job job') : MachineEffect op reply id (some job) (some job')
  | creates {request : CreateRequest} (own : request.id = id)
      (valid : 1 ≤ request.maxAttempts ∧ request.now ≠ 0) (other : ¬ reply.Claims id) :
      MachineEffect op reply id none (some request.job)

/-- **The effect of a step of the machine.** -/
theorem machine_effect (sound : r.jobs.Sound) (op : Op) (id : String) :
    MachineEffect op (memoryMachine.answer r op) id (r.job id)
      ((memoryMachine.next r op).job id) := by
  have step := machine_storeStep r op
  simp only [MemoryManualRetryRepository.job]
  generalize memoryMachine.answer r op = reply, (memoryMachine.next r op).jobs = jobs' at step ⊢
  cases step with
  | @job op =>
      have effect := step_effect sound.keyed op id
      generalize r.jobs.jobs.lookup id = before,
        (r.jobs.step op).1.jobs.lookup id = after at effect ⊢
      cases effect with
      | same other => exact .same other
      | moves own moves => exact .moves rfl own moves
      | creates own _ checked other => exact .creates own (checkCreate_valid checked) other
  | refused other => exact .same (other id)
  | @retried _ request lineage source found timed fresh _ =>
      have other : ¬ (Reply.retried (request.createRequest source).job lineage true).Claims id :=
        not_claims_of_ne (by simp) id
      rw [MemoryRepository.insertNew, Table.lookup_insert_ite]
      split
      · next here =>
          subst here
          rw [AList.lookup_eq_none.mpr fresh]
          exact .creates rfl ⟨(sound.wellFormed _ source found).positive, timed⟩ other
      · exact .same other

theorem MemoryRepository.Sound.next (sound : r.jobs.Sound) (op : Op) :
    (memoryMachine.next r op).jobs.Sound := by
  have step := machine_storeStep r op
  generalize memoryMachine.answer r op = reply, (memoryMachine.next r op).jobs = jobs' at step ⊢
  cases step with
  | job => exact sound.step _
  | refused _ => exact sound
  | @retried _ _ _ source found _ fresh freshKey =>
      exact sound.insertNew (sound.wellFormed _ source found).positive fresh freshKey

/-- An operation that answers with an error changes nothing. -/
theorem machine_error (keyed : r.jobs.Keyed) {op : Op}
    (failed : (memoryMachine.answer r op).isError = true) : memoryMachine.next r op = r := by
  cases op with
  | job op =>
      have same := step_error keyed op failed
      show { r with jobs := (r.jobs.step op).1 } = r
      rw [same]
  | createManualRetry ctx request =>
      have step := createManualRetry_step r ctx request
      simp only [Machine.answer, Machine.next, memoryMachine,
        MemoryManualRetryRepository.step] at failed ⊢
      generalize (r.createManualRetry ctx request).1 = r',
        (r.createManualRetry ctx request).2 = reply
        at step failed ⊢
      cases step with
      | refused | replayed _ _ _ => rfl
      | recorded _ _ _ _ => simp [Reply.ofRetry, Reply.isError] at failed

/-- Every run leaves the repository sound. -/
theorem exec_sound (ops : List Op) : (memoryMachine.exec .new ops).jobs.Sound := by
  have keeps : ∀ (r : MemoryManualRetryRepository) (op : Op), r.jobs.Sound →
      (memoryMachine.next r op).jobs.Sound := fun r op sound => sound.next op
  exact Machine.exec_keeps keeps .new ops

/-- The id an idempotency key points to. -/
def MemoryRepository.pointsTo (r : MemoryRepository) (key : String) : Option String :=
  (r.idempotency.lookup key).map fun record => record.jobID

theorem MemoryRepository.Sound.pointsTo_own {r : MemoryRepository} (sound : r.Sound) {id : String}
    (found : r.jobs.lookup id = some job) : r.pointsTo job.idempotencyKey = some id := by
  obtain ⟨record, keyed, own⟩ := sound.indexed id job found
  simp [MemoryRepository.pointsTo, keyed, own]

/-- The index is a bijection from the idempotency keys to the stored jobs. -/
theorem MemoryRepository.Sound.pointsTo_bijOn {r : MemoryRepository} (sound : r.Sound) :
    Set.BijOn r.pointsTo {key | key ∈ r.idempotency} (some '' {id | id ∈ r.jobs}) := by
  have pointed : ∀ key ∈ r.idempotency, ∃ id job, r.pointsTo key = some id ∧
      r.jobs.lookup id = some job ∧ job.idempotencyKey = key := by
    intro key member
    obtain ⟨record, keyed⟩ := Table.exists_lookup_of_mem member
    obtain ⟨job, found, own⟩ := sound.stored key record keyed
    exact ⟨record.jobID, job, by simp [MemoryRepository.pointsTo, keyed], found, own⟩
  refine ⟨?_, ?_, ?_⟩
  · intro key member
    obtain ⟨id, job, points, found, _⟩ := pointed key member
    exact ⟨id, Table.mem_of_lookup found, points.symm⟩
  · intro key member key' member' same
    obtain ⟨id, job, points, found, own⟩ := pointed key member
    obtain ⟨id', job', points', found', own'⟩ := pointed key' member'
    -- both keys are the key of the one job they point to
    rw [points, points', Option.some.injEq] at same
    subst same
    cases found.symm.trans found'
    exact own.symm.trans own'
  · rintro _ ⟨id, member, rfl⟩
    obtain ⟨job, found⟩ := Table.exists_lookup_of_mem member
    obtain ⟨record, keyed, own⟩ := sound.indexed id job found
    exact ⟨job.idempotencyKey, Table.mem_of_lookup keyed, sound.pointsTo_own found⟩

/-- **The invariant of the job store.** After any run every stored job is well formed, the
index is a bijection, and each job is the one its own idempotency key points to. -/
theorem memory_store_invariant (ops : List Op) :
    (∀ id job, (memoryMachine.exec .new ops).job id = some job →
      job.id = id ∧ job.WellFormed ∧
        (memoryMachine.exec .new ops).jobs.pointsTo job.idempotencyKey = some id) ∧
    Set.BijOn (memoryMachine.exec .new ops).jobs.pointsTo
      {key | key ∈ (memoryMachine.exec .new ops).jobs.idempotency}
      (some '' {id | id ∈ (memoryMachine.exec .new ops).jobs.jobs}) := by
  have sound := exec_sound ops
  refine ⟨fun id job found => ?_, sound.pointsTo_bijOn⟩
  exact ⟨sound.keyed id job found, sound.wellFormed id job found, sound.pointsTo_own found⟩

/-! ## Versions and attempts -/

/-- Only unfinished jobs move. -/
theorem Transition.unfinished {op : JobOp String} {reply : Reply} {job' : Job}
    (moves : Transition op reply job job') : job.status.terminal = false := by
  have of_leased : job.status.leased = true → job.status.terminal = false := by
    cases job.status <;> simp [Status.leased, Status.terminal]
  have of_eligible : ∀ now, job.eligible now = true → job.status.terminal = false := by
    intro now
    unfold Job.eligible
    cases job.status <;> simp [Status.terminal]
  cases moves with
  | cancelExpired _ status _ _ => rw [status]; rfl
  | failExhausted _ eligible _ _ => exact of_eligible _ eligible
  | startAttempt _ eligible _ => exact of_eligible _ eligible
  | renew _ holds | complete _ holds => exact of_leased holds.1
  | failAttempt _ holds => exact of_leased holds.1
  | cancel _ unfinished | cancelIfVersion _ unfinished => exact unfinished

instance (reply : Reply) (id : String) : Decidable (reply.Claims id) :=
  match reply with
  | .claimed job =>
      decidable_of_iff (job.id = id)
        ⟨fun own => ⟨job, rfl, own⟩, fun ⟨_, same, own⟩ => by cases same; exact own⟩
  | .created _ _ | .idle | .updated _ | .retried _ _ _ | .error _ =>
      isFalse fun ⟨_, same, _⟩ => by cases same

/-- The successful claims of one job in a run. -/
def claimCount (id : String) (ops : List Op) : Nat :=
  (memoryMachine.trace .new ops).countP fun e => decide (e.result.Claims id)

theorem claimCount_concat (id : String) (ops : List Op) (op : Op) :
    claimCount id (ops ++ [op]) = claimCount id ops +
      if (memoryMachine.answer (memoryMachine.exec .new ops) op).Claims id then 1 else 0 := by
  rw [claimCount, Machine.trace_concat, List.countP_append]
  simp [claimCount, Machine.event, List.countP_cons]

/-- **The claims of a job are its attempts.** Before its creation a job has neither. -/
theorem claimCount_eq_attempt (id : String) (ops : List Op) :
    (claimCount id ops : Int) = ((memoryMachine.exec .new ops).job id).elim 0 Job.attempt := by
  -- the run grows at its end, where the effect of the last operation is known
  induction ops using List.reverseRecOn with
  | nil => rfl
  | append_singleton ops op ih =>
      have effect := machine_effect (exec_sound ops) op id
      rw [claimCount_concat, Machine.exec_concat]
      generalize memoryMachine.answer (memoryMachine.exec .new ops) op = reply,
        (memoryMachine.exec .new ops).job id = before,
        (memoryMachine.next (memoryMachine.exec .new ops) op).job id = after at effect ih ⊢
      cases effect with
      | same other => simp [other, ih]
      | @moves _ job job' _ own moves =>
          subst own
          rcases moves.starts_or_rewrites with ⟨claims, _, _, _, rfl⟩ | ⟨other, rewrites⟩
          · simp [claims, ih, Job.startAttempt]
          · simp [other, ih, rewrites.attempt]
      | creates _ _ other => simpa [other, CreateRequest.job] using ih

/-- The operations of a run that wrote one job. -/
def writeCount (id : String) (ops : List Op) : Nat :=
  (memoryMachine.trace .new ops).countP fun e => decide (e.after.job id ≠ e.before.job id)

theorem writeCount_concat (id : String) (ops : List Op) (op : Op) :
    writeCount id (ops ++ [op]) = writeCount id ops +
      if (memoryMachine.next (memoryMachine.exec .new ops) op).job id ≠
        (memoryMachine.exec .new ops).job id then 1 else 0 := by
  rw [writeCount, Machine.trace_concat, List.countP_append]
  simp [writeCount, Machine.event, List.countP_cons]

/-- **The version of a job counts its writes**, at 64 bits. -/
theorem version_eq_writeCount (id : String) (ops : List Op) :
    ((memoryMachine.exec .new ops).job id).elim 0 Job.version =
      UInt64.ofNat (writeCount id ops) := by
  induction ops using List.reverseRecOn with
  | nil => rfl
  | append_singleton ops op ih =>
      have effect := machine_effect (exec_sound ops) op id
      rw [writeCount_concat, Machine.exec_concat]
      generalize memoryMachine.answer (memoryMachine.exec .new ops) op = reply,
        (memoryMachine.exec .new ops).job id = before,
        (memoryMachine.next (memoryMachine.exec .new ops) op).job id = after at effect ih ⊢
      cases effect with
      | same _ => simpa using ih
      | @moves _ job job' _ _ moves =>
          have wrote : some job' ≠ some job := by
            intro same
            have := moves.version
            rw [Option.some.inj same] at this
            simp at this
          rw [if_pos wrote, UInt64.ofNat_add, ← ih]
          exact moves.version
      | creates _ _ _ =>
          rw [if_pos (by simp), UInt64.ofNat_add, ← ih]
          rfl

theorem version_toNat {id : String} {ops : List Op}
    (found : (memoryMachine.exec .new ops).job id = some job) (short : writeCount id ops < 2 ^ 64) :
    job.version.toNat = writeCount id ops := by
  have version := version_eq_writeCount id ops
  rw [found, Option.elim_some] at version
  rw [version, UInt64.toNat_ofNat', Nat.mod_eq_of_lt short]

/-- **Terminal absorption and version discipline.** -/
theorem memory_versions_and_attempts (ops : List Op) (op : Op) :
    (∀ id job, (memoryMachine.exec .new ops).job id = some job → job.status.terminal = true →
      (memoryMachine.next (memoryMachine.exec .new ops) op).job id = some job) ∧
    (∀ id job, (memoryMachine.exec .new ops).job id = some job →
      (memoryMachine.next (memoryMachine.exec .new ops) op).job id = some job ∨
      ∃ job', (memoryMachine.next (memoryMachine.exec .new ops) op).job id = some job' ∧
        job'.version = job.version + 1 ∧
        (writeCount id ops + 1 < 2 ^ 64 → job'.version.toNat = job.version.toNat + 1)) ∧
    ((memoryMachine.answer (memoryMachine.exec .new ops) op).isError = true →
      memoryMachine.next (memoryMachine.exec .new ops) op = memoryMachine.exec .new ops) ∧
    (∀ id job, (memoryMachine.exec .new ops).job id = some job →
      (claimCount id ops : Int) = job.attempt ∧ (claimCount id ops : Int) ≤ job.maxAttempts) := by
  have sound := exec_sound ops
  refine ⟨?_, ?_, machine_error sound.keyed, ?_⟩
  · intro id job found finished
    have effect := machine_effect sound op id
    rw [found] at effect
    generalize (memoryMachine.next (memoryMachine.exec .new ops) op).job id = after at effect ⊢
    cases effect with
    | same _ => rfl
    | moves _ _ moves => exact absurd moves.unfinished (by simp [finished])
  · intro id job found
    have effect := machine_effect sound op id
    rw [found] at effect
    generalize (memoryMachine.next (memoryMachine.exec .new ops) op).job id = after at effect ⊢
    cases effect with
    | same _ => exact .inl rfl
    | @moves _ _ job' _ _ moves =>
        refine .inr ⟨job', rfl, moves.version, fun short => ?_⟩
        have := version_toNat found (by omega)
        rw [moves.version, UInt64.toNat_add, UInt64.toNat_one]
        omega
  · intro id job found
    have attempts := claimCount_eq_attempt id ops
    rw [found] at attempts
    exact ⟨attempts, attempts.trans_le (sound.wellFormed id job found).attempt_le⟩

/-! ## Which job a claim takes -/

/-- The job may be started at `now`. -/
def Job.Startable (job : Job) (now : Time) : Prop :=
  job.eligible now = true ∧ job.attempt < job.maxAttempts

/-- The oldest job that may be started at `now`. No worker can renew, complete or fail it. -/
structure OldestStartable (r : MemoryManualRetryRepository) (now : Time) (job : Job) : Prop where
  stored : r.job job.id = some job
  startable : job.Startable now
  oldest : ∀ other, r.job other.id = some other → other.Startable now →
    creationRank job ≤ creationRank other
  free : ∀ token, ¬ job.HoldsLease token now

variable {now : Time} {workerID : String} {ttl : Duration}

/-- The walk passes no job that may be started. -/
theorem NoneTaken.not_startable {ids : List String} {jobs : Table Job} {id : String}
    (notTaken : NoneTaken (claimVerdict workerID now ttl) ids jobs) (member : id ∈ ids)
    (found : jobs.lookup id = some job) : ¬ job.Startable now := by
  rintro ⟨eligible, attempts⟩
  have waits : job.status ≠ .cancelRequested := by
    intro asked
    simp [Job.eligible, asked] at eligible
  have passed := notTaken id member job found
  simp [claimVerdict, waits, eligible, not_le.mpr attempts, ClaimVerdict.takes] at passed

/-- A job that may be started has no lease, or one that has run out. -/
theorem Job.Startable.free (startable : job.Startable now) (token : String) :
    ¬ job.HoldsLease token now := by
  rintro ⟨leased, lease, held, -, live⟩
  have eligible := startable.1
  unfold Job.eligible at eligible
  split at eligible
  case h_3 => exact absurd live (by simpa [Job.leaseExpired, held] using eligible)
  all_goals simp_all [Status.leased]

/-- **A claim takes the oldest job that may be started.** It fails only if its arguments are
refused, and is idle only if no job may be started. -/
theorem claim_takes_oldest (ops : List Op) (ctx : Context) (workerID : String) (now : Time)
    (ttl : Duration) :
    let r := memoryMachine.exec .new ops
    let op : JobOp String := .claim ctx workerID now ttl
    let reply := memoryMachine.answer r (.job op)
    (¬ op.ArgumentsAccepted ∧ reply.isError = true) ∨
    (reply = .idle ∧ ¬ ∃ job, r.job job.id = some job ∧ job.Startable now) ∨
    ∃ job, OldestStartable r now job ∧ reply = .claimed (job.startAttempt workerID now ttl) := by
  intro r op reply
  by_cases accepted : op.ArgumentsAccepted
  · refine .inr ?_
    have listed : ∀ {id job}, r.job id = some job → id ∈ r.jobs.jobs.keysBy creationRank :=
      fun found => (Table.keysBy_perm _ _).mem_iff.mpr (Table.mem_of_lookup found)
    have ends : WalkEnds (claimVerdict workerID now ttl) (r.jobs.jobs.keysBy creationRank)
        r.jobs.jobs (r.jobs.walk workerID now ttl) :=
      claimLoop_ends _ _ (Table.keysBy_nodup _ _) _
    simp only [reply, Machine.answer, memoryMachine, MemoryManualRetryRepository.step,
      step_accepted r.jobs accepted, op, MemoryRepository.serve]
    generalize r.jobs.walk workerID now ttl = result at ends
    cases ends with
    | passedAll notTaken _ =>
        refine .inl ⟨rfl, ?_⟩
        rintro ⟨job, found, startable⟩
        exact notTaken.not_startable (listed found) found startable
    | @took _ earlier later id job taken split found take notTaken _ =>
        obtain ⟨eligible, attempts, rfl⟩ := claimVerdict_take take
        have startable : job.Startable now := ⟨eligible, attempts⟩
        cases (exec_sound ops).keyed id job found
        refine .inr ⟨job, ⟨found, startable, ?_, startable.free⟩, rfl⟩
        intro other found' startable'
        have sorted := Table.keysBy_sorted creationRank r.jobs.jobs
        have place := listed found'
        rw [split] at sorted place
        rcases List.mem_append.mp place with before | here
        · exact absurd startable' (notTaken.not_startable before found')
        · rcases List.mem_cons.mp here with same | after
          · rw [same] at found'
            cases found.symm.trans found'
            exact le_rfl
          · exact List.rel_of_pairwise_cons (List.pairwise_append.mp sorted).2.1 after job found
              other found'
  · obtain ⟨e, refused⟩ := step_refused r.jobs accepted
    exact .inl ⟨accepted, congrArg (fun step => step.2.isError) refused⟩

end ControlCenter.Orchestration
