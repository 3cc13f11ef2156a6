import ControlCenter.Orchestration.Job.Invariant

/-!
# The timeline of a job

`TimelineEntryFromTransition` and `ValidateTimelineEntry` of `timeline_transition.go` and
`timeline.go` turn two states of a job into the entry that tells an operator what happened
between them. Renewals of a lease make no entry.

The transitions of the repository were described on their own (`Transition`), and the
projection takes all of them but one: a worker may renew its lease after a cancellation was
requested, and the projection refuses that (`timeline_projection_iff`).
-/

set_option autoImplicit false

namespace ControlCenter.Orchestration

open Library

/-! ## Entries -/

def Status.text : Status → String
  | .queued => "queued"
  | .running => "running"
  | .retryWait => "retry_wait"
  | .cancelRequested => "cancel_requested"
  | .cancelled => "cancelled"
  | .succeeded => "succeeded"
  | .failed => "failed"

inductive TimelineEvent where
  | observed
  | created
  | attemptStarted
  | retryScheduled
  | cancelRequested
  | cancelled
  | succeeded
  | failed
  deriving DecidableEq

def TimelineEvent.text : TimelineEvent → String
  | .observed => "observed"
  | .created => "created"
  | .attemptStarted => "attempt_started"
  | .retryScheduled => "retry_scheduled"
  | .cancelRequested => "cancel_requested"
  | .cancelled => "cancelled"
  | .succeeded => "succeeded"
  | .failed => "failed"

structure TimelineEntry where
  jobID : String
  event : TimelineEvent
  status : Status
  attempt : Int
  jobVersion : UInt64
  occurredAt : Time
  deriving DecidableEq

/-- An error that wraps `ErrInvalidTimelineEntry`. -/
def invalidTimelineEntry {α : Type} (text : String) : Except String α :=
  .error ("invalid job timeline entry: " ++ text)

/-- The id is not blank, and has no space around it. -/
def canonicalJobID (id : String) : Bool := trimSpace id != "" && id == trimSpace id

def timelineEventMatchesStatus : TimelineEvent → Status → Bool
  | .observed, _ => true
  | .created, status => status == .queued
  | .attemptStarted, status => status == .running
  | .retryScheduled, status => status == .retryWait
  | .cancelRequested, status => status == .cancelRequested
  | .cancelled, status => status == .cancelled
  | .succeeded, status => status == .succeeded
  | .failed, status => status == .failed

/-- Every status is a valid one here, because the type has no others. -/
def validateTimelineEntry (entry : TimelineEntry) : Except String Unit :=
  if canonicalJobID entry.jobID = false then
    invalidTimelineEntry "canonical job id is required"
  else if entry.jobVersion = 0 ∨ Time.isZero entry.occurredAt = true ∨ entry.attempt < 0 then
    invalidTimelineEntry "job version, timestamp and non-negative attempt are required"
  else if timelineEventMatchesStatus entry.event entry.status = false then
    invalidTimelineEntry ("event " ++ quoted entry.event.text ++ " is incompatible with status " ++
      quoted entry.status.text)
  else if (entry.event = .created ∨ entry.event = .observed) ∧ entry.attempt ≠ 0 ∧
      entry.status = .queued then
    invalidTimelineEntry "queued creation evidence cannot have an attempt"
  else .ok ()

def timelineEntry (source : Job) (event : TimelineEvent) : TimelineEntry where
  jobID := source.id
  event := event
  status := source.status
  attempt := source.attempt
  jobVersion := source.version
  occurredAt := source.updatedAt

/-! ## The projection -/

/-- The event of a transition. `none` is a change that makes no entry. The last case of the
switch, a status that did not change, is reached by queued jobs alone. -/
def transitionEvent (before after : Job) : Except String (Option TimelineEvent) :=
  match after.status with
  | .running =>
      if after.attempt ≠ before.attempt + 1 then
        if before.status = .running ∧ after.attempt = before.attempt then .ok none
        else invalidTimelineEntry "running transition must start exactly one attempt"
      else
        match before.status with
        | .queued | .retryWait | .running => .ok (some .attemptStarted)
        | .cancelRequested | .cancelled | .succeeded | .failed =>
            invalidTimelineEntry ("cannot start attempt from " ++ quoted before.status.text)
  | .retryWait =>
      if before.status ≠ .running ∨ after.attempt ≠ before.attempt then
        invalidTimelineEntry "retry scheduling requires a running attempt"
      else .ok (some .retryScheduled)
  | .cancelRequested =>
      if before.status ≠ .running ∨ after.attempt ≠ before.attempt then
        invalidTimelineEntry "cancel request requires a running attempt"
      else .ok (some .cancelRequested)
  | .cancelled =>
      match before.status with
      | .queued | .retryWait | .running | .cancelRequested => .ok (some .cancelled)
      | .cancelled | .succeeded | .failed =>
          invalidTimelineEntry ("cannot cancel from " ++ quoted before.status.text)
  | .succeeded =>
      if before.status ≠ .running ∨ after.attempt ≠ before.attempt then
        invalidTimelineEntry "success requires the current running attempt"
      else .ok (some .succeeded)
  | .failed =>
      match before.status with
      | .queued | .retryWait | .running => .ok (some .failed)
      | .cancelRequested | .cancelled | .succeeded | .failed =>
          invalidTimelineEntry ("cannot fail from " ++ quoted before.status.text)
  | .queued =>
      if before.status = .queued then
        if after.attempt ≠ before.attempt then
          invalidTimelineEntry "state-neutral transition changed attempt"
        else .ok none
      else
        invalidTimelineEntry ("unsupported transition " ++ quoted before.status.text ++ " -> " ++
          quoted after.status.text)

/-- The entry of an event, once it is validated. -/
def validEntry (after : Job) (event : TimelineEvent) : Except String (Option TimelineEntry) :=
  match validateTimelineEntry (timelineEntry after event) with
  | .error e => .error e
  | .ok () => .ok (some (timelineEntry after event))

/-- The entry between two states of a job, `none` for a change that makes none. -/
def timelineEntryFromTransition (before : Option Job) (after : Job) :
    Except String (Option TimelineEntry) :=
  if canonicalJobID after.id = false then invalidTimelineEntry "canonical job id is required"
  else if after.version = 0 ∨ Time.isZero after.updatedAt = true ∨ after.attempt < 0 ∨
      after.maxAttempts < 1 ∨ after.maxAttempts < after.attempt then
    invalidTimelineEntry "incomplete Job state"
  else
    match before with
    | none =>
        if after.status ≠ .queued ∨ after.attempt ≠ 0 ∨ after.version ≠ 1 then
          invalidTimelineEntry "first lifecycle evidence must be queued version 1"
        else validEntry after .created
    | some before =>
        if before.id ≠ after.id ∨ after.version ≤ before.version ∨
            Time.isZero before.updatedAt = true ∨ after.updatedAt < before.updatedAt then
          invalidTimelineEntry "transition identity, version or timestamp is inconsistent"
        else if after.attempt < before.attempt ∨ before.attempt + 1 < after.attempt then
          invalidTimelineEntry "attempt progression is inconsistent"
        else
          match transitionEvent before after with
          | .error e => .error e
          | .ok none => .ok none
          | .ok (some event) => validEntry after event

/-! ## The time of an operation -/

/-- When the operation is executed. -/
def JobOp.time {Token : Type} : JobOp Token → Time
  | .create _ request => request.now
  | .claim _ _ now _ | .renewLease _ _ _ now _ | .succeed _ _ _ _ now | .fail _ _ _ _ _ _ now
  | .requestCancel _ _ now | .requestCancelIfVersion _ _ _ now => now

def Op.time : Op → Time
  | .job op => op.time
  | .createManualRetry _ request => request.requestedAt

/-- The operation renews a lease. -/
def JobOp.renews {Token : Type} : JobOp Token → Bool
  | .renewLease .. => true
  | .create .. | .claim .. | .succeed .. | .fail .. | .requestCancel ..
  | .requestCancelIfVersion .. => false

def Op.renews : Op → Bool
  | .job op => op.renews
  | .createManualRetry .. => false

/-- A transition sets the time of its operation. -/
theorem Transition.updatedAt {op : JobOp String} {reply : Reply} {job job' : Job}
    (moves : Transition op reply job job') : job'.updatedAt = op.time ∧ op.time ≠ 0 := by
  have cancelled : ∀ now, (job.cancel now).updatedAt = now := by
    intro now
    unfold Job.cancel
    split <;> rfl
  cases moves with
  | cancelExpired accepted | failExhausted accepted | startAttempt accepted =>
      exact ⟨rfl, accepted.2.2.1⟩
  | renew accepted => exact ⟨rfl, accepted.2.1⟩
  | complete accepted =>
      refine ⟨?_, accepted.2⟩
      unfold Job.complete
      split <;> rfl
  | failAttempt accepted =>
      refine ⟨?_, accepted.2.2⟩
      unfold Job.failAttempt
      dsimp only
      split
      · rfl
      · split <;> rfl
  | cancel accepted => exact ⟨cancelled _, accepted.2⟩
  | cancelIfVersion accepted => exact ⟨cancelled _, accepted.2.2⟩

/-- A job that a step creates carries the time of the step. -/
theorem machine_created {r : MemoryManualRetryRepository} (sound : r.jobs.Sound) {op : Op}
    {id : String} {job : Job} (fresh : r.job id = none)
    (created : (memoryMachine.next r op).job id = some job) :
    ∃ request : CreateRequest, job = request.job ∧ request.now = op.time ∧ request.now ≠ 0 := by
  have step := machine_storeStep r op
  simp only [MemoryManualRetryRepository.job] at fresh created
  generalize memoryMachine.answer r op = reply, (memoryMachine.next r op).jobs = jobs'
    at step created
  cases step with
  | @job op =>
      have effect := step_effect sound.keyed op id
      rw [fresh, created] at effect
      cases effect with
      | creates _ isCreate checked _ =>
          subst isCreate
          exact ⟨_, rfl, rfl, (checkCreate_valid checked).2⟩
  | refused _ =>
      rw [fresh] at created
      cases created
  | @retried _ request _ source _ timed _ _ =>
      rw [MemoryRepository.insertNew, Table.lookup_insert_ite] at created
      split at created
      · cases created
        exact ⟨_, rfl, rfl, timed⟩
      · rw [fresh] at created
        cases created

/-- Every stored job has been written at some time. -/
theorem exec_timed (ops : List Op) (id : String) (job : Job)
    (found : (memoryMachine.exec .new ops).job id = some job) : job.updatedAt ≠ 0 := by
  induction ops using List.reverseRecOn generalizing job with
  | nil => cases found
  | append_singleton ops op ih =>
      have effect := machine_effect (exec_sound ops) op id
      rw [Machine.exec_concat] at found
      rw [found] at effect
      generalize before : (memoryMachine.exec .new ops).job id = earlier at effect
      cases effect with
      | same _ => exact ih job before
      | moves _ _ moves =>
          rw [moves.updatedAt.1]
          exact moves.updatedAt.2
      | creates _ valid _ => exact valid.2

/-! ## Every transition has its event -/

/-- The status and the attempt are as before. -/
def Job.Unchanged (job job' : Job) : Prop :=
  job'.status = job.status ∧ job'.attempt = job.attempt

/-- The event is made by a transition to the status. -/
def TimelineEvent.Marks (event : TimelineEvent) (status : Status) : Prop :=
  timelineEventMatchesStatus event status = true ∧ event ≠ .observed ∧ event ≠ .created

/-- **What the projection makes of a transition**: no entry for the renewal of a running job,
an error for the renewal of a job that is being cancelled, and an event for everything
else. -/
theorem Transition.event {op : JobOp String} {reply : Reply} {job job' : Job}
    (moves : Transition op reply job job') :
    (transitionEvent job job' = .ok none ∧ job.Unchanged job' ∧ job.status ≠ .cancelRequested) ∨
    (∃ event, transitionEvent job job' = .ok (some event) ∧ event.Marks job'.status ∧
      ¬ job.Unchanged job' ∧ op.renews = false) ∨
    ((∃ e, transitionEvent job job' = .error e) ∧ job.status = .cancelRequested ∧
      op.renews = true) := by
  have cancelled : ∀ now, job.status.terminal = false →
      ∃ event, transitionEvent job (job.cancel now) = .ok (some event) ∧
        event.Marks (job.cancel now).status ∧ ¬ job.Unchanged (job.cancel now) := by
    intro now unfinished
    unfold Job.cancel
    cases status : job.status <;>
      simp_all [transitionEvent, TimelineEvent.Marks, timelineEventMatchesStatus, Job.Unchanged,
        Status.terminal]
  cases moves with
  | cancelExpired _ status _ _ =>
      refine .inr (.inl ⟨.cancelled, ?_, ?_, ?_, rfl⟩) <;>
        simp [transitionEvent, Job.cancelExpired, TimelineEvent.Marks, timelineEventMatchesStatus,
          Job.Unchanged, status]
  | failExhausted _ eligible exhausted _ =>
      refine .inr (.inl ⟨.failed, ?_, ?_, ?_, rfl⟩)
      · unfold Job.eligible at eligible
        cases status : job.status <;> simp_all [transitionEvent, Job.failExhausted]
      · simp [Job.failExhausted, TimelineEvent.Marks, timelineEventMatchesStatus]
      · unfold Job.eligible at eligible
        cases status : job.status <;> simp_all [Job.failExhausted, Job.Unchanged]
  | startAttempt _ eligible _ =>
      refine .inr (.inl ⟨.attemptStarted, ?_, ?_, ?_, rfl⟩)
      · unfold Job.eligible at eligible
        cases status : job.status <;> simp_all [transitionEvent, Job.startAttempt]
      · simp [Job.startAttempt, TimelineEvent.Marks, timelineEventMatchesStatus]
      · rintro ⟨-, same⟩
        have more : job.attempt + 1 = job.attempt := same
        omega
  | @renew _ _ now ttl _ _ holds =>
      rcases Status.leased_iff.mp holds.1 with running | requested
      · refine .inl ⟨?_, ⟨rfl, rfl⟩, by simp [running]⟩
        have same : job.attempt ≠ job.attempt + 1 := by omega
        simp [transitionEvent, Job.renew, running, same]
      · have refused : transitionEvent job (job.renew now ttl) =
            invalidTimelineEntry "cancel request requires a running attempt" := by
          simp [transitionEvent, Job.renew, requested]
        exact .inr (.inr ⟨⟨_, refused⟩, requested, rfl⟩)
  | complete _ holds =>
      rcases Status.leased_iff.mp holds.1 with running | requested
      · refine .inr (.inl ⟨.succeeded, ?_, ?_, ?_, rfl⟩) <;>
          simp [transitionEvent, Job.complete, TimelineEvent.Marks, timelineEventMatchesStatus,
            Job.Unchanged, running]
      · refine .inr (.inl ⟨.cancelled, ?_, ?_, ?_, rfl⟩) <;>
          simp [transitionEvent, Job.complete, TimelineEvent.Marks, timelineEventMatchesStatus,
            Job.Unchanged, requested]
  | failAttempt _ holds =>
      rcases Status.leased_iff.mp holds.1 with running | requested
      · by_cases left : job.attempt < job.maxAttempts
        · refine .inr (.inl ⟨.retryScheduled, ?_, ?_, ?_, rfl⟩) <;>
            simp [transitionEvent, Job.failAttempt, TimelineEvent.Marks, timelineEventMatchesStatus,
              Job.Unchanged, running, left]
        · refine .inr (.inl ⟨.failed, ?_, ?_, ?_, rfl⟩) <;>
            simp [transitionEvent, Job.failAttempt, TimelineEvent.Marks, timelineEventMatchesStatus,
              Job.Unchanged, running, left]
      · refine .inr (.inl ⟨.cancelled, ?_, ?_, ?_, rfl⟩) <;>
          simp [transitionEvent, Job.failAttempt, TimelineEvent.Marks, timelineEventMatchesStatus,
            Job.Unchanged, requested]
  | cancel _ unfinished | cancelIfVersion _ unfinished =>
      obtain ⟨event, isEvent, marks, changed⟩ := cancelled _ unfinished
      exact .inr (.inl ⟨event, isEvent, marks, changed, rfl⟩)

/-! ## The projection of a step -/

/-- The projection makes no entry exactly when nothing changed, and otherwise a valid one
whose event marks the new status. -/
def Projects (before : Option Job) (after : Job) : Prop :=
  ∃ result, timelineEntryFromTransition before after = .ok result ∧
    (result = none ↔ ∃ job, before = some job ∧ job.Unchanged after) ∧
    ∀ entry, result = some entry → validateTimelineEntry entry = .ok () ∧
      entry.status = after.status ∧ timelineEventMatchesStatus entry.event after.status = true ∧
      entry.event ≠ .observed

/-- The job carries what an entry needs. -/
structure Job.Complete (job : Job) : Prop where
  id : canonicalJobID job.id = true
  version : job.version ≠ 0
  updatedAt : job.updatedAt ≠ 0
  attempt : 0 ≤ job.attempt ∧ job.attempt ≤ job.maxAttempts
  maxAttempts : 1 ≤ job.maxAttempts

namespace Job.Complete

variable {job : Job}

theorem validEntry (complete : job.Complete) (event : TimelineEvent)
    (marks : timelineEventMatchesStatus event job.status = true)
    (fresh : event = .created ∨ event = .observed → job.attempt = 0) :
    validateTimelineEntry (timelineEntry job event) = .ok () := by
  have set : Time.isZero job.updatedAt = false := by
    rw [← Bool.not_eq_true, Time.isZero_iff]
    exact complete.updatedAt
  have counted : ¬ job.attempt < 0 := not_lt.mpr complete.attempt.1
  have consistent : ¬ ((event = .created ∨ event = .observed) ∧ job.attempt ≠ 0 ∧
      job.status = .queued) := fun both => both.2.1 (fresh both.1)
  simp [validateTimelineEntry, timelineEntry, complete.id, complete.version, set, counted, marks,
    consistent]

/-- Complete states pass the first checks. -/
theorem projection (complete : job.Complete) (before : Option Job) :
    timelineEntryFromTransition before job =
      match before with
      | none =>
          if job.status ≠ .queued ∨ job.attempt ≠ 0 ∨ job.version ≠ 1 then
            invalidTimelineEntry "first lifecycle evidence must be queued version 1"
          else Orchestration.validEntry job .created
      | some before =>
          if before.id ≠ job.id ∨ job.version ≤ before.version ∨
              Time.isZero before.updatedAt = true ∨ job.updatedAt < before.updatedAt then
            invalidTimelineEntry "transition identity, version or timestamp is inconsistent"
          else if job.attempt < before.attempt ∨ before.attempt + 1 < job.attempt then
            invalidTimelineEntry "attempt progression is inconsistent"
          else
            match transitionEvent before job with
            | .error e => .error e
            | .ok none => .ok none
            | .ok (some event) => Orchestration.validEntry job event := by
  have set : Time.isZero job.updatedAt = false := by
    rw [← Bool.not_eq_true, Time.isZero_iff]
    exact complete.updatedAt
  have whole : ¬ (job.version = 0 ∨ Time.isZero job.updatedAt = true ∨ job.attempt < 0 ∨
      job.maxAttempts < 1 ∨ job.maxAttempts < job.attempt) := by
    have := complete.attempt
    have := complete.maxAttempts
    simp only [complete.version, set, Bool.false_eq_true, false_or]
    omega
  unfold timelineEntryFromTransition
  rw [if_neg (by simp [complete.id]), if_neg whole]

end Job.Complete

/-- A version that does not wrap grows. -/
theorem version_grows {version : UInt64} (kept : version + 1 ≠ 0) : version < version + 1 := by
  have size := version.toNat_lt
  have next : (version + 1).toNat = (version.toNat + 1) % 2 ^ 64 := by
    rw [UInt64.toNat_add]
    rfl
  have nonzero : (version + 1).toNat ≠ 0 := fun zero => kept (UInt64.toNat_inj.mp zero)
  rw [UInt64.lt_iff_toNat_lt]
  omega

/-- A job is projected when it is created. -/
theorem projects_created {request : CreateRequest} (canonical : canonicalJobID request.id = true)
    (positive : 1 ≤ request.maxAttempts) (timed : request.now ≠ 0) :
    Projects none request.job := by
  have nonzero : request.job.version ≠ 0 := by simp [CreateRequest.job]
  have complete : request.job.Complete :=
    ⟨canonical, nonzero, timed, ⟨le_rfl, by simp [CreateRequest.job]; omega⟩, positive⟩
  have valid := complete.validEntry .created rfl fun _ => rfl
  refine ⟨some (timelineEntry request.job .created), ?_, by simp, ?_⟩
  · have first : ¬ (request.job.status ≠ .queued ∨ request.job.attempt ≠ 0 ∨
        request.job.version ≠ 1) := by simp [CreateRequest.job]
    rw [complete.projection, validEntry, valid, if_neg first]
  · rintro entry ⟨⟩
    exact ⟨valid, rfl, rfl, by simp [timelineEntry]⟩

/-- A transition is projected unless its version wraps or it renews a lease of a job that is
being cancelled. -/
theorem projects_transition {op : JobOp String} {reply : Reply} {job job' : Job}
    (moves : Transition op reply job job') (canonical : canonicalJobID job.id = true)
    (wellFormed : job.WellFormed) (timed : job.updatedAt ≠ 0) (later : job.updatedAt ≤ op.time) :
    Projects (some job) job' ↔
      job.version + 1 ≠ 0 ∧ ¬ (job.status = .cancelRequested ∧ op.renews = true) := by
  obtain ⟨set, nonzero⟩ := moves.updatedAt
  have origin := moves.sameOrigin
  have version := moves.version
  by_cases wraps : job.version + 1 = 0
  · refine iff_of_false ?_ fun kept => kept.1 wraps
    rintro ⟨result, projected, -⟩
    unfold timelineEntryFromTransition at projected
    rw [if_neg (by simp [origin.id, canonical]), if_pos (.inl (version.trans wraps))] at projected
    cases projected
  have after := moves.wellFormed wellFormed
  have complete : job'.Complete := by
    refine ⟨origin.id ▸ canonical, version ▸ wraps, ?_, ⟨after.attempt_nonneg, after.attempt_le⟩,
      after.positive⟩
    rw [set]
    exact nonzero
  have consistent : ¬ (job.id ≠ job'.id ∨ job'.version ≤ job.version ∨
      Time.isZero job.updatedAt = true ∨ job'.updatedAt < job.updatedAt) := by
    have isSet : Time.isZero job.updatedAt = false := by
      rw [← Bool.not_eq_true, Time.isZero_iff]
      exact timed
    have grows : ¬ job'.version ≤ job.version := by
      rw [version]
      exact UInt64.not_le.mpr (version_grows wraps)
    simp [origin.id, grows, isSet, set, later]
  have progress : ¬ (job'.attempt < job.attempt ∨ job.attempt + 1 < job'.attempt) := by
    rcases moves.starts_or_rewrites with ⟨-, _, _, _, rfl⟩ | ⟨-, rewrites⟩
    · simp only [Job.startAttempt]
      omega
    · rw [rewrites.attempt]
      omega
  have projection := complete.projection (some job)
  dsimp only at projection
  rw [if_neg consistent, if_neg progress] at projection
  rcases moves.event with ⟨neutral, same, status⟩ | ⟨event, isEvent, marks, changed, renews⟩ |
    ⟨⟨e, refused⟩, status, renews⟩
  · rw [neutral] at projection
    refine iff_of_true ⟨none, projection, ?_, ?_⟩ ⟨wraps, fun both => status both.1⟩
    · exact iff_of_true rfl ⟨job, rfl, same⟩
    · rintro entry ⟨⟩
  · have valid := complete.validEntry event marks.1 fun either =>
      absurd either (not_or.mpr ⟨marks.2.2, marks.2.1⟩)
    rw [isEvent] at projection
    dsimp only at projection
    rw [validEntry, valid] at projection
    refine iff_of_true ⟨_, projection, ?_, ?_⟩ ⟨wraps, fun both => ?_⟩
    · refine iff_of_false (by simp) ?_
      rintro ⟨_, ⟨⟩, same⟩
      exact changed same
    · rintro entry ⟨⟩
      exact ⟨valid, rfl, marks.1, marks.2.1⟩
    · rw [renews] at both
      cases both.2
  · rw [refused] at projection
    refine iff_of_false ?_ fun kept => kept.2 ⟨status, renews⟩
    rintro ⟨result, projected, -⟩
    cases projection.symm.trans projected

/-- **The projection covers every step of the repository but one.** In any run, of any
operation that changes the version of a job, at a time not before its last write, the
projection makes no entry exactly when nothing but the lease changed, and otherwise a valid
entry whose event marks the new status. The exceptions are the renewal of a lease whose job
is being cancelled, and a version that wraps. -/
theorem timeline_projection_iff (ops : List Op) (op : Op) (id : String) (after : Job) :
    let before := memoryMachine.exec .new ops
    (memoryMachine.next before op).job id = some after → canonicalJobID id = true →
    (before.job id).map Job.version ≠ some after.version →
    (∀ job, before.job id = some job → job.updatedAt ≤ op.time) →
    (Projects (before.job id) after ↔ ∀ job, before.job id = some job →
      job.version + 1 ≠ 0 ∧ ¬ (job.status = .cancelRequested ∧ op.renews = true)) := by
  intro before found canonical changed later
  have effect := machine_effect (exec_sound ops) op id
  change MachineEffect op _ id (before.job id) ((memoryMachine.next before op).job id) at effect
  rw [found] at effect
  cases held : before.job id with
  | none =>
      rw [held] at effect
      cases effect with
      | creates own valid _ =>
          refine iff_of_true (projects_created (own ▸ canonical) valid.1 valid.2) ?_
          rintro job ⟨⟩
  | some job =>
      have keyed := (exec_sound ops).keyed id job held
      have wellFormed := (exec_sound ops).wellFormed id job held
      have timed := exec_timed ops id job held
      rw [held] at effect changed
      cases effect with
      | same _ => exact absurd rfl changed
      | moves isJob own moves =>
          subst isJob
          rw [projects_transition moves (keyed ▸ canonical) wellFormed timed (later job held)]
          constructor
          · rintro kept _ ⟨⟩
            exact kept
          · intro kept
            exact kept job rfl

/-! ## A renewal after the request to cancel -/

/-- A job is created, claimed and asked to cancel. -/
def cancellingRun : List Op :=
  [.job (.create .background
      ⟨"job-1", "change-1", "restart", utf8 "\x7b\x7d", "key-1", 3, 10⟩),
    .job (.claim .background "worker" 20 second),
    .job (.requestCancel .background "job-1" 30)]

/-- The token of the one claim. -/
def cancellingToken : String :=
  (((memoryMachine.exec .new cancellingRun).job "job-1").bind Job.lease).elim "" Lease.token

theorem renewal_while_cancelling_is_refused :
    let before := memoryMachine.exec .new cancellingRun
    let after := memoryMachine.next before
      (.job (.renewLease .background "job-1" cancellingToken 40 second))
    (before.job "job-1").map (fun job => (job.status, job.version)) = some (.cancelRequested, 3) ∧
      (after.job "job-1").map (fun job => (job.status, job.version)) = some (.cancelRequested, 4) ∧
      (after.job "job-1").map (timelineEntryFromTransition (before.job "job-1")) =
        some (.error "invalid job timeline entry: cancel request requires a running attempt") := by
  decide +kernel

/-- The claim that starts the first attempt. -/
def sampleClaim : Op := .job (.claim .background "worker" 20 second)

theorem timeline_projection_claimed :
    ∃ after, (memoryMachine.next (memoryMachine.exec .new (cancellingRun.take 1)) sampleClaim).job
        "job-1" = some after ∧
      Projects ((memoryMachine.exec .new (cancellingRun.take 1)).job "job-1") after := by
  have claimed : ((memoryMachine.next (memoryMachine.exec .new (cancellingRun.take 1))
      sampleClaim).job "job-1").map Job.version = some 2 := by decide +kernel
  have created : (memoryMachine.exec .new (cancellingRun.take 1)).job "job-1" =
      some (CreateRequest.job
        ⟨"job-1", "change-1", "restart", utf8 "\x7b\x7d", "key-1", 3, 10⟩) := by decide +kernel
  obtain ⟨after, found, version⟩ := Option.map_eq_some_iff.mp claimed
  refine ⟨after, found, (timeline_projection_iff (cancellingRun.take 1) sampleClaim "job-1" after
    found (by decide +kernel) ?_ ?_).mpr ?_⟩
  · rw [created, version]
    decide
  · rw [created]
    rintro job ⟨⟩
    decide
  · rw [created]
    rintro job ⟨⟩
    decide

end ControlCenter.Orchestration
