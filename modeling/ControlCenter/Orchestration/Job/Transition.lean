import ControlCenter.Orchestration.Job.Operations

/-!
# What one operation does to one job

Every result about whole runs rests on one description of a step. Under each id an
operation leaves the job alone, replaces it by one of eight transitions of that job, or
creates it (`step_effect`). The transitions carry the guards under which the repository
takes them, so a proof about runs never opens an operation again.

The walk of `Claim` is described first (`claimLoop_ends`): the jobs before the one it
takes are passed, the jobs after it are untouched.
-/

set_option autoImplicit false

namespace ControlCenter.Orchestration

open Library

/-! ## The walk of a claim -/

/-- The job after the walk has passed it. -/
def ClaimVerdict.passed (job : Job) : ClaimVerdict → Job
  | .skip => job
  | .retire retired => retired
  | .take _ => job

/-- The walk takes the job. -/
def ClaimVerdict.takes : ClaimVerdict → Bool
  | .take _ => true
  | .skip | .retire _ => false

/-- What is left of the jobs when the walk has passed the given ids. -/
def passedOver (verdict : Job → ClaimVerdict) (ids : List String) (jobs : Table Job)
    (id : String) : Option Job :=
  if id ∈ ids then (jobs.lookup id).map fun job => (verdict job).passed job
  else jobs.lookup id

/-- No job under the ids is taken. -/
def NoneTaken (verdict : Job → ClaimVerdict) (ids : List String) (jobs : Table Job) : Prop :=
  ∀ id ∈ ids, ∀ job, jobs.lookup id = some job → (verdict job).takes = false

/-- How a walk over the ids ends: past all of them, or at the first job it takes. -/
inductive WalkEnds (verdict : Job → ClaimVerdict) (ids : List String) (jobs : Table Job) :
    Table Job × Option Job → Prop where
  | passedAll {jobs' : Table Job} (notTaken : NoneTaken verdict ids jobs)
      (left : ∀ id, jobs'.lookup id = passedOver verdict ids jobs id) :
      WalkEnds verdict ids jobs (jobs', none)
  | took {jobs' : Table Job} {earlier later : List String} {id : String} {job taken : Job}
      (split : ids = earlier ++ id :: later) (found : jobs.lookup id = some job)
      (take : verdict job = .take taken) (notTaken : NoneTaken verdict earlier jobs)
      (left : ∀ id', jobs'.lookup id' =
        if id' = id then some taken else passedOver verdict earlier jobs id') :
      WalkEnds verdict ids jobs (jobs', some taken)

/-- A walk that passes its first job and goes on over what is left. -/
theorem WalkEnds.cons {verdict : Job → ClaimVerdict} {id : String} {ids : List String}
    (fresh : id ∉ ids) {jobs jobs' : Table Job} (notTaken : NoneTaken verdict [id] jobs)
    (left : ∀ id', jobs'.lookup id' = passedOver verdict [id] jobs id')
    {result : Table Job × Option Job} (ends : WalkEnds verdict ids jobs' result) :
    WalkEnds verdict (id :: ids) jobs result := by
  have others : ∀ id' ∈ ids, jobs'.lookup id' = jobs.lookup id' := by
    intro id' member
    have : id' ≠ id := fun same => fresh (same ▸ member)
    rw [left, passedOver, if_neg (by simpa using this)]
  have combined : ∀ earlier ⊆ ids, ∀ id',
      passedOver verdict earlier jobs' id' = passedOver verdict (id :: earlier) jobs id' := by
    intro earlier sub id'
    unfold passedOver
    by_cases here : id' ∈ earlier
    · rw [if_pos here, if_pos (List.mem_cons_of_mem _ here), others id' (sub here)]
    · rw [if_neg here, left, passedOver]
      simp [here]
  have noneTaken : ∀ earlier ⊆ ids, NoneTaken verdict earlier jobs' →
      NoneTaken verdict (id :: earlier) jobs := by
    intro earlier sub none id' member job found
    rcases List.mem_cons.mp member with rfl | member
    · exact notTaken id' (by simp) job found
    · exact none id' member job (by rw [others id' (sub member), found])
  cases ends with
  | passedAll none left' =>
      exact .passedAll (noneTaken ids (fun _ h => h) none)
        fun id' => by rw [left', combined ids fun _ h => h]
  | @took _ earlier later id' job taken split found take none left' =>
      have sub : earlier ⊆ ids := by
        intro id'' member
        rw [split]
        exact List.mem_append_left _ member
      have splitCons : id :: ids = (id :: earlier) ++ id' :: later := by rw [split]; rfl
      refine .took splitCons ?_ take
        (noneTaken earlier sub none) fun id'' => by rw [left', combined earlier sub]
      rw [← others id' (by rw [split]; simp), found]

/-- **The walk of a claim.** It passes over jobs it does not take, up to the first one it
takes, if there is one. -/
theorem claimLoop_ends (verdict : Job → ClaimVerdict) (ids : List String) (nodup : ids.Nodup)
    (jobs : Table Job) : WalkEnds verdict ids jobs (claimLoop verdict ids jobs) := by
  induction ids generalizing jobs with
  | nil => exact .passedAll (by simp [NoneTaken]) (by simp [passedOver])
  | cons id ids ih =>
      obtain ⟨fresh, nodup⟩ := List.nodup_cons.mp nodup
      rw [claimLoop]
      cases found : jobs.lookup id with
      | none =>
          refine .cons fresh (by simp [NoneTaken, found]) (fun id' => ?_) (ih nodup jobs)
          by_cases same : id' = id
          · subst same
            simp [passedOver, found]
          · simp [passedOver, same]
      | some job =>
          cases v : verdict job with
          | skip =>
              simp only [v]
              refine .cons fresh (by simp [NoneTaken, found, v, ClaimVerdict.takes])
                (fun id' => ?_) (ih nodup jobs)
              by_cases same : id' = id
              · subst same
                simp [passedOver, found, v, ClaimVerdict.passed]
              · simp [passedOver, same]
          | retire retired =>
              simp only [v]
              refine .cons fresh (by simp [NoneTaken, found, v, ClaimVerdict.takes])
                (fun id' => ?_) (ih nodup (jobs.insert id retired))
              rw [Table.lookup_insert_ite]
              by_cases same : id' = id
              · subst same
                simp [passedOver, found, v, ClaimVerdict.passed]
              · simp [passedOver, same]
          | take taken =>
              simp only [v]
              have here : id :: ids = [] ++ id :: ids := rfl
              refine .took here found v (by simp [NoneTaken]) fun id' => ?_
              rw [Table.lookup_insert_ite]
              simp [passedOver]

/-! ## The transitions of a job -/

variable {job : Job} {now : Time} {reply : Reply}

theorem Job.leaseExpired_iff :
    job.leaseExpired now = true ↔ ∃ lease, job.lease = some lease ∧ lease.expiresAt ≤ now := by
  cases held : job.lease <;> simp [Job.leaseExpired, held]

/-- The token is the current lease of the job, and the lease has not run out. -/
def Job.HoldsLease (job : Job) (token : String) (now : Time) : Prop :=
  job.status.leased = true ∧ ∃ lease, job.lease = some lease ∧ lease.token = token ∧
    now < lease.expiresAt

/-- The reply is a claim of the job with this id. -/
def Reply.Claims (reply : Reply) (id : String) : Prop := ∃ job, reply = .claimed job ∧ job.id = id

theorem not_claims_of_ne (other : ∀ job, reply ≠ .claimed job) (id : String) :
    ¬ reply.Claims id := fun ⟨job, same, _⟩ => other job same

/-- The transitions an operation can make one job take, with the guards under which it
does. -/
inductive Transition : JobOp String → Reply → Job → Job → Prop where
  | cancelExpired {ctx : Context} {workerID : String} {now : Time} {ttl : Duration}
      {reply : Reply} {job : Job}
      (accepted : (JobOp.claim ctx workerID now ttl : JobOp String).ArgumentsAccepted)
      (status : job.status = .cancelRequested) (expired : job.leaseExpired now = true)
      (other : ¬ reply.Claims job.id) :
      Transition (.claim ctx workerID now ttl) reply job (job.cancelExpired now)
  | failExhausted {ctx : Context} {workerID : String} {now : Time} {ttl : Duration}
      {reply : Reply} {job : Job}
      (accepted : (JobOp.claim ctx workerID now ttl : JobOp String).ArgumentsAccepted)
      (eligible : job.eligible now = true) (exhausted : job.maxAttempts ≤ job.attempt)
      (other : ¬ reply.Claims job.id) :
      Transition (.claim ctx workerID now ttl) reply job (job.failExhausted now)
  | startAttempt {ctx : Context} {workerID : String} {now : Time} {ttl : Duration} {job : Job}
      (accepted : (JobOp.claim ctx workerID now ttl : JobOp String).ArgumentsAccepted)
      (eligible : job.eligible now = true) (attempts : job.attempt < job.maxAttempts) :
      Transition (.claim ctx workerID now ttl) (.claimed (job.startAttempt workerID now ttl)) job
        (job.startAttempt workerID now ttl)
  | renew {ctx : Context} {token : String} {now : Time} {ttl : Duration} {job : Job}
      (accepted : (JobOp.renewLease ctx job.id token now ttl).ArgumentsAccepted)
      (holds : job.HoldsLease token now) :
      Transition (.renewLease ctx job.id token now ttl) (.updated (job.renew now ttl)) job
        (job.renew now ttl)
  | complete {ctx : Context} {token : String} {output : Output} {now : Time} {job : Job}
      (accepted : (JobOp.succeed ctx job.id token output now).ArgumentsAccepted)
      (holds : job.HoldsLease token now) :
      Transition (.succeed ctx job.id token output now) (.updated (job.complete output now)) job
        (job.complete output now)
  | failAttempt {ctx : Context} {token message : String} {output : Output} {policy : RetryPolicy}
      {now : Time} {job : Job}
      (accepted : (JobOp.fail ctx job.id token message output policy now).ArgumentsAccepted)
      (holds : job.HoldsLease token now) :
      Transition (.fail ctx job.id token message output policy now)
        (.updated (job.failAttempt message output policy now)) job
        (job.failAttempt message output policy now)
  | cancel {ctx : Context} {now : Time} {job : Job}
      (accepted : (JobOp.requestCancel ctx job.id now : JobOp String).ArgumentsAccepted)
      (unfinished : job.status.terminal = false) :
      Transition (.requestCancel ctx job.id now) (.updated (job.cancel now)) job (job.cancel now)
  | cancelIfVersion {ctx : Context} {now : Time} {job : Job}
      (accepted :
        (JobOp.requestCancelIfVersion ctx job.id job.version now : JobOp String).ArgumentsAccepted)
      (unfinished : job.status.terminal = false) :
      Transition (.requestCancelIfVersion ctx job.id job.version now) (.updated (job.cancel now))
        job (job.cancel now)

/-! ## What a transition leaves alone -/

/-- The fields a transition never writes. -/
structure Job.SameOrigin (job job' : Job) : Prop where
  id : job'.id = job.id
  changeID : job'.changeID = job.changeID
  actionName : job'.actionName = job.actionName
  input : job'.input = job.input
  idempotencyKey : job'.idempotencyKey = job.idempotencyKey
  maxAttempts : job'.maxAttempts = job.maxAttempts
  createdAt : job'.createdAt = job.createdAt

/-- A write that is not an attempt. It raises the version by one. -/
structure Job.Rewrites (job job' : Job) : Prop extends job.SameOrigin job' where
  attempt : job'.attempt = job.attempt
  version : job'.version = job.version + 1

theorem Job.complete_rewrites (job : Job) (output : Output) (now : Time) :
    job.Rewrites (job.complete output now) := by
  unfold Job.complete
  split <;> exact ⟨by constructor <;> rfl, rfl, rfl⟩

theorem Job.failAttempt_rewrites (job : Job) (message : String) (output : Output)
    (policy : RetryPolicy) (now : Time) :
    job.Rewrites (job.failAttempt message output policy now) := by
  unfold Job.failAttempt
  simp only
  split
  · exact ⟨by constructor <;> rfl, rfl, rfl⟩
  · split <;> exact ⟨by constructor <;> rfl, rfl, rfl⟩

theorem Job.cancel_rewrites (job : Job) (now : Time) : job.Rewrites (job.cancel now) := by
  unfold Job.cancel
  split <;> exact ⟨by constructor <;> rfl, rfl, rfl⟩

variable {op : JobOp String}

/-- A transition starts an attempt, and the reply says so, or rewrites the job. -/
theorem Transition.starts_or_rewrites {job' : Job} (moves : Transition op reply job job') :
    (reply.Claims job.id ∧ ∃ workerID now ttl, job' = job.startAttempt workerID now ttl) ∨
      (¬ reply.Claims job.id ∧ job.Rewrites job') := by
  have updated : ∀ job' : Job, ¬ (Reply.updated job').Claims job.id :=
    fun job' => not_claims_of_ne (by simp) job.id
  cases moves with
  | cancelExpired _ _ _ other | failExhausted _ _ _ other =>
      exact .inr ⟨other, by constructor <;> rfl, rfl, rfl⟩
  | startAttempt _ _ _ => exact .inl ⟨⟨_, rfl, rfl⟩, _, _, _, rfl⟩
  | renew _ _ => exact .inr ⟨updated _, by constructor <;> rfl, rfl, rfl⟩
  | complete _ _ => exact .inr ⟨updated _, job.complete_rewrites _ _⟩
  | failAttempt _ _ => exact .inr ⟨updated _, job.failAttempt_rewrites _ _ _ _⟩
  | cancel _ _ | cancelIfVersion _ _ => exact .inr ⟨updated _, job.cancel_rewrites _⟩

theorem Transition.sameOrigin {job' : Job} (moves : Transition op reply job job') :
    job.SameOrigin job' := by
  rcases moves.starts_or_rewrites with ⟨_, _, _, _, rfl⟩ | ⟨_, rewrites⟩
  · constructor <;> rfl
  · exact rewrites.toSameOrigin

/-- Every transition raises the version by one. -/
theorem Transition.version {job' : Job} (moves : Transition op reply job job') :
    job'.version = job.version + 1 := by
  rcases moves.starts_or_rewrites with ⟨_, _, _, _, rfl⟩ | ⟨_, rewrites⟩
  · rfl
  · exact rewrites.version

/-! ## The shape of a step -/

variable {r : MemoryRepository}

theorem leased_eq_ok {id token : String} :
    r.leased id token now = .ok job ↔ r.jobs.lookup id = some job ∧ job.HoldsLease token now := by
  unfold MemoryRepository.leased
  constructor
  · intro held
    split at held
    · cases held
    · next found =>
        split at held
        · cases held
        · next leased =>
            split at held
            · cases held
            · next lease current =>
                split at held
                · cases held
                · next kept =>
                    cases held
                    rw [not_or, not_not, not_le] at kept
                    exact ⟨found, by simpa using leased, lease, current, kept⟩
  · rintro ⟨found, leased, lease, current, token, live⟩
    have kept : ¬ (lease.token ≠ _ ∨ lease.expiresAt ≤ now) :=
      not_or.mpr ⟨not_not.mpr token, not_le.mpr live⟩
    simp [found, leased, current, kept]

/-- The repository stores every job under its id. -/
def MemoryRepository.Keyed (r : MemoryRepository) : Prop :=
  ∀ id job, r.jobs.lookup id = some job → job.id = id

/-- A job created under a fresh id and a fresh idempotency key. -/
def MemoryRepository.insertNew (r : MemoryRepository) (request : CreateRequest) :
    MemoryRepository where
  jobs := r.jobs.insert request.id request.job
  idempotency := r.idempotency.insert request.idempotencyKey ⟨request.id, fingerprint request⟩

/-- What an operation can do to the repository, and the reply that goes with it. -/
inductive Shape (r : MemoryRepository) : JobOp String → Reply → MemoryRepository → Prop where
  | refused {op : JobOp String} {e : JobError} : Shape r op (.error e) r
  | replayed {op : JobOp String} {job : Job} (found : r.jobs.lookup job.id = some job) :
      Shape r op (.created job false) r
  | finished {op : JobOp String} {job : Job} (found : r.jobs.lookup job.id = some job)
      (finished : job.status.terminal = true) : Shape r op (.updated job) r
  | walked {ctx : Context} {workerID : String} {now : Time} {ttl : Duration}
      (accepted : (JobOp.claim ctx workerID now ttl : JobOp String).ArgumentsAccepted)
      {jobs' : Table Job} {taken : Option Job}
      (ends : WalkEnds (claimVerdict workerID now ttl) (r.jobs.keysBy creationRank) r.jobs
        (jobs', taken)) :
      Shape r (.claim ctx workerID now ttl) (.ofClaim (.ok taken)) { r with jobs := jobs' }
  | wrote {op : JobOp String} {job job' : Job} (found : r.jobs.lookup job.id = some job)
      (moves : Transition op (.updated job') job job') :
      Shape r op (.updated job') (r.put job.id job')
  | created {ctx : Context} {request : CreateRequest}
      (accepted : (JobOp.create ctx request : JobOp String).ArgumentsAccepted)
      (fresh : request.id ∉ r.jobs)
      (freshKey : request.idempotencyKey ∉ r.idempotency) :
      Shape r (.create ctx request) (.created request.job true) (r.insertNew request)

theorem updateLeased_shape (keyed : r.Keyed) {id token : String} {update : Job → Job}
    (moves : ∀ job, job.id = id → job.HoldsLease token now →
      Transition op (.updated (update job)) job (update job)) :
    Shape r op (.ofUpdate (r.updateLeased id token now update).2)
      (r.updateLeased id token now update).1 := by
  unfold MemoryRepository.updateLeased
  cases held : r.leased id token now with
  | error e => exact .refused
  | ok job =>
      obtain ⟨found, holds⟩ := leased_eq_ok.mp held
      have own := keyed id job found
      subst own
      exact .wrote found (moves job rfl holds)

theorem cancelFound_shape (found : r.jobs.lookup job.id = some job)
    (moves : job.status.terminal = false → Transition op (.updated (job.cancel now)) job
      (job.cancel now)) :
    Shape r op (.ofUpdate (r.cancelFound job.id job now).2) (r.cancelFound job.id job now).1 := by
  unfold MemoryRepository.cancelFound
  cases finished : job.status.terminal with
  | true => exact .finished found finished
  | false => exact .wrote found (moves finished)

/-- What an operation does once its arguments have passed their checks. -/
def MemoryRepository.serve (r : MemoryRepository) : JobOp String → MemoryRepository × Reply
  | .create _ request =>
      let result := r.createChecked request
      (result.1, .ofCreate result.2)
  | .claim _ workerID now ttl =>
      let result := r.walk workerID now ttl
      ({ r with jobs := result.1 }, .ofClaim (.ok result.2))
  | .renewLease _ id token now ttl =>
      let result := r.updateLeased id token now fun found => found.renew now ttl
      (result.1, .ofUpdate result.2)
  | .succeed _ id token output now =>
      let result := r.updateLeased id token now fun found => found.complete output now
      (result.1, .ofUpdate result.2)
  | .fail _ id token message output policy now =>
      let result := r.updateLeased id token now fun found =>
        found.failAttempt message output policy now
      (result.1, .ofUpdate result.2)
  | .requestCancel _ id now =>
      match r.jobs.lookup id with
      | none => (r, .error .notFound)
      | some found =>
          let result := r.cancelFound id found now
          (result.1, .ofUpdate result.2)
  | .requestCancelIfVersion _ id expectedVersion now =>
      match r.jobs.lookup id with
      | none => (r, .error .notFound)
      | some found =>
          if found.version ≠ expectedVersion then (r, .error .versionConflict)
          else
            let result := r.cancelFound id found now
            (result.1, .ofUpdate result.2)

/-- An operation serves what passes its checks. -/
theorem step_accepted (r : MemoryRepository) (accepted : op.ArgumentsAccepted) :
    r.step op = r.serve op := by
  cases op with
  | create ctx request =>
      obtain ⟨live, checked⟩ := accepted
      simp [MemoryRepository.step, MemoryRepository.create, MemoryRepository.serve, live, checked]
  | claim ctx workerID now ttl =>
      obtain ⟨live, worker, time, positive⟩ := accepted
      simp [MemoryRepository.step, MemoryRepository.claim, MemoryRepository.serve, live, worker,
        time, Int64.not_le.mpr positive]
  | renewLease ctx id token now ttl =>
      obtain ⟨live, time, positive⟩ := accepted
      simp [MemoryRepository.step, MemoryRepository.renewLease, MemoryRepository.serve, live, time,
        Int64.not_le.mpr positive]
  | succeed ctx id token output now =>
      obtain ⟨live, time⟩ := accepted
      simp [MemoryRepository.step, MemoryRepository.succeed, MemoryRepository.serve, live, time]
  | fail ctx id token message output policy now =>
      obtain ⟨live, text, time⟩ := accepted
      simp [MemoryRepository.step, MemoryRepository.fail, MemoryRepository.serve, live, text, time]
  | requestCancel ctx id now =>
      obtain ⟨live, time⟩ := accepted
      simp only [MemoryRepository.step, MemoryRepository.requestCancel, MemoryRepository.serve,
        live,
        Time.isZero_iff, time, if_false]
      cases r.jobs.lookup id <;> rfl
  | requestCancelIfVersion ctx id expectedVersion now =>
      obtain ⟨live, positive, time⟩ := accepted
      simp only [MemoryRepository.step, MemoryRepository.requestCancelIfVersion,
        MemoryRepository.serve, live, Time.isZero_iff, time, positive, if_false]
      cases r.jobs.lookup id with
      | none => rfl
      | some found => simp only; split <;> rfl

/-- An operation refuses what does not pass its checks. -/
theorem step_refused (r : MemoryRepository) (refused : ¬ op.ArgumentsAccepted) :
    ∃ e, r.step op = (r, .error e) := by
  cases op with
  | create ctx request =>
      simp only [MemoryRepository.step, MemoryRepository.create]
      split
      · exact ⟨_, rfl⟩
      · next live =>
          split
          · exact ⟨_, rfl⟩
          · next checked => exact absurd ⟨live, checked⟩ refused
  | claim ctx workerID now ttl =>
      simp only [MemoryRepository.step, MemoryRepository.claim]
      split
      · exact ⟨_, rfl⟩
      · next live =>
          split
          · exact ⟨_, rfl⟩
          · next valid =>
              simp only [not_or, Time.isZero_iff, Int64.not_le] at valid
              exact absurd ⟨live, valid⟩ refused
  | renewLease ctx id token now ttl =>
      simp only [MemoryRepository.step, MemoryRepository.renewLease]
      split
      · exact ⟨_, rfl⟩
      · next live =>
          split
          · exact ⟨_, rfl⟩
          · next valid =>
              simp only [not_or, Time.isZero_iff, Int64.not_le] at valid
              exact absurd ⟨live, valid⟩ refused
  | succeed ctx id token output now =>
      simp only [MemoryRepository.step, MemoryRepository.succeed]
      split
      · exact ⟨_, rfl⟩
      · next live =>
          split
          · exact ⟨_, rfl⟩
          · next valid => exact absurd ⟨live, mt (Time.isZero_iff now).mpr valid⟩ refused
  | fail ctx id token message output policy now =>
      simp only [MemoryRepository.step, MemoryRepository.fail]
      split
      · exact ⟨_, rfl⟩
      · next live =>
          split
          · exact ⟨_, rfl⟩
          · next text =>
              split
              · exact ⟨_, rfl⟩
              · next valid => exact absurd ⟨live, text, mt (Time.isZero_iff now).mpr valid⟩ refused
  | requestCancel ctx id now =>
      simp only [MemoryRepository.step, MemoryRepository.requestCancel]
      split
      · exact ⟨_, rfl⟩
      · next live =>
          split
          · exact ⟨_, rfl⟩
          · next valid => exact absurd ⟨live, mt (Time.isZero_iff now).mpr valid⟩ refused
  | requestCancelIfVersion ctx id expectedVersion now =>
      simp only [MemoryRepository.step, MemoryRepository.requestCancelIfVersion]
      split
      · exact ⟨_, rfl⟩
      · next live =>
          split
          · exact ⟨_, rfl⟩
          · next positive =>
              split
              · exact ⟨_, rfl⟩
              · next valid =>
                  exact absurd ⟨live, positive, mt (Time.isZero_iff now).mpr valid⟩ refused

theorem serve_shape (keyed : r.Keyed) (accepted : op.ArgumentsAccepted) :
    Shape r op (r.serve op).2 (r.serve op).1 := by
  cases op with
  | create ctx request =>
      simp only [MemoryRepository.serve, MemoryRepository.createChecked]
      split
      · split
        · exact .refused
        · next job found =>
            have own := keyed _ job found
            split
            · exact .refused
            · exact .replayed (own ▸ found)
      · next freshKey =>
          split
          · exact .refused
          · next fresh => exact .created accepted fresh (AList.lookup_eq_none.mp freshKey)
  | claim ctx workerID now ttl =>
      exact .walked accepted (claimLoop_ends _ _ (Table.keysBy_nodup _ _) _)
  | renewLease ctx id token now ttl =>
      refine updateLeased_shape keyed ?_
      rintro job rfl holds
      exact .renew accepted holds
  | succeed ctx id token output now =>
      refine updateLeased_shape keyed ?_
      rintro job rfl holds
      exact .complete accepted holds
  | fail ctx id token message output policy now =>
      refine updateLeased_shape keyed ?_
      rintro job rfl holds
      exact .failAttempt accepted holds
  | requestCancel ctx id now =>
      simp only [MemoryRepository.serve]
      split
      · exact .refused
      · next job found =>
          have own := keyed id job found
          subst own
          exact cancelFound_shape found (.cancel accepted)
  | requestCancelIfVersion ctx id expectedVersion now =>
      simp only [MemoryRepository.serve]
      split
      · exact .refused
      · next job found =>
          split
          · exact .refused
          · next version =>
              have own := keyed id job found
              subst own
              rw [not_not] at version
              subst version
              exact cancelFound_shape found (.cancelIfVersion accepted)

/-- **The shape of a step.** An operation leaves the repository alone, walks over it,
writes one job back, or creates one. -/
theorem step_shape (keyed : r.Keyed) (op : JobOp String) :
    Shape r op (r.step op).2 (r.step op).1 := by
  by_cases accepted : op.ArgumentsAccepted
  · rw [step_accepted r accepted]
    exact serve_shape keyed accepted
  · obtain ⟨e, refused⟩ := step_refused r accepted
    rw [refused]
    exact .refused

/-! ## The effect of a step under one id -/

/-- What an operation does to the job under one id. -/
inductive Effect (op : JobOp String) (reply : Reply) (id : String) :
    Option Job → Option Job → Prop where
  | same {before : Option Job} (other : ¬ reply.Claims id) : Effect op reply id before before
  | moves {job job' : Job} (own : job.id = id) (moves : Transition op reply job job') :
      Effect op reply id (some job) (some job')
  | creates {ctx : Context} {request : CreateRequest} (own : request.id = id)
      (isCreate : op = .create ctx request)
      (checked : MemoryRepository.checkCreate request = .ok ()) (other : ¬ reply.Claims id) :
      Effect op reply id none (some request.job)

variable {workerID : String} {ttl : Duration} {ctx : Context}

theorem claimVerdict_take {taken : Job} (take : claimVerdict workerID now ttl job = .take taken) :
    job.eligible now = true ∧ job.attempt < job.maxAttempts ∧
      taken = job.startAttempt workerID now ttl := by
  unfold claimVerdict at take
  split at take
  · cases take
  · split at take
    · cases take
    · next eligible =>
        split at take
        · cases take
        · next attempts =>
            cases take
            exact ⟨by simpa using eligible, lt_of_not_ge attempts, rfl⟩

theorem claimVerdict_passed
    (accepted : (JobOp.claim ctx workerID now ttl : JobOp String).ArgumentsAccepted)
    (other : ¬ reply.Claims job.id) :
    Effect (.claim ctx workerID now ttl) reply job.id (some job)
      (some ((claimVerdict workerID now ttl job).passed job)) := by
  unfold claimVerdict
  split
  · next lapsed => exact .moves rfl (.cancelExpired accepted lapsed.1 lapsed.2 other)
  · split
    · exact .same other
    · next eligible =>
        split
        · next exhausted =>
            exact .moves rfl (.failExhausted accepted (by simpa using eligible) exhausted other)
        · exact .same other

theorem passedOver_effect (keyed : r.Keyed)
    (accepted : (JobOp.claim ctx workerID now ttl : JobOp String).ArgumentsAccepted)
    (ids : List String) {id : String} (other : ¬ reply.Claims id) :
    Effect (.claim ctx workerID now ttl) reply id (r.jobs.lookup id)
      (passedOver (claimVerdict workerID now ttl) ids r.jobs id) := by
  unfold passedOver
  split
  · cases found : r.jobs.lookup id with
    | none => exact .same other
    | some job =>
        have own := keyed id job found
        subst own
        exact claimVerdict_passed accepted other
  · exact .same other

@[simp] theorem startAttempt_id (job : Job) (workerID : String) (now : Time) (ttl : Duration) :
    (job.startAttempt workerID now ttl).id = job.id := rfl

theorem walk_effect (keyed : r.Keyed)
    (accepted : (JobOp.claim ctx workerID now ttl : JobOp String).ArgumentsAccepted)
    {jobs' : Table Job} {taken : Option Job}
    (ends : WalkEnds (claimVerdict workerID now ttl) (r.jobs.keysBy creationRank) r.jobs
      (jobs', taken)) (id : String) :
    Effect (.claim ctx workerID now ttl) (.ofClaim (.ok taken)) id (r.jobs.lookup id)
      (jobs'.lookup id) := by
  cases ends with
  | passedAll _ left =>
      rw [left]
      exact passedOver_effect keyed accepted _ (not_claims_of_ne (by simp [Reply.ofClaim]) id)
  | @took _ earlier later idTaken job taken split found take _ left =>
      obtain ⟨eligible, attempts, rfl⟩ := claimVerdict_take take
      have own := keyed idTaken job found
      rw [left]
      by_cases here : id = idTaken
      · subst here
        rw [if_pos rfl, found]
        exact .moves own (.startAttempt accepted eligible attempts)
      · rw [if_neg here]
        refine passedOver_effect keyed accepted earlier ?_
        rintro ⟨claimed, same, sameID⟩
        cases same
        exact here (sameID.symm.trans own)

/-- **The effect of a step.** Under each id an operation leaves the job alone, makes it
take one transition, or creates it. -/
theorem step_effect (keyed : r.Keyed) (op : JobOp String) (id : String) :
    Effect op (r.step op).2 id (r.jobs.lookup id) ((r.step op).1.jobs.lookup id) := by
  have shape := step_shape keyed op
  generalize r.step op = result at shape ⊢
  obtain ⟨r', reply⟩ := result
  cases shape with
  | refused | replayed _ | finished _ _ => exact .same (not_claims_of_ne (by simp) id)
  | walked accepted ends => exact walk_effect keyed accepted ends id
  | @wrote _ job job' found moves =>
      dsimp only [MemoryRepository.put]
      rw [Table.lookup_insert_ite]
      split
      · next here =>
          subst here
          rw [found]
          exact .moves rfl moves
      · exact .same (not_claims_of_ne (by simp) id)
  | @created _ request accepted fresh _ =>
      have other : ¬ (Reply.created request.job true).Claims id := not_claims_of_ne (by simp) id
      dsimp only [MemoryRepository.insertNew]
      rw [Table.lookup_insert_ite]
      split
      · next here =>
          subst here
          rw [AList.lookup_eq_none.mpr fresh]
          exact .creates rfl rfl accepted.2 other
      · exact .same other

/-- An operation that answers with an error leaves the repository as it was. -/
theorem step_error (keyed : r.Keyed) (op : JobOp String) (failed : (r.step op).2.isError = true) :
    (r.step op).1 = r := by
  have shape := step_shape keyed op
  generalize r.step op = result at shape failed ⊢
  obtain ⟨r', reply⟩ := result
  cases shape with
  | refused | replayed _ | finished _ _ => rfl
  | @walked _ _ _ _ _ _ taken _ => cases taken <;> cases failed
  | wrote _ _ => cases failed
  | created _ _ _ => cases failed

/-- The job in the reply of an update is the stored one. -/
theorem step_stores (keyed : r.Keyed) (op : JobOp String)
    (answered : (r.step op).2 = .updated job) : (r.step op).1.jobs.lookup job.id = some job := by
  have shape := step_shape keyed op
  generalize r.step op = result at shape answered ⊢
  obtain ⟨r', reply⟩ := result
  cases shape with
  | refused | replayed _ | created _ _ _ => cases answered
  | @walked _ _ _ _ _ _ taken _ => cases taken <;> cases answered
  | finished found _ =>
      cases answered
      exact found
  | wrote found moves =>
      cases answered
      dsimp only [MemoryRepository.put]
      rw [Table.lookup_insert_ite, if_pos moves.sameOrigin.id]

end ControlCenter.Orchestration
