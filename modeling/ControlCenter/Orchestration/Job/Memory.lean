import ControlCenter.Library.JsonScan
import ControlCenter.Library.Table
import ControlCenter.Orchestration.Job.Basic

/-!
# The in-memory job repository

`MemoryRepository` of `internal/orchestration/job/memory.go` and its compare-and-swap
cancellation of `cancel_version.go`. Each operation holds the mutex for its whole body,
so a run of concurrent callers is a sequence of operations.

Every operation takes the repository and returns it with the reply, on the error paths
too. `Claim` walks over the jobs in creation order and writes as it goes. What it does
with one job is `claimVerdict`; the walk is `claimLoop`.
-/

set_option autoImplicit false

namespace ControlCenter.Orchestration

open Library

structure IdempotencyRecord where
  jobID : String
  fingerprint : String
  deriving DecidableEq

structure MemoryRepository where
  jobs : Table Job
  idempotency : Table IdempotencyRecord

/-- The fingerprint separates its three fields by zero bytes. -/
def fingerprintPreimage (request : CreateRequest) : Bytes :=
  utf8 request.changeID ++ [0] ++ utf8 request.actionName ++ [0] ++ request.input

def fingerprint (request : CreateRequest) : String := sha256Hex (fingerprintPreimage request)

/-- The text a lease token is the hash of: job, worker, version and time. -/
def leaseTokenText (candidate : Job) (workerID : String) (now : Time) : String :=
  candidate.id ++ ":" ++ workerID ++ ":" ++ decimal candidate.version ++ ":" ++
    signedDecimal (Time.unixNano now)

def leaseToken (candidate : Job) (workerID : String) (now : Time) : String :=
  sha256Hex (utf8 (leaseTokenText candidate workerID now))

/-- The job a creation request stands for. -/
def CreateRequest.job (request : CreateRequest) : Job where
  id := request.id
  changeID := request.changeID
  actionName := request.actionName
  input := request.input
  idempotencyKey := request.idempotencyKey
  status := .queued
  attempt := 0
  maxAttempts := request.maxAttempts
  nextAttemptAt := 0
  lease := none
  output := none
  lastError := ""
  createdAt := request.now
  updatedAt := request.now
  version := 1

/-- Jobs are walked over in the order of creation, and of their ids within one instant. -/
def creationRank (job : Job) : Time ×ₗ String := toLex (job.createdAt, job.id)

/-! ## What a claim does with one job -/

/-- The lease of the job has run out at `now`. -/
def Job.leaseExpired (job : Job) (now : Time) : Bool :=
  job.lease.any fun lease => decide (lease.expiresAt ≤ now)

/-- A cancelled worker did not come back. -/
def Job.cancelExpired (job : Job) (now : Time) : Job :=
  { job with
    status := .cancelled
    lease := none
    updatedAt := now
    version := job.version + 1 }

/-- No attempt is left. -/
def Job.failExhausted (job : Job) (now : Time) : Job :=
  { job with
    status := .failed
    lastError := "maximum attempts exhausted"
    lease := none
    updatedAt := now
    version := job.version + 1 }

/-- The next attempt, under a lease of its own. -/
def Job.startAttempt (job : Job) (workerID : String) (now : Time) (ttl : Duration) : Job :=
  let started := { job with
    attempt := job.attempt + 1
    status := .running
    nextAttemptAt := 0
    lastError := ""
    version := job.version + 1
    updatedAt := now }
  { started with
    lease := some
      { token := leaseToken started workerID now
        workerID := workerID
        expiresAt := Time.add now ttl } }

/-- The job may be taken, or failed, by a claim at `now`. -/
def Job.eligible (job : Job) (now : Time) : Bool :=
  match job.status with
  | .queued => true
  | .retryWait => decide (job.nextAttemptAt ≤ now)
  | .running => job.leaseExpired now
  | .cancelRequested | .cancelled | .succeeded | .failed => false

/-- What a claim does with one job: leave it, retire it and walk on, or take it. -/
inductive ClaimVerdict where
  | skip
  | retire (job : Job)
  | take (job : Job)
  deriving DecidableEq

def claimVerdict (workerID : String) (now : Time) (ttl : Duration) (candidate : Job) :
    ClaimVerdict :=
  if candidate.status = .cancelRequested ∧ candidate.leaseExpired now = true then
    .retire (candidate.cancelExpired now)
  else if candidate.eligible now = false then .skip
  else if candidate.maxAttempts ≤ candidate.attempt then
    .retire (candidate.failExhausted now)
  else .take (candidate.startAttempt workerID now ttl)

/-- The walk over the jobs. It ends at the first job it takes. -/
def claimLoop (verdict : Job → ClaimVerdict) : List String → Table Job → Table Job × Option Job
  | [], jobs => (jobs, none)
  | id :: ids, jobs =>
      match jobs.lookup id with
      | none => claimLoop verdict ids jobs
      | some candidate =>
          match verdict candidate with
          | .skip => claimLoop verdict ids jobs
          | .retire job => claimLoop verdict ids (jobs.insert id job)
          | .take job => (jobs.insert id job, some job)

/-! ## Completion and cancellation of one job -/

def Job.renew (job : Job) (now : Time) (ttl : Duration) : Job :=
  { job with
    lease := job.lease.map fun lease => { lease with expiresAt := Time.add now ttl }
    updatedAt := now
    version := job.version + 1 }

def Job.complete (job : Job) (output : Output) (now : Time) : Job :=
  if job.status = .cancelRequested then
    { job with
      status := .cancelled
      lease := none
      updatedAt := now
      version := job.version + 1 }
  else
    { job with
      status := .succeeded
      output := some output
      lease := none
      updatedAt := now
      version := job.version + 1 }

def Job.failAttempt (job : Job) (message : String) (output : Output) (policy : RetryPolicy)
    (now : Time) : Job :=
  let recorded := { job with
    lastError := message
    output := some output
    lease := none
    updatedAt := now
    version := job.version + 1 }
  if job.status = .cancelRequested then { recorded with status := .cancelled }
  else if job.attempt < job.maxAttempts then
    { recorded with
      status := .retryWait
      nextAttemptAt := Time.add now (retryDelay job.attempt policy) }
  else { recorded with status := .failed, nextAttemptAt := 0 }

/-- Cancellation tells only a running job from the others. -/
def Job.cancel (job : Job) (now : Time) : Job :=
  if job.status = .running then
    { job with
      status := .cancelRequested
      updatedAt := now
      version := job.version + 1 }
  else
    { job with
      status := .cancelled
      lease := none
      updatedAt := now
      version := job.version + 1 }

/-! ## The operations -/

namespace MemoryRepository

def new : MemoryRepository := ⟨∅, ∅⟩

/-- Write one job back. -/
def put (r : MemoryRepository) (id : String) (job : Job) : MemoryRepository :=
  { r with jobs := r.jobs.insert id job }

/-- The checks of `Create` on its request alone. -/
def checkCreate (request : CreateRequest) : Except JobError Unit :=
  if request.id = "" ∨ request.changeID = "" ∨ request.actionName = "" ∨
      request.idempotencyKey = "" then
    .error (.message "job id, change id, action, and idempotency key are required")
  else if request.input = [] ∨ Json.valid request.input = false then
    .error (.message "job input must be valid JSON")
  else if request.maxAttempts < 1 ∨ Time.isZero request.now = true then
    .error (.message "max attempts and creation time are required")
  else .ok ()

/-- `Create` of a request that passed its checks. -/
def createChecked (r : MemoryRepository) (request : CreateRequest) :
    MemoryRepository × Except JobError (Job × Bool) :=
  match r.idempotency.lookup request.idempotencyKey with
  | some record =>
      match r.jobs.lookup record.jobID with
      | none => (r, .error .idempotencyConflict)
      | some existing =>
          if record.fingerprint ≠ fingerprint request ∨
              existing.maxAttempts ≠ request.maxAttempts then
            (r, .error .idempotencyConflict)
          else (r, .ok (existing, false))
  | none =>
      if request.id ∈ r.jobs then
        (r, .error (.message ("job id already exists: " ++ request.id)))
      else
        ({ jobs := r.jobs.insert request.id request.job
           idempotency := r.idempotency.insert request.idempotencyKey
             ⟨request.id, fingerprint request⟩ },
          .ok (request.job, true))

def create (r : MemoryRepository) (ctx : Context) (request : CreateRequest) :
    MemoryRepository × Except JobError (Job × Bool) :=
  match ctx.err with
  | some cause => (r, .error (.context cause))
  | none =>
      match checkCreate request with
      | .error e => (r, .error e)
      | .ok () => r.createChecked request

/-- The walk of a claim over all jobs. -/
def walk (r : MemoryRepository) (workerID : String) (now : Time) (ttl : Duration) :
    Table Job × Option Job :=
  claimLoop (claimVerdict workerID now ttl) (r.jobs.keysBy creationRank) r.jobs

def claim (r : MemoryRepository) (ctx : Context) (workerID : String) (now : Time)
    (ttl : Duration) : MemoryRepository × Except JobError (Option Job) :=
  match ctx.err with
  | some cause => (r, .error (.context cause))
  | none =>
      if workerID = "" ∨ Time.isZero now = true ∨ ttl ≤ 0 then
        (r, .error (.message "worker id, current time, and positive lease ttl are required"))
      else
        let result := r.walk workerID now ttl
        ({ r with jobs := result.1 }, .ok result.2)

/-- The job, if `token` is its current lease and the lease has not run out. -/
def leased (r : MemoryRepository) (id token : String) (now : Time) : Except JobError Job :=
  match r.jobs.lookup id with
  | none => .error .notFound
  | some found =>
      if found.status.leased = false then .error .leaseLost
      else
        match found.lease with
        | none => .error .leaseLost
        | some lease =>
            if lease.token ≠ token ∨ lease.expiresAt ≤ now then .error .leaseLost
            else .ok found

/-- The body shared by the operations that need the lease: write back the image of the
leased job. -/
def updateLeased (r : MemoryRepository) (id token : String) (now : Time) (update : Job → Job) :
    MemoryRepository × Except JobError Job :=
  match r.leased id token now with
  | .error e => (r, .error e)
  | .ok found => (r.put id (update found), .ok (update found))

def renewLease (r : MemoryRepository) (ctx : Context) (id token : String) (now : Time)
    (ttl : Duration) : MemoryRepository × Except JobError Job :=
  match ctx.err with
  | some cause => (r, .error (.context cause))
  | none =>
      if Time.isZero now = true ∨ ttl ≤ 0 then
        (r, .error (.message "current time and positive lease ttl are required"))
      else r.updateLeased id token now fun found => found.renew now ttl

def succeed (r : MemoryRepository) (ctx : Context) (id token : String) (output : Output)
    (now : Time) : MemoryRepository × Except JobError Job :=
  match ctx.err with
  | some cause => (r, .error (.context cause))
  | none =>
      if Time.isZero now = true then (r, .error (.message "completion time is required"))
      else r.updateLeased id token now fun found => found.complete output now

def fail (r : MemoryRepository) (ctx : Context) (id token message : String) (output : Output)
    (policy : RetryPolicy) (now : Time) : MemoryRepository × Except JobError Job :=
  match ctx.err with
  | some cause => (r, .error (.context cause))
  | none =>
      if message = "" then (r, .error (.message "failure message is required"))
      else if Time.isZero now = true then (r, .error (.message "failure time is required"))
      else r.updateLeased id token now fun found => found.failAttempt message output policy now

/-- The body shared by the two cancellations, after the checks that differ. -/
def cancelFound (r : MemoryRepository) (id : String) (found : Job) (now : Time) :
    MemoryRepository × Except JobError Job :=
  if found.status.terminal = true then (r, .ok found)
  else (r.put id (found.cancel now), .ok (found.cancel now))

def requestCancel (r : MemoryRepository) (ctx : Context) (id : String) (now : Time) :
    MemoryRepository × Except JobError Job :=
  match ctx.err with
  | some cause => (r, .error (.context cause))
  | none =>
      if Time.isZero now = true then (r, .error (.message "cancellation time is required"))
      else
        match r.jobs.lookup id with
        | none => (r, .error .notFound)
        | some found => r.cancelFound id found now

def requestCancelIfVersion (r : MemoryRepository) (ctx : Context) (id : String)
    (expectedVersion : UInt64) (now : Time) : MemoryRepository × Except JobError Job :=
  match ctx.err with
  | some cause => (r, .error (.context cause))
  | none =>
      if expectedVersion = 0 then (r, .error (.message "expected job version is required"))
      else if Time.isZero now = true then (r, .error (.message "cancellation time is required"))
      else
        match r.jobs.lookup id with
        | none => (r, .error .notFound)
        | some found =>
            if found.version ≠ expectedVersion then (r, .error .versionConflict)
            else r.cancelFound id found now

end MemoryRepository

end ControlCenter.Orchestration
