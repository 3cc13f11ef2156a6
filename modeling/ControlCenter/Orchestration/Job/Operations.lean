import ControlCenter.Library.Machine
import ControlCenter.Orchestration.Job.ManualRetry

/-!
# The repository as a machine

The eight operations of the repository as one machine, from the empty repository. An
operation carries its arguments; a reply is what the caller gets back. The type of the
tokens that workers present is a parameter, because two repositories that run side by
side issue different tokens for the same claim.
-/

set_option autoImplicit false

namespace ControlCenter.Orchestration

open Library

/-- The operations of `job.Repository` and `job.VersionedCancellationRepository` that
write. -/
inductive JobOp (Token : Type) where
  | create (ctx : Context) (request : CreateRequest)
  | claim (ctx : Context) (workerID : String) (now : Time) (ttl : Duration)
  | renewLease (ctx : Context) (id : String) (token : Token) (now : Time) (ttl : Duration)
  | succeed (ctx : Context) (id : String) (token : Token) (output : Output) (now : Time)
  | fail (ctx : Context) (id : String) (token : Token) (message : String) (output : Output)
      (policy : RetryPolicy) (now : Time)
  | requestCancel (ctx : Context) (id : String) (now : Time)
  | requestCancelIfVersion (ctx : Context) (id : String) (expectedVersion : UInt64) (now : Time)

/-- The operation passes the checks that come before the jobs are looked at. -/
def JobOp.ArgumentsAccepted {Token : Type} : JobOp Token → Prop
  | .create ctx request => ctx.err = none ∧ MemoryRepository.checkCreate request = .ok ()
  | .claim ctx workerID now ttl => ctx.err = none ∧ workerID ≠ "" ∧ now ≠ 0 ∧ 0 < ttl
  | .renewLease ctx _ _ now ttl => ctx.err = none ∧ now ≠ 0 ∧ 0 < ttl
  | .succeed ctx _ _ _ now => ctx.err = none ∧ now ≠ 0
  | .fail ctx _ _ message _ _ now => ctx.err = none ∧ message ≠ "" ∧ now ≠ 0
  | .requestCancel ctx _ now => ctx.err = none ∧ now ≠ 0
  | .requestCancelIfVersion ctx _ expectedVersion now =>
      ctx.err = none ∧ expectedVersion ≠ 0 ∧ now ≠ 0

/-- The operation creates a job. -/
def JobOp.creates {Token : Type} : JobOp Token → Bool
  | .create _ _ => true
  | .claim .. | .renewLease .. | .succeed .. | .fail .. | .requestCancel ..
  | .requestCancelIfVersion .. => false

/-- The operations, with manual retries. -/
inductive Op where
  | job (op : JobOp String)
  | createManualRetry (ctx : Context) (request : ManualRetryRequest)

/-- What an operation answers. `idle` is a claim that found nothing to take. -/
inductive Reply where
  | created (job : Job) (wasCreated : Bool)
  | claimed (job : Job)
  | idle
  | updated (job : Job)
  | retried (job : Job) (lineage : ManualRetryLineage) (created : Bool)
  | error (e : JobError)
  deriving DecidableEq

namespace Reply

def ofCreate : Except JobError (Job × Bool) → Reply
  | .ok (job, wasCreated) => .created job wasCreated
  | .error e => .error e

def ofClaim : Except JobError (Option Job) → Reply
  | .ok (some job) => .claimed job
  | .ok none => .idle
  | .error e => .error e

def ofUpdate : Except JobError Job → Reply
  | .ok job => .updated job
  | .error e => .error e

def ofRetry : Except JobError (Job × ManualRetryLineage × Bool) → Reply
  | .ok (job, lineage, isNew) => .retried job lineage isNew
  | .error e => .error e

def isError : Reply → Bool
  | .error _ => true
  | _ => false

end Reply

/-- One operation on the jobs. -/
def MemoryRepository.step (r : MemoryRepository) : JobOp String → MemoryRepository × Reply
  | .create ctx request =>
      let result := r.create ctx request
      (result.1, .ofCreate result.2)
  | .claim ctx workerID now ttl =>
      let result := r.claim ctx workerID now ttl
      (result.1, .ofClaim result.2)
  | .renewLease ctx id token now ttl =>
      let result := r.renewLease ctx id token now ttl
      (result.1, .ofUpdate result.2)
  | .succeed ctx id token output now =>
      let result := r.succeed ctx id token output now
      (result.1, .ofUpdate result.2)
  | .fail ctx id token message output policy now =>
      let result := r.fail ctx id token message output policy now
      (result.1, .ofUpdate result.2)
  | .requestCancel ctx id now =>
      let result := r.requestCancel ctx id now
      (result.1, .ofUpdate result.2)
  | .requestCancelIfVersion ctx id expectedVersion now =>
      let result := r.requestCancelIfVersion ctx id expectedVersion now
      (result.1, .ofUpdate result.2)

/-- One operation on the jobs and the retry lineages. -/
def MemoryManualRetryRepository.step (r : MemoryManualRetryRepository) :
    Op → MemoryManualRetryRepository × Reply
  | .job op =>
      let result := r.jobs.step op
      ({ r with jobs := result.1 }, result.2)
  | .createManualRetry ctx request =>
      let result := r.createManualRetry ctx request
      (result.1, .ofRetry result.2)

/-- The machine of the in-memory repository. -/
def memoryMachine : Machine MemoryManualRetryRepository Op Reply where
  step := MemoryManualRetryRepository.step

/-- The states a run from the empty repository leads to. -/
abbrev MemoryReachable (r : MemoryManualRetryRepository) : Prop :=
  memoryMachine.Reachable .new r

/-- The job a reader of the repository sees. -/
def MemoryManualRetryRepository.job (r : MemoryManualRetryRepository) (id : String) : Option Job :=
  r.jobs.jobs.lookup id

end ControlCenter.Orchestration
