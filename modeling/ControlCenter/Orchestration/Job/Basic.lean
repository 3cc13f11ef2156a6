import ControlCenter.Library.Go

/-!
# Jobs

The records of `internal/orchestration/job` and `internal/orchestration/events`: the
status of a job, its lease, the job itself, the requests that create and complete it,
and the backoff between attempts.

Values have no aliases here, so `clone` and `cloneOutput` of the source are the identity
and do not appear. A nil pointer is `none`. The counter `version` wraps at 64 bits as in
the source.
-/

set_option autoImplicit false

namespace ControlCenter.Orchestration

open Library

/-- `json.RawMessage`. -/
abbrev RawMessage := Bytes

/-! ## What an action reports -/

structure ActualState where
  resourceID : String
  kind : String
  state : String
  observedAt : Time
  revision : String
  details : RawMessage
  deriving DecidableEq

structure Health where
  resourceID : String
  status : String
  checkedAt : Time
  message : String
  deriving DecidableEq

structure AuditEvent where
  id : String
  occurredAt : Time
  actor : String
  action : String
  resourceID : String
  outcome : String
  correlationID : String
  details : RawMessage
  deriving DecidableEq

structure Output where
  actualStates : List ActualState
  health : List Health
  auditEvents : List AuditEvent
  deriving DecidableEq

/-! ## The job record -/

inductive Status where
  | queued
  | running
  | retryWait
  | cancelRequested
  | cancelled
  | succeeded
  | failed
  deriving DecidableEq

def Status.terminal : Status → Bool
  | .cancelled | .succeeded | .failed => true
  | .queued | .running | .retryWait | .cancelRequested => false

/-- A worker holds a lease in the two statuses in which an attempt is under way. -/
def Status.leased : Status → Bool
  | .running | .cancelRequested => true
  | .queued | .retryWait | .cancelled | .succeeded | .failed => false

structure Lease where
  token : String
  workerID : String
  expiresAt : Time
  deriving DecidableEq

structure Job where
  id : String
  changeID : String
  actionName : String
  input : RawMessage
  idempotencyKey : String
  status : Status
  attempt : Int
  maxAttempts : Int
  nextAttemptAt : Time
  lease : Option Lease
  output : Option Output
  lastError : String
  createdAt : Time
  updatedAt : Time
  version : UInt64
  deriving DecidableEq

structure CreateRequest where
  id : String
  changeID : String
  actionName : String
  input : RawMessage
  idempotencyKey : String
  maxAttempts : Int
  now : Time
  deriving DecidableEq

structure RetryPolicy where
  baseDelay : Duration
  maxDelay : Duration
  deriving DecidableEq

/-- The errors of the job package. The named ones are compared with `errors.Is`, the
others carry their text. -/
inductive JobError where
  | context (cause : ContextError)
  | notFound
  | leaseLost
  | idempotencyConflict
  | versionConflict
  | manualRetrySourceNotFailed
  | manualRetrySourceAlreadyRetried
  | manualRetryAdmissionConflict
  | message (text : String)
  deriving DecidableEq

/-! ## Backoff -/

/-- One second. -/
def second : Duration := 1000000000

/-- The largest duration. -/
def maxRetryDelay : Duration := 9223372036854775807

/-- The doublings that remain, from the delay reached so far. -/
def retryDelayLoop (policy : RetryPolicy) : Nat → Duration → Duration
  | 0, delay => if 0 < policy.maxDelay ∧ policy.maxDelay < delay then policy.maxDelay else delay
  | remaining + 1, delay =>
      if 0 < policy.maxDelay ∧ policy.maxDelay ≤ delay then policy.maxDelay
      else if maxRetryDelay / 2 < delay then
        if 0 < policy.maxDelay then policy.maxDelay else maxRetryDelay
      else retryDelayLoop policy remaining (delay * 2)

/-- The delay before the attempt after `attempt`. -/
def retryDelay (attempt : Int) (policy : RetryPolicy) : Duration :=
  let base := if policy.baseDelay ≤ 0 then second else policy.baseDelay
  if 0 < policy.maxDelay ∧ policy.maxDelay ≤ base then policy.maxDelay
  else retryDelayLoop policy (attempt - 1).toNat base

end ControlCenter.Orchestration
