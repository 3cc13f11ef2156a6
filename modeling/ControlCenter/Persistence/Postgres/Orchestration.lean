import ControlCenter.Orchestration.Server.Handlers
import ControlCenter.Persistence.Postgres.Jobs

/-!
# The PostgreSQL state of the orchestration server

`OrchestrationState` of `internal/persistence/postgres/orchestration.go` over the tables of
revisions, idempotency keys, changes, policy decisions and approvals, and the backend the
server gets when it runs on these tables and on the table of jobs.

A change and its decision are one row here, because they are inserted together and joined
whenever they are read. The text columns `job_id` and `approval_permission` are null exactly
for the empty text (`NULLIF`, `COALESCE`), so they hold the text itself. The keys of
`cc_idempotency_keys` are one table for each scope.

Every call of the server takes one entry of a script (`Link.call`): workers may call before
it, the connection may fail before the call takes effect or after it did, and the entry
carries what the random source gives. So every way in which calls can fail, and every way in
which the workers run between them, is a script.
-/

set_option autoImplicit false

namespace ControlCenter.Postgres

open Library Orchestration Change Policy

/-! ## Tables -/

structure RevisionRow where
  id : String
  sequence : UInt64
  digest : String
  content : Bytes
  createdAt : Time
  createdBy : String
  deriving DecidableEq

/-- A row of `cc_idempotency_keys` under its scope and key. -/
structure KeyRow where
  fingerprint : String
  resourceID : String
  deriving DecidableEq

/-- A row of `cc_changes`, with its row of `cc_policy_decisions`. -/
structure ChangeRow where
  id : String
  action : String
  requester : String
  revisionID : String
  decision : Decision
  risk : Risk
  input : Bytes
  idempotencyKey : String
  inputFingerprint : String
  jobID : String
  state : State
  version : UInt64
  createdAt : Time
  updatedAt : Time
  deriving DecidableEq

/-- The rows of `cc_change_approvals` of one change, by actor. -/
abbrev ApprovalRows := Table Approval

structure OrchestrationState where
  revisions : Table RevisionRow
  revisionKeys : Table KeyRow
  changes : Table ChangeRow
  changeKeys : Table KeyRow
  approvals : Table ApprovalRows

def OrchestrationState.new : OrchestrationState := ⟨∅, ∅, ∅, ∅, ∅⟩

/-- The number is positive as a `bigint`. -/
def positiveBigint (n : UInt64) : Bool := n != 0 && decide (n.toNat < 2 ^ 63)

/-! ## Approvals -/

/-- `INSERT ... ON CONFLICT (change_id, actor) DO NOTHING`. -/
def insertApproval (rows : ApprovalRows) (approval : Approval) : ApprovalRows :=
  if approval.actor ∈ rows then rows
  else rows.insert approval.actor { approval with approvedAt := microseconds approval.approvedAt }

/-- `ORDER BY approved_at, actor`. -/
def approvalRank (approval : Approval) : Time ×ₗ String :=
  toLex (approval.approvedAt, approval.actor)

/-- The approvals in the order in which they are read. -/
def orderedApprovals (rows : ApprovalRows) : List Approval :=
  (rows.keysBy approvalRank).filterMap fun actor => rows.lookup actor

/-! ## Changes -/

def scanPersistedChange (row : ChangeRow) (approvals : List Approval) : PersistedChange where
  snapshot := ⟨row.id, row.action, row.requester, row.revisionID, row.risk, row.state,
    row.decision, approvals, row.version, row.updatedAt⟩
  input := row.input
  idempotencyKey := row.idempotencyKey
  fingerprint := row.inputFingerprint
  jobID := row.jobID

/-- The row a creation inserts. -/
def insertedChange (db : Database) (requested : PersistedChange) : ChangeRow where
  id := requested.snapshot.id
  action := requested.snapshot.action
  requester := requested.snapshot.requester
  revisionID := requested.snapshot.revisionID
  decision := requested.snapshot.decision
  risk := requested.snapshot.risk
  input := db.jsonbText requested.input
  idempotencyKey := requested.idempotencyKey
  inputFingerprint := requested.fingerprint
  jobID := requested.jobID
  state := requested.snapshot.state
  version := requested.snapshot.version
  createdAt := microseconds requested.snapshot.updatedAt
  updatedAt := microseconds requested.snapshot.updatedAt

/-- The row an update leaves. -/
def updatedChange (row : ChangeRow) (updated : PersistedChange) : ChangeRow :=
  { row with
    state := updated.snapshot.state
    version := updated.snapshot.version
    updatedAt := microseconds updated.snapshot.updatedAt
    jobID := updated.jobID }

/-- `ORDER BY c.created_at, c.id`. -/
def changeRank (row : ChangeRow) : Time ×ₗ String := toLex (row.createdAt, row.id)

namespace OrchestrationState

/-- Run a transaction, unless its context has ended. -/
def transaction {α : Type} (st : OrchestrationState) (ctx : Context)
    (run : OrchestrationState × Except JobError α) : OrchestrationState × Except JobError α :=
  match ctx.err with
  | some cause => (st, .error (.context cause))
  | none => run

def approvalRows (st : OrchestrationState) (changeID : String) : ApprovalRows :=
  (st.approvals.lookup changeID).getD ∅

def loadChange (st : OrchestrationState) (id : String) : Option PersistedChange :=
  (st.changes.lookup id).map fun row =>
    scanPersistedChange row (orderedApprovals (st.approvalRows id))

/-- Another change has the job. `job_id` is unique, and null is no job. -/
def jobTaken (st : OrchestrationState) (id jobID : String) : Bool :=
  jobID != "" && (st.changes.findRow fun row => row.id != id && row.jobID == jobID).isSome

/-- The statements of `CreateChange`. -/
def createChangeChecked (db : Database) (st : OrchestrationState) (requested : PersistedChange) :
    OrchestrationState × Except JobError (PersistedChange × Bool) :=
  match st.changeKeys.lookup requested.idempotencyKey with
  | some existing =>
      if existing.fingerprint ≠ requested.fingerprint then (st, .error .idempotencyConflict)
      else
        match st.loadChange existing.resourceID with
        | none => (st, .error (.message "sql: no rows in result set"))
        | some persisted => (st, .ok (persisted, false))
  | none =>
      if requested.snapshot.id ∈ st.changes ∨
          (st.changes.findRow fun row => row.idempotencyKey == requested.idempotencyKey).isSome ∨
          st.jobTaken requested.snapshot.id requested.jobID then
        (st, .error (.message "duplicate key value violates unique constraint"))
      else if requested.snapshot.revisionID ∉ st.revisions then
        (st, .error (.message "insert violates foreign key constraint"))
      else if positiveBigint requested.snapshot.version = false then
        (st, .error (.message "new row violates check constraint"))
      else
        ({ st with
            changes := st.changes.insert requested.snapshot.id (insertedChange db requested)
            changeKeys := st.changeKeys.insert requested.idempotencyKey
              ⟨requested.fingerprint, requested.snapshot.id⟩ },
          .ok (requested, true))

def createChange (db : Database) (st : OrchestrationState) (ctx : Context)
    (requested : PersistedChange) :
    OrchestrationState × Except JobError (PersistedChange × Bool) :=
  if requested.snapshot.id = "" ∨ requested.idempotencyKey = "" ∨ requested.fingerprint = "" ∨
      Json.valid requested.input = false then
    (st, .error (.message "complete change persistence request is required"))
  else st.transaction ctx (st.createChangeChecked db requested)

/-- The statements of `UpdateChange`. -/
def updateChangeChecked (st : OrchestrationState) (updated : PersistedChange) :
    OrchestrationState × Except JobError Unit :=
  match (st.changes.lookup updated.snapshot.id).filter fun row =>
      positiveBigint updated.snapshot.version &&
        decide (row.version ≤ updated.snapshot.version) with
  | none => (st, .error (.message "change persistence version conflict"))
  | some row =>
      if st.jobTaken updated.snapshot.id updated.jobID then
        (st, .error (.message "duplicate key value violates unique constraint"))
      else
        ({ st with
            changes := st.changes.insert updated.snapshot.id (updatedChange row updated)
            approvals := st.approvals.insert updated.snapshot.id
              (updated.snapshot.approvals.foldl insertApproval
                (st.approvalRows updated.snapshot.id)) },
          .ok ())

def updateChange (st : OrchestrationState) (ctx : Context) (updated : PersistedChange) :
    OrchestrationState × Except JobError Unit :=
  st.transaction ctx (st.updateChangeChecked updated)

/-! ## Revisions -/

def scanRevision (row : RevisionRow) (key fingerprint : String) : PersistedRevision where
  id := row.id
  sequence := row.sequence
  digest := row.digest
  content := row.content
  createdAt := row.createdAt
  createdBy := row.createdBy
  idempotencyKey := key
  fingerprint := fingerprint

/-- The revision a key names. -/
def revisionByIdempotency (st : OrchestrationState) (key : String) :
    Option (RevisionRow × String) :=
  (st.revisionKeys.lookup key).bind fun entry =>
    (st.revisions.lookup entry.resourceID).map fun row => (row, entry.fingerprint)

/-- `COALESCE(MAX(sequence), 0) + 1`. -/
def nextSequence (st : OrchestrationState) : UInt64 :=
  (st.revisions.entries.foldl (fun highest entry => max highest entry.2.sequence) 0) + 1

/-- The statements of `CreateRevision`, for the canonical form of the content. -/
def createRevisionChecked (db : Database) (st : OrchestrationState)
    (random createdBy key fingerprint : String) (canonical : Revision) (now : Time) :
    OrchestrationState × Except JobError PersistedRevision :=
  match st.revisionByIdempotency key with
  | some (row, stored) =>
      if stored ≠ fingerprint then (st, .error .idempotencyConflict)
      else (st, .ok (scanRevision row key stored))
  | none =>
      if key ∈ st.revisionKeys then
        (st, .error (.message "duplicate key value violates unique constraint"))
      else
        match st.revisions.findRow fun row => row.digest == canonical.digest with
        | some row =>
            ({ st with revisionKeys := st.revisionKeys.insert key ⟨fingerprint, row.id⟩ },
              .ok (scanRevision row key fingerprint))
        | none =>
            let id := "rev-" ++ random
            if id ∈ st.revisions then
              (st, .error (.message "duplicate key value violates unique constraint"))
            else
              let sequence := st.nextSequence
              if positiveBigint sequence = false then
                (st, .error (.message "new row violates check constraint"))
              else
                ({ st with
                    revisions := st.revisions.insert id ⟨id, sequence, canonical.digest,
                      db.jsonbText canonical.content, microseconds now, createdBy⟩
                    revisionKeys := st.revisionKeys.insert key ⟨fingerprint, id⟩ },
                  .ok ⟨id, sequence, canonical.digest, canonical.content, now, createdBy, key,
                    fingerprint⟩)

def createRevision (db : Database) (st : OrchestrationState) (ctx : Context)
    (random createdBy key fingerprint : String) (content : RawMessage) (now : Time) :
    OrchestrationState × Except JobError PersistedRevision :=
  if createdBy = "" ∨ key = "" ∨ fingerprint = "" ∨ Json.valid content = false ∨
      Time.isZero now = true then
    (st, .error (.message "complete revision persistence request is required"))
  else
    match newRevision "pending" 1 now content with
    | .error text => (st, .error (.message text))
    | .ok canonical =>
        st.transaction ctx
          (st.createRevisionChecked db random createdBy key fingerprint canonical now)

/-! ## Loading -/

/-- The keys of a revision, in order. -/
def keysOf (st : OrchestrationState) (id : String) : List (String × String) :=
  (st.revisionKeys.keys.insertionSort (· ≤ ·)).filterMap fun key =>
    ((st.revisionKeys.lookup key).filter fun entry => entry.resourceID == id).map fun entry =>
      (key, entry.fingerprint)

/-- The rows of the left join for one revision. -/
def loadRevision (st : OrchestrationState) (row : RevisionRow) : List PersistedRevision :=
  match st.keysOf row.id with
  | [] => [scanRevision row "" ""]
  | keys => keys.map fun key => scanRevision row key.1 key.2

def load (st : OrchestrationState) (ctx : Context) : Except JobError PersistedState :=
  match ctx.err with
  | some cause => .error (.context cause)
  | none =>
      .ok {
        revisions := (st.revisions.keysBy fun row => row.sequence.toNat).flatMap fun id =>
          (st.revisions.lookup id).elim [] st.loadRevision
        changes := (st.changes.keysBy changeRank).filterMap st.loadChange }

end OrchestrationState

/-! ## The backend of a server -/

/-- Everything the database holds for the server. -/
structure Store where
  state : OrchestrationState
  jobs : JobRepository

def Store.new : Store := ⟨.new, .new⟩

/-- A call of a worker or of an operator to the jobs. None of them creates a job. -/
structure WorkerCall where
  op : JobOp String
  random : String
  works : op.creates = false

/-- Let a worker call. -/
def Store.work (db : Database) (st : Store) (call : WorkerCall) : Store :=
  ⟨st.state, (st.jobs.step db call.random call.op).1⟩

/-- How a call fails. -/
inductive Fault where
  /-- Nothing happened. -/
  | lost (e : JobError)
  /-- The call took effect, but its answer is an error. -/
  | unreported (e : JobError)

/-- What one call meets: the calls of the workers before it, and how it fails. -/
structure CallInput where
  meanwhile : List WorkerCall
  fault : Option Fault
  random : String

/-- The database behind a connection, with what the next calls will meet. -/
structure Link where
  store : Store
  script : List CallInput

/-- One call over the connection. -/
def Link.call {α : Type} (db : Database) (l : Link)
    (run : String → Store → Store × Except JobError α) : Link × Except JobError α :=
  match l.script with
  | [] =>
      let result := run "" l.store
      (⟨result.1, []⟩, result.2)
  | input :: rest =>
      let st := input.meanwhile.foldl (Store.work db) l.store
      match input.fault with
      | none =>
          let result := run input.random st
          (⟨result.1, rest⟩, result.2)
      | some (.lost e) => (⟨st, rest⟩, .error e)
      | some (.unreported e) => (⟨(run input.random st).1, rest⟩, .error e)

/-- The foreign key of `cc_jobs` refers to the changes that are stored. -/
def Database.over (db : Database) (changes : Table ChangeRow) : Database :=
  { db with
    refusesChange := fun id =>
      if id ∈ changes then none else some "insert violates foreign key constraint" }

namespace Store

def onState {α : Type} (st : Store)
    (run : OrchestrationState → OrchestrationState × Except JobError α) :
    Store × Except JobError α :=
  let result := run st.state
  (⟨result.1, st.jobs⟩, result.2)

def onJobs {α : Type} (st : Store)
    (run : JobRepository → JobRepository × Except JobError α) : Store × Except JobError α :=
  let result := run st.jobs
  (⟨st.state, result.1⟩, result.2)

end Store

/-- `OrchestrationState` and `JobRepository` over one connection. -/
def backend (db : Database) : Backend Link where
  load l ctx := l.call db fun _ st => (st, st.state.load ctx)
  createRevision l ctx createdBy key fingerprint content now :=
    l.call db fun random st => st.onState fun state =>
      state.createRevision db ctx random createdBy key fingerprint content now
  createChange l ctx requested :=
    l.call db fun _ st => st.onState fun state => state.createChange db ctx requested
  updateChange l ctx updated :=
    l.call db fun _ st => st.onState fun state => state.updateChange ctx updated
  createJob l ctx request :=
    l.call db fun _ st => st.onJobs fun jobs => jobs.create (db.over st.state.changes) ctx request
  getJob l ctx id := l.call db fun _ st => (st, st.jobs.get ctx id)
  requestCancel l ctx id now :=
    l.call db fun _ st => st.onJobs fun jobs => jobs.requestCancel db ctx id now

end ControlCenter.Postgres
