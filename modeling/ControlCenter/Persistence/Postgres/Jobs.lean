import ControlCenter.Orchestration.Job.Operations

/-!
# The PostgreSQL job repository

`JobRepository` of `internal/persistence/postgres/jobs.go` and its compare-and-swap
cancellation of `jobs_cancel_version.go`, over the table `cc_jobs`. Each operation is one
transaction and is run as one step.

A row has the columns of the table. The two checks on the lease columns of the schema
say that they are null together, so they are one `Option Lease`. The version is a
`bigint` that only ever grows by one; it is a natural number here, and results that
depend on its size bound the length of the run.

What the database decides by itself is a parameter (`Database`): whether it takes the
parameters of a statement and the values a constraint is about, and the text a `jsonb`
column gives back. Lease tokens come from the random source, so a claim takes the token
it would draw.
-/

set_option autoImplicit false

namespace ControlCenter.Postgres

open Library Orchestration

/-- What an instant becomes in a `timestamptz` column: whole microseconds. -/
def microseconds (t : Time) : Time := Time.truncateMicrosecond t

/-- The answers of the database and its driver that the services do not compute. An error
is given by its text. -/
structure Database where
  /-- Why the parameters of the statements of an operation cannot be bound. -/
  refuses : JobOp String → Option String
  /-- Why the foreign key to `cc_changes` does not hold. -/
  refusesChange : String → Option String
  /-- Why the observations of an output cannot be stored. -/
  refusesOutput : Output → Option String
  /-- The text a `jsonb` column gives back. -/
  jsonbText : Bytes → Bytes
  /-- The output read back from its `jsonb` column. -/
  jsonbOutput : Output → Output

/-- A row of `cc_jobs`. -/
structure JobRow where
  id : String
  changeID : String
  actionName : String
  input : Bytes
  idempotencyKey : String
  inputFingerprint : String
  status : Status
  attempt : Int
  maxAttempts : Int
  nextAttemptAt : Option Time
  lease : Option Lease
  output : Option Output
  lastError : Option String
  version : Nat
  createdAt : Time
  updatedAt : Time
  deriving DecidableEq

/-- The job a row stands for. -/
def scanJob (row : JobRow) : Job where
  id := row.id
  changeID := row.changeID
  actionName := row.actionName
  input := row.input
  idempotencyKey := row.idempotencyKey
  status := row.status
  attempt := row.attempt
  maxAttempts := row.maxAttempts
  nextAttemptAt := row.nextAttemptAt.getD 0
  lease := row.lease
  output := row.output
  lastError := row.lastError.getD ""
  createdAt := row.createdAt
  updatedAt := row.updatedAt
  version := UInt64.ofNat row.version

def jobFingerprint (request : CreateRequest) : String :=
  sha256Hex (utf8 request.changeID ++ [0] ++ utf8 request.actionName ++ [0] ++ request.input)

/-! ## The statements on one row -/

namespace JobRow

/-- `lease_expires_at <= now`, which a null does not satisfy. -/
def leaseExpired (row : JobRow) (now : Time) : Bool :=
  row.lease.any fun lease => decide (lease.expiresAt ≤ now)

/-- The first statement of a claim. -/
def cancelExpired (now : Time) (row : JobRow) : JobRow :=
  if row.status = .cancelRequested ∧ row.leaseExpired now = true then
    { row with
      status := .cancelled
      lease := none
      updatedAt := now
      version := row.version + 1 }
  else row

/-- The second statement of a claim. -/
def failExhausted (now : Time) (row : JobRow) : JobRow :=
  if row.maxAttempts ≤ row.attempt ∧ (row.status = .queued ∨ row.status = .retryWait ∨
      row.status = .running ∧ row.leaseExpired now = true) then
    { row with
      status := .failed
      lastError := some "maximum attempts exhausted"
      lease := none
      updatedAt := now
      version := row.version + 1 }
  else row

/-- The condition of the third statement of a claim. -/
def claimable (row : JobRow) (now : Time) : Bool :=
  decide (row.attempt < row.maxAttempts) &&
    match row.status with
    | .queued => true
    | .retryWait => row.nextAttemptAt.all fun next => decide (next ≤ now)
    | .running => row.leaseExpired now
    | .cancelRequested | .cancelled | .succeeded | .failed => false

/-- The last statement of a claim. -/
def startAttempt (row : JobRow) (lease : Lease) (now : Time) : JobRow :=
  { row with
    status := .running
    attempt := row.attempt + 1
    nextAttemptAt := none
    lastError := none
    lease := some lease
    updatedAt := now
    version := row.version + 1 }

/-- The condition under which a worker may write: its token, before the lease runs out. -/
def holdsLease (row : JobRow) (token : String) (now : Time) : Bool :=
  row.status.leased && row.lease.any fun lease =>
    decide (lease.token = token ∧ now < lease.expiresAt)

def renew (row : JobRow) (expiresAt now : Time) : JobRow :=
  { row with
    lease := row.lease.map fun lease => { lease with expiresAt := expiresAt }
    updatedAt := now
    version := row.version + 1 }

def succeed (row : JobRow) (output : Output) (now : Time) : JobRow :=
  { row with
    status := if row.status = .cancelRequested then .cancelled else .succeeded
    output := if row.status = .cancelRequested then row.output else some output
    lease := none
    updatedAt := now
    version := row.version + 1 }

def fail (row : JobRow) (message : String) (output : Output) (policy : RetryPolicy)
    (now : Time) : JobRow :=
  let decided : Status × Option Time :=
    if row.status = .cancelRequested then (.cancelled, none)
    else if row.attempt < row.maxAttempts then
      (.retryWait, some (microseconds (Time.add now (retryDelay row.attempt policy))))
    else (.failed, none)
  { row with
    status := decided.1
    nextAttemptAt := decided.2
    lastError := some message
    output := some output
    lease := none
    updatedAt := microseconds now
    version := row.version + 1 }

/-- The update shared by the two cancellations. -/
def requestCancel (row : JobRow) (now : Time) : JobRow :=
  { row with
    status :=
      if row.status.terminal = true then row.status
      else if row.status = .running then .cancelRequested
      else .cancelled
    lease := if row.status = .running then row.lease else none
    updatedAt := if row.status.terminal = true then row.updatedAt else now
    version := if row.status.terminal = true then row.version else row.version + 1 }

/-- `ORDER BY created_at, id`. -/
def creationRank (row : JobRow) : Time ×ₗ String := toLex (row.createdAt, row.id)

end JobRow

/-- The row an accepted creation inserts. -/
def insertedRow (db : Database) (request : CreateRequest) : JobRow where
  id := request.id
  changeID := request.changeID
  actionName := request.actionName
  input := db.jsonbText request.input
  idempotencyKey := request.idempotencyKey
  inputFingerprint := jobFingerprint request
  status := .queued
  attempt := 0
  maxAttempts := request.maxAttempts
  nextAttemptAt := none
  lease := none
  output := none
  lastError := none
  version := 1
  createdAt := microseconds request.now
  updatedAt := microseconds request.now

/-! ## The operations -/

/-- The table `cc_jobs`. -/
structure JobRepository where
  rows : Table JobRow

namespace JobRepository

def new : JobRepository := ⟨∅⟩

def byIdempotency (r : JobRepository) (key : String) : Option JobRow :=
  r.rows.findRow fun row => decide (row.idempotencyKey = key)

/-- Run the statements of an operation, unless its context has ended or its parameters
cannot be bound. -/
def query {α : Type} (db : Database) (r : JobRepository) (ctx : Context) (op : JobOp String)
    (run : JobRepository × Except JobError α) : JobRepository × Except JobError α :=
  match ctx.err with
  | some cause => (r, .error (.context cause))
  | none =>
      match db.refuses op with
      | some text => (r, .error (.message text))
      | none => run

/-- The statements of `Create`. -/
def createChecked (db : Database) (r : JobRepository) (request : CreateRequest) :
    JobRepository × Except JobError (Job × Bool) :=
  match r.byIdempotency request.idempotencyKey with
  | some existing =>
      if existing.inputFingerprint ≠ jobFingerprint request ∨
          existing.maxAttempts ≠ request.maxAttempts then
        (r, .error .idempotencyConflict)
      else (r, .ok (scanJob existing, false))
  | none =>
      if request.id ∈ r.rows then
        (r, .error (.message ("job id already exists: " ++ request.id)))
      else
        match db.refusesChange request.changeID with
        | some text => (r, .error (.message text))
        | none =>
            (⟨r.rows.insert request.id (insertedRow db request)⟩,
              .ok (scanJob (insertedRow db request), true))

def create (db : Database) (r : JobRepository) (ctx : Context) (request : CreateRequest) :
    JobRepository × Except JobError (Job × Bool) :=
  if request.id = "" ∨ request.changeID = "" ∨ request.actionName = "" ∨
      request.idempotencyKey = "" ∨ request.input = [] ∨ Json.valid request.input = false ∨
      request.maxAttempts < 1 ∨ Time.isZero request.now = true then
    (r, .error (.message "complete valid job creation request is required"))
  else query db r ctx (.create ctx request) (r.createChecked db request)

def get (r : JobRepository) (ctx : Context) (id : String) : Except JobError Job :=
  match ctx.err with
  | some cause => .error (.context cause)
  | none =>
      match r.rows.lookup id with
      | none => .error .notFound
      | some row => .ok (scanJob row)

/-- The rows after the two sweeps of a claim. -/
def sweep (r : JobRepository) (now : Time) : Table JobRow :=
  (r.rows.mapRows (JobRow.cancelExpired now)).mapRows (JobRow.failExhausted now)

/-- The first claimable row, in the order of creation. -/
def firstClaimable (rows : Table JobRow) (now : Time) : Option String :=
  (rows.keysBy JobRow.creationRank).find? fun id =>
    (rows.lookup id).any fun row => row.claimable now

/-- The statements of `Claim`. -/
def claimChecked (r : JobRepository) (workerID : String) (now : Time) (ttl : Duration)
    (random : String) : JobRepository × Except JobError (Option Job) :=
  let rows := r.sweep (microseconds now)
  match firstClaimable rows (microseconds now) with
  | none => (⟨rows⟩, .ok none)
  | some id =>
      match rows.lookup id with
      | none => (r, .error .notFound)
      | some row =>
          let lease : Lease := ⟨random, workerID, microseconds (Time.add now ttl)⟩
          let claimed := row.startAttempt lease (microseconds now)
          (⟨rows.insert id claimed⟩, .ok (some (scanJob claimed)))

def claim (db : Database) (r : JobRepository) (ctx : Context) (workerID : String) (now : Time)
    (ttl : Duration) (random : String) : JobRepository × Except JobError (Option Job) :=
  if workerID = "" ∨ Time.isZero now = true ∨ ttl ≤ 0 then
    (r, .error (.message "worker id, current time, and positive lease ttl are required"))
  else query db r ctx (.claim ctx workerID now ttl) (r.claimChecked workerID now ttl random)

/-- The row the conditions of a worker's statement select. -/
def selectLeased (r : JobRepository) (id token : String) (now : Time) : Option JobRow :=
  (r.rows.lookup id).filter fun row => row.holdsLease token now

/-- The body shared by the statements of a worker: write the image of the leased row. The
observations of an output are stored in the same transaction. -/
def updateLeased (r : JobRepository) (id token : String) (now : Time) (update : JobRow → JobRow)
    (observations : JobRow → Option String) : JobRepository × Except JobError Job :=
  match r.selectLeased id token (microseconds now) with
  | none => (r, .error .leaseLost)
  | some row =>
      match observations (update row) with
      | some text => (r, .error (.message text))
      | none => (⟨r.rows.insert id (update row)⟩, .ok (scanJob (update row)))

/-- The statements of `RenewLease`. -/
def renewChecked (r : JobRepository) (id token : String) (now : Time) (ttl : Duration) :
    JobRepository × Except JobError Job :=
  r.updateLeased id token now
    (fun row => row.renew (microseconds (Time.add now ttl)) (microseconds now)) fun _ => none

def renewLease (db : Database) (r : JobRepository) (ctx : Context) (id token : String)
    (now : Time) (ttl : Duration) : JobRepository × Except JobError Job :=
  if Time.isZero now = true ∨ ttl ≤ 0 then
    (r, .error (.message "current time and positive lease ttl are required"))
  else query db r ctx (.renewLease ctx id token now ttl) (r.renewChecked id token now ttl)

/-- The statements of `Succeed`. -/
def succeedChecked (db : Database) (r : JobRepository) (id token : String) (output : Output)
    (now : Time) : JobRepository × Except JobError Job :=
  r.updateLeased id token now
    (fun row => row.succeed (db.jsonbOutput output) (microseconds now))
    fun result => if result.status = .succeeded then db.refusesOutput output else none

def succeed (db : Database) (r : JobRepository) (ctx : Context) (id token : String)
    (output : Output) (now : Time) : JobRepository × Except JobError Job :=
  if Time.isZero now = true then (r, .error (.message "completion time is required"))
  else query db r ctx (.succeed ctx id token output now) (r.succeedChecked db id token output now)

/-- The statements of `Fail`. -/
def failChecked (db : Database) (r : JobRepository) (id token message : String)
    (output : Output) (policy : RetryPolicy) (now : Time) : JobRepository × Except JobError Job :=
  r.updateLeased id token now (fun row => row.fail message (db.jsonbOutput output) policy now)
    fun _ => db.refusesOutput output

def fail (db : Database) (r : JobRepository) (ctx : Context) (id token message : String)
    (output : Output) (policy : RetryPolicy) (now : Time) :
    JobRepository × Except JobError Job :=
  if message = "" then (r, .error (.message "failure message is required"))
  else if Time.isZero now = true then (r, .error (.message "failure time is required"))
  else
    query db r ctx (.fail ctx id token message output policy now)
      (r.failChecked db id token message output policy now)

/-- The statement of `RequestCancel`. -/
def cancelChecked (r : JobRepository) (id : String) (now : Time) :
    JobRepository × Except JobError Job :=
  match r.rows.lookup id with
  | none => (r, .error .notFound)
  | some row =>
      let result := row.requestCancel (microseconds now)
      (⟨r.rows.insert id result⟩, .ok (scanJob result))

def requestCancel (db : Database) (r : JobRepository) (ctx : Context) (id : String)
    (now : Time) : JobRepository × Except JobError Job :=
  if Time.isZero now = true then (r, .error (.message "cancellation time is required"))
  else query db r ctx (.requestCancel ctx id now) (r.cancelChecked id now)

/-- The statements of `RequestCancelIfVersion`. -/
def cancelIfVersionChecked (r : JobRepository) (id : String) (expectedVersion : UInt64)
    (now : Time) : JobRepository × Except JobError Job :=
  match r.rows.lookup id with
  | none => (r, .error .notFound)
  | some row =>
      if row.version ≠ expectedVersion.toNat then (r, .error .versionConflict)
      else
        let result := row.requestCancel (microseconds now)
        (⟨r.rows.insert id result⟩, .ok (scanJob result))

def requestCancelIfVersion (db : Database) (r : JobRepository) (ctx : Context) (id : String)
    (expectedVersion : UInt64) (now : Time) : JobRepository × Except JobError Job :=
  if expectedVersion = 0 then (r, .error (.message "expected job version is required"))
  else if Time.isZero now = true then (r, .error (.message "cancellation time is required"))
  else
    query db r ctx (.requestCancelIfVersion ctx id expectedVersion now)
      (r.cancelIfVersionChecked id expectedVersion now)

/-- One operation, with the token a claim would draw. -/
def step (db : Database) (r : JobRepository) (random : String) :
    JobOp String → JobRepository × Reply
  | .create ctx request =>
      let result := r.create db ctx request
      (result.1, .ofCreate result.2)
  | .claim ctx workerID now ttl =>
      let result := r.claim db ctx workerID now ttl random
      (result.1, .ofClaim result.2)
  | .renewLease ctx id token now ttl =>
      let result := r.renewLease db ctx id token now ttl
      (result.1, .ofUpdate result.2)
  | .succeed ctx id token output now =>
      let result := r.succeed db ctx id token output now
      (result.1, .ofUpdate result.2)
  | .fail ctx id token message output policy now =>
      let result := r.fail db ctx id token message output policy now
      (result.1, .ofUpdate result.2)
  | .requestCancel ctx id now =>
      let result := r.requestCancel db ctx id now
      (result.1, .ofUpdate result.2)
  | .requestCancelIfVersion ctx id expectedVersion now =>
      let result := r.requestCancelIfVersion db ctx id expectedVersion now
      (result.1, .ofUpdate result.2)

end JobRepository

/-! ## Checks first -/

namespace JobRepository

/-- What an operation does once its arguments have passed their checks and its statements
have been bound. -/
def serve (db : Database) (r : JobRepository) (random : String) :
    JobOp String → JobRepository × Reply
  | .create _ request =>
      let result := r.createChecked db request
      (result.1, .ofCreate result.2)
  | .claim _ workerID now ttl =>
      let result := r.claimChecked workerID now ttl random
      (result.1, .ofClaim result.2)
  | .renewLease _ id token now ttl =>
      let result := r.renewChecked id token now ttl
      (result.1, .ofUpdate result.2)
  | .succeed _ id token output now =>
      let result := r.succeedChecked db id token output now
      (result.1, .ofUpdate result.2)
  | .fail _ id token message output policy now =>
      let result := r.failChecked db id token message output policy now
      (result.1, .ofUpdate result.2)
  | .requestCancel _ id now =>
      let result := r.cancelChecked id now
      (result.1, .ofUpdate result.2)
  | .requestCancelIfVersion _ id expectedVersion now =>
      let result := r.cancelIfVersionChecked id expectedVersion now
      (result.1, .ofUpdate result.2)

theorem query_of_live {α : Type} (db : Database) (r : JobRepository) {ctx : Context}
    {op : JobOp String} (run : JobRepository × Except JobError α) (live : ctx.err = none)
    (bound : db.refuses op = none) : query db r ctx op run = run := by
  simp [query, live, bound]

theorem query_refused {α : Type} (db : Database) (r : JobRepository) {ctx : Context}
    {op : JobOp String} (run : JobRepository × Except JobError α)
    (refused : ¬ (ctx.err = none ∧ db.refuses op = none)) :
    ∃ e, query db r ctx op run = (r, .error e) := by
  unfold query
  split
  · exact ⟨_, rfl⟩
  · next live =>
      split
      · exact ⟨_, rfl⟩
      · next bound => exact absurd ⟨live, bound⟩ refused

/-- The one check of a creation request is the three checks of the in-memory repository. -/
theorem checkCreate_iff {request : CreateRequest} :
    MemoryRepository.checkCreate request = .ok () ↔
      ¬ (request.id = "" ∨ request.changeID = "" ∨ request.actionName = "" ∨
        request.idempotencyKey = "" ∨ request.input = [] ∨ Json.valid request.input = false ∨
        request.maxAttempts < 1 ∨ Time.isZero request.now = true) := by
  unfold MemoryRepository.checkCreate
  split_ifs <;> grind

/-- An operation serves what passes its checks. -/
theorem step_accepted (db : Database) (r : JobRepository) (random : String) {op : JobOp String}
    (accepted : op.ArgumentsAccepted) (bound : db.refuses op = none) :
    r.step db random op = r.serve db random op := by
  cases op with
  | create ctx request =>
      obtain ⟨live, checked⟩ := accepted
      simp only [step, create, serve, if_neg (checkCreate_iff.mp checked),
        query_of_live db r _ live bound]
  | claim ctx workerID now ttl =>
      obtain ⟨live, worker, time, positive⟩ := accepted
      simp [step, claim, serve, worker, time, Int64.not_le.mpr positive,
        query_of_live db r _ live bound]
  | renewLease ctx id token now ttl =>
      obtain ⟨live, time, positive⟩ := accepted
      simp [step, renewLease, serve, time, Int64.not_le.mpr positive,
        query_of_live db r _ live bound]
  | succeed ctx id token output now =>
      obtain ⟨live, time⟩ := accepted
      simp [step, succeed, serve, time, query_of_live db r _ live bound]
  | fail ctx id token message output policy now =>
      obtain ⟨live, text, time⟩ := accepted
      simp [step, fail, serve, text, time, query_of_live db r _ live bound]
  | requestCancel ctx id now =>
      obtain ⟨live, time⟩ := accepted
      simp [step, requestCancel, serve, time, query_of_live db r _ live bound]
  | requestCancelIfVersion ctx id expectedVersion now =>
      obtain ⟨live, positive, time⟩ := accepted
      simp [step, requestCancelIfVersion, serve, positive, time, query_of_live db r _ live bound]

/-- An operation refuses what does not pass its checks, and what cannot be bound. -/
theorem step_refused (db : Database) (r : JobRepository) (random : String) {op : JobOp String}
    (refused : ¬ (op.ArgumentsAccepted ∧ db.refuses op = none)) :
    ∃ e, r.step db random op = (r, .error e) := by
  cases op with
  | create ctx request =>
      simp only [step, create]
      split
      · exact ⟨_, rfl⟩
      · next valid =>
          obtain ⟨e, same⟩ := query_refused db r (r.createChecked db request)
            fun served => refused ⟨⟨served.1, checkCreate_iff.mpr valid⟩, served.2⟩
          exact ⟨e, by rw [same]; rfl⟩
  | claim ctx workerID now ttl =>
      simp only [step, claim]
      split
      · exact ⟨_, rfl⟩
      · next valid =>
          simp only [not_or, Time.isZero_iff, Int64.not_le] at valid
          obtain ⟨e, same⟩ := query_refused db r (r.claimChecked workerID now ttl random)
            fun served => refused ⟨⟨served.1, valid⟩, served.2⟩
          exact ⟨e, by rw [same]; rfl⟩
  | renewLease ctx id token now ttl =>
      simp only [step, renewLease]
      split
      · exact ⟨_, rfl⟩
      · next valid =>
          simp only [not_or, Time.isZero_iff, Int64.not_le] at valid
          obtain ⟨e, same⟩ := query_refused db r (r.renewChecked id token now ttl)
            fun served => refused ⟨⟨served.1, valid⟩, served.2⟩
          exact ⟨e, by rw [same]; rfl⟩
  | succeed ctx id token output now =>
      simp only [step, succeed]
      split
      · exact ⟨_, rfl⟩
      · next valid =>
          rw [Time.isZero_iff] at valid
          obtain ⟨e, same⟩ := query_refused db r (r.succeedChecked db id token output now)
            fun served => refused ⟨⟨served.1, valid⟩, served.2⟩
          exact ⟨e, by rw [same]; rfl⟩
  | fail ctx id token message output policy now =>
      simp only [step, fail]
      split
      · exact ⟨_, rfl⟩
      · next text =>
          split
          · exact ⟨_, rfl⟩
          · next valid =>
              rw [Time.isZero_iff] at valid
              obtain ⟨e, same⟩ := query_refused db r
                (r.failChecked db id token message output policy now)
                fun served => refused ⟨⟨served.1, text, valid⟩, served.2⟩
              exact ⟨e, by rw [same]; rfl⟩
  | requestCancel ctx id now =>
      simp only [step, requestCancel]
      split
      · exact ⟨_, rfl⟩
      · next valid =>
          rw [Time.isZero_iff] at valid
          obtain ⟨e, same⟩ := query_refused db r (r.cancelChecked id now)
            fun served => refused ⟨⟨served.1, valid⟩, served.2⟩
          exact ⟨e, by rw [same]; rfl⟩
  | requestCancelIfVersion ctx id expectedVersion now =>
      simp only [step, requestCancelIfVersion]
      split
      · exact ⟨_, rfl⟩
      · next positive =>
          split
          · exact ⟨_, rfl⟩
          · next valid =>
              rw [Time.isZero_iff] at valid
              obtain ⟨e, same⟩ := query_refused db r
                (r.cancelIfVersionChecked id expectedVersion now)
                fun served => refused ⟨⟨served.1, positive, valid⟩, served.2⟩
              exact ⟨e, by rw [same]; rfl⟩

end JobRepository

/-- The machine of the PostgreSQL repository. -/
def postgresMachine (db : Database) : Machine JobRepository (JobOp String × String) Reply where
  step r call := r.step db call.2 call.1

/-- A database that takes everything and gives texts back as they were. -/
def plainDatabase : Database where
  refuses _ := none
  refusesChange _ := none
  refusesOutput _ := none
  jsonbText text := text
  jsonbOutput output := output

end ControlCenter.Postgres
