import ControlCenter.Library.JsonValue
import ControlCenter.Library.Marshal
import ControlCenter.Library.Table
import ControlCenter.Library.Utf8
import ControlCenter.Orchestration.Change
import ControlCenter.Orchestration.Job.Basic

/-!
# The orchestration server

The state of the server of `internal/orchestration/httpapi` and the functions its
handlers share: `enqueue`, `reconcileJob`, `persistedChange` and `restoreChange`.

The server talks to the job repository and to the durable state through two interfaces.
They are one record of functions here (`Backend`), over any type of stored data. A call
returns the data it leaves and its answer, so it may fail before or after it took effect.

The records of the server are pointers in the source. A function that changes a record
writes it back to the map of changes at once, also when it fails afterwards.
-/

set_option autoImplicit false

namespace ControlCenter.Orchestration

open Library Change

/-! ## Configuration revisions -/

structure Revision where
  id : String
  sequence : UInt64
  createdAt : Time
  content : Bytes
  digest : String
  deriving DecidableEq

/-- One JSON value is written again with its numbers as they are. Other content is kept. -/
def canonicalContent (content : Bytes) : Bytes :=
  match Json.parse (decodeUtf8 content) with
  | none => content
  | some value => (JsonStyle.marshal.toJson (.ofJson value)).bytes

def newRevision (id : String) (sequence : UInt64) (createdAt : Time) (content : Bytes) :
    Except String Revision :=
  if id = "" then .error "revision id is required"
  else if sequence = 0 then .error "revision sequence must be positive"
  else if content = [] then .error "configuration content is empty"
  else if Time.isZero createdAt = true then .error "revision creation time is required"
  else
    let canonical := canonicalContent content
    .ok ⟨id, sequence, createdAt, canonical, "sha256:" ++ sha256Hex canonical⟩

/-! ## The durable boundary -/

structure PersistedRevision where
  id : String
  sequence : UInt64
  digest : String
  content : RawMessage
  createdAt : Time
  createdBy : String
  idempotencyKey : String
  fingerprint : String
  deriving DecidableEq

structure PersistedChange where
  snapshot : Snapshot
  input : RawMessage
  idempotencyKey : String
  fingerprint : String
  jobID : String
  deriving DecidableEq

structure PersistedState where
  revisions : List PersistedRevision
  changes : List PersistedChange

/-- The functions of `StatePersistence` and of `job.Repository` the server calls. -/
structure Backend (Store : Type) where
  load : Store → Context → Store × Except JobError PersistedState
  createRevision : Store → Context → (createdBy key fingerprint : String) → RawMessage → Time →
    Store × Except JobError PersistedRevision
  createChange : Store → Context → PersistedChange →
    Store × Except JobError (PersistedChange × Bool)
  updateChange : Store → Context → PersistedChange → Store × Except JobError Unit
  createJob : Store → Context → CreateRequest → Store × Except JobError (Job × Bool)
  getJob : Store → Context → String → Store × Except JobError Job
  requestCancel : Store → Context → String → Time → Store × Except JobError Job

/-! ## The state of the server -/

structure Server.IdempotencyRecord where
  fingerprint : String
  id : String
  deriving DecidableEq

structure ChangeRecord where
  machine : Snapshot
  input : RawMessage
  idempotencyKey : String
  jobID : String
  deriving DecidableEq

structure Server where
  revisions : Table Revision
  revisionIdempotency : Table Server.IdempotencyRecord
  currentRevision : String
  nextRevision : UInt64
  changes : Table ChangeRecord
  changeIdempotency : Table Server.IdempotencyRecord
  reconciliationCandidates : Table String

/-- A server with the stored data it works on. -/
structure Runtime (Store : Type) where
  server : Server
  store : Store

/-- Why a function of the server fails. -/
inductive ServerError where
  | change (e : ChangeError)
  | store (e : JobError)
  | message (text : String)
  deriving DecidableEq

namespace Server

/-- A server before it has loaded anything. -/
def empty : Server := ⟨∅, ∅, "", 0, ∅, ∅, ∅⟩

/-- The fingerprint under an idempotency key. A missing entry reads as the empty text. -/
def fingerprint (s : Server) (key : String) : String :=
  ((s.changeIdempotency.lookup key).map Server.IdempotencyRecord.fingerprint).getD ""

/-- Write a record back to the map of changes. -/
def put (s : Server) (id : String) (record : ChangeRecord) : Server :=
  { s with changes := s.changes.insert id record }

def addCandidate (s : Server) (changeID jobID : String) : Server :=
  { s with reconciliationCandidates := s.reconciliationCandidates.insert changeID jobID }

def dropCandidate (s : Server) (changeID : String) : Server :=
  { s with reconciliationCandidates := s.reconciliationCandidates.erase changeID }

end Server

def changeStateTerminal (state : State) : Bool :=
  state == .succeeded || state == .failed || state == .cancelled || state == .rejected

/-- The state a change ends in with its job. -/
def terminalChangeState : Status → Option State
  | .succeeded => some .succeeded
  | .failed => some .failed
  | .cancelled => some .cancelled
  | .queued | .running | .retryWait | .cancelRequested => none

def persistedChange (record : ChangeRecord) (fingerprint : String) : PersistedChange where
  snapshot := record.machine
  input := record.input
  idempotencyKey := record.idempotencyKey
  fingerprint := fingerprint
  jobID := record.jobID

/-! ## Restoring a change -/

/-- Approve again, while the change waits for approvals. -/
def restoreApprovals (now : Time) : List Policy.Approval → Snapshot → Except ChangeError Snapshot
  | [], m => .ok m
  | approval :: rest, m =>
      if m.state ≠ .pendingApproval then .ok m
      else
        match m.approve approval m.version now with
        | .error e => .error e
        | .ok m' => restoreApprovals now rest m'

/-- The next state on the way to the persisted one. -/
def restoreNext (persisted : PersistedChange) (m : Snapshot) : Option State :=
  match persisted.snapshot.state with
  | .queued => some .queued
  | .executing => some (if m.state = .approved then .queued else .executing)
  | .verifying | .succeeded =>
      match m.state with
      | .approved => some .queued
      | .queued => some .executing
      | .executing => some .verifying
      | _ => some .succeeded
  | .failed =>
      if m.state = .approved then some .queued
      else if m.state = .queued ∧ 1 < persisted.snapshot.version - m.version then some .executing
      else some .failed
  | .cancelled =>
      if m.state = .approved ∧ persisted.jobID ≠ "" then some .queued
      else if m.state = .queued ∧ 1 < persisted.snapshot.version - m.version then some .executing
      else some .cancelled
  | .pendingApproval | .approved | .rejected => none

theorem transition_distance_lt {m m' : Snapshot} {target : State} {now : Time}
    (moves : m.transition target m.version now = .ok m') :
    m'.state.distance < m.state.distance := by
  rw [Snapshot.transition_self] at moves
  split at moves
  · next step =>
      cases moves
      exact State.distance_lt step
  · cases moves

/-- Move on until the persisted state is reached. Every round leads forward. -/
def restoreLoop (persisted : PersistedChange) (m : Snapshot) : Except ServerError Snapshot :=
  if m.state = persisted.snapshot.state then .ok m
  else
    match restoreNext persisted m with
    | none => .error (.message "persisted change state cannot be restored")
    | some next =>
        match _moves : m.transition next m.version persisted.snapshot.updatedAt with
        | .error e => .error (.change e)
        | .ok m' => restoreLoop persisted m'
termination_by m.state.distance
decreasing_by exact transition_distance_lt _moves

def restoreChange (revisions : Table Revision) (persisted : PersistedChange) :
    Except ServerError ChangeRecord :=
  let snapshot := persisted.snapshot
  match revisions.lookup snapshot.revisionID with
  | none => .error (.message "persisted change references unknown revision")
  | some revision =>
      match Change.new snapshot.id snapshot.action snapshot.requester revision.id
          snapshot.decision snapshot.updatedAt with
      | .error e => .error (.change e)
      | .ok created =>
          match restoreApprovals snapshot.updatedAt snapshot.approvals created with
          | .error e => .error (.change e)
          | .ok approved =>
              match restoreLoop persisted approved with
              | .error e => .error e
              | .ok machine =>
                  if machine.version ≠ snapshot.version then
                    .error (.message "persisted change version failed integrity validation")
                  else .ok ⟨machine, persisted.input, persisted.idempotencyKey, persisted.jobID⟩

/-! ## Queueing the job of a change -/

/-- What `enqueue` takes from the random source and the clock. -/
structure EnqueueDraw where
  jobID : String
  queuedAt : Time
  createdAt : Time

/-- The job a change asks for. -/
def jobRequest (record : ChangeRecord) (draw : EnqueueDraw) : CreateRequest where
  id := "job-" ++ draw.jobID
  changeID := record.machine.id
  actionName := record.machine.action
  input := record.input
  idempotencyKey := "change:" ++ record.idempotencyKey
  maxAttempts := 3
  now := draw.createdAt

/-- The record once its change is queued. -/
def ChangeRecord.queued (record : ChangeRecord) (now : Time) : ChangeRecord :=
  { record with machine := record.machine.moved .queued now }

/-- The record once its job is created. -/
def ChangeRecord.bound (record : ChangeRecord) (jobID : String) : ChangeRecord :=
  { record with jobID := jobID }

namespace Runtime

variable {Store : Type} (B : Backend Store)

/-- Store the record as it is. -/
def persist (w : Runtime Store) (ctx : Context) (record : ChangeRecord) :
    Runtime Store × Except JobError Unit :=
  let result := B.updateChange w.store ctx
    (persistedChange record (w.server.fingerprint record.idempotencyKey))
  (⟨w.server, result.1⟩, result.2)

/-- Bind a queued record to its created job. -/
def bindJob (w : Runtime Store) (ctx : Context) (queued : ChangeRecord) (jobID : String) :
    Runtime Store × Except ServerError Unit :=
  let id := queued.machine.id
  let server := (w.server.put id (queued.bound jobID)).addCandidate id jobID
  let result := persist B ⟨server, w.store⟩ ctx (queued.bound jobID)
  (result.1, result.2.mapError .store)

def enqueue (w : Runtime Store) (ctx : Context) (draw : EnqueueDraw) (record : ChangeRecord) :
    Runtime Store × Except ServerError Unit :=
  let snapshot := record.machine
  if snapshot.state ≠ .approved then (w, .error (.message "change is not approved"))
  else
    match snapshot.transition .queued snapshot.version draw.queuedAt with
    | .error e => (w, .error (.change e))
    | .ok machine =>
        let queued := { record with machine := machine }
        let result := B.createJob w.store ctx (jobRequest record draw)
        let w : Runtime Store := ⟨w.server.put snapshot.id queued, result.1⟩
        match result.2 with
        | .error e => (w, .error (.store e))
        | .ok (created, _) => bindJob B w ctx queued created.id

/-- The queue takes approved changes alone, and their transition is never refused. -/
theorem enqueue_eq (w : Runtime Store) (ctx : Context) (draw : EnqueueDraw)
    (record : ChangeRecord) :
    w.enqueue B ctx draw record =
      if record.machine.state = .approved then
        let result := B.createJob w.store ctx (jobRequest record draw)
        let queued := record.queued draw.queuedAt
        match result.2 with
        | .error e => (⟨w.server.put record.machine.id queued, result.1⟩, .error (.store e))
        | .ok (created, _) =>
            bindJob B ⟨w.server.put record.machine.id queued, result.1⟩ ctx queued created.id
      else (w, .error (.message "change is not approved")) := by
  unfold enqueue
  by_cases approved : record.machine.state = .approved
  · simp [approved, allowed, ChangeRecord.queued]
  · simp [approved]

section Queue

variable {w : Runtime Store} {ctx : Context} {draw : EnqueueDraw} {record : ChangeRecord}
variable (approved : record.machine.state = .approved)
include approved

/-- The change stays queued when its job cannot be created. -/
theorem enqueue_refused {e : JobError}
    (refused : (B.createJob w.store ctx (jobRequest record draw)).2 = .error e) :
    w.enqueue B ctx draw record =
      (⟨w.server.put record.machine.id (record.queued draw.queuedAt),
        (B.createJob w.store ctx (jobRequest record draw)).1⟩, .error (.store e)) := by
  rw [enqueue_eq, if_pos approved]
  dsimp only
  rw [refused]

theorem enqueue_created {created : Job} {isNew : Bool}
    (answer : (B.createJob w.store ctx (jobRequest record draw)).2 = .ok (created, isNew)) :
    w.enqueue B ctx draw record =
      bindJob B ⟨w.server.put record.machine.id (record.queued draw.queuedAt),
        (B.createJob w.store ctx (jobRequest record draw)).1⟩ ctx
        (record.queued draw.queuedAt) created.id := by
  rw [enqueue_eq, if_pos approved]
  dsimp only
  rw [answer]

/-- The record `enqueue` leaves, by the answer to the creation of the job. -/
def enqueued (record : ChangeRecord) (now : Time) :
    Except JobError (Job × Bool) → ChangeRecord
  | .error _ => record.queued now
  | .ok (created, _) => (record.queued now).bound created.id

/-- The queue writes the record of its change alone. -/
theorem enqueue_lookup (id : String) :
    (w.enqueue B ctx draw record).1.server.changes.lookup id =
      if id = record.machine.id then
        some (enqueued record draw.queuedAt (B.createJob w.store ctx (jobRequest record draw)).2)
      else w.server.changes.lookup id := by
  cases answer : (B.createJob w.store ctx (jobRequest record draw)).2 with
  | error e =>
      rw [enqueue_refused B approved answer]
      exact Table.lookup_insert_ite _ _ _ _
  | ok created =>
      have own : (record.queued draw.queuedAt).machine.id = record.machine.id := rfl
      rw [enqueue_created B approved answer]
      dsimp only [bindJob, persist, Server.addCandidate, Server.put, enqueued]
      rw [own, Table.lookup_insert_ite, Table.lookup_insert_ite]
      split <;> rfl

end Queue

end Runtime

/-! ## Following the job of a change -/

namespace Change.Snapshot

/-- The closure `transition` of `reconcileJob`: stay, or move at the current version. The
error of a refused move comes with the unchanged machine. -/
def stepTo (m : Snapshot) (target : State) (now : Time) : Snapshot × Option ChangeError :=
  if m.state = target then (m, none)
  else
    match m.transition target m.version now with
    | .error e => (m, some e)
    | .ok m' => (m', none)

/-- Go on, unless a move was refused. -/
def andThen (r : Snapshot × Option ChangeError)
    (next : Snapshot → Snapshot × Option ChangeError) : Snapshot × Option ChangeError :=
  match r.2 with
  | some e => (r.1, some e)
  | none => next r.1

/-- The moves of `reconcileJob` for the status of a job. -/
def follow (m : Snapshot) (status : Status) (now : Time) : Snapshot × Option ChangeError :=
  if status = .cancelled then
    if m.state ≠ .cancelled then m.stepTo .cancelled now else (m, none)
  else
    let started :=
      if m.state = .queued ∧ status ≠ .queued then m.stepTo .executing now else (m, none)
    andThen started fun m =>
      match status with
      | .succeeded =>
          let verifying :=
            if m.state = .executing then m.stepTo .verifying now else (m, none)
          andThen verifying fun m => m.stepTo .succeeded now
      | .failed => m.stepTo .failed now
      | .cancelRequested | .running | .retryWait | .queued | .cancelled => (m, none)

end Change.Snapshot

namespace Runtime

variable {Store : Type} (B : Backend Store)

/-- The closure `persist` of `reconcileJob`. -/
def persistFollowed (w : Runtime Store) (ctx : Context) (execution : Job)
    (record : ChangeRecord) : Runtime Store × Except ServerError Unit :=
  let result := persist B w ctx record
  match result.2 with
  | .error e =>
      (⟨result.1.server.addCandidate execution.changeID execution.id, result.1.store⟩,
        .error (.store e))
  | .ok () =>
      if execution.status.terminal then
        (⟨result.1.server.dropCandidate execution.changeID, result.1.store⟩, .ok ())
      else (result.1, .ok ())

def reconcileJob (w : Runtime Store) (ctx : Context) (execution : Job) (now : Time) :
    Runtime Store × Except ServerError Unit :=
  if execution.changeID = "" ∨ Time.isZero now = true then
    (w, .error (.message "job change id and reconciliation time are required"))
  else
    match w.server.changes.lookup execution.changeID with
    | none => (w, .error (.message "job references an unknown change"))
    | some record =>
        if terminalChangeState execution.status = some record.machine.state ∧
            execution.changeID ∉ w.server.reconciliationCandidates then
          (w, .ok ())
        else
          let followed := record.machine.follow execution.status now
          let record := { record with machine := followed.1 }
          let w : Runtime Store := ⟨w.server.put execution.changeID record, w.store⟩
          match followed.2 with
          | some e => (w, .error (.change e))
          | none => persistFollowed B w ctx execution record

end Runtime

end ControlCenter.Orchestration
