import ControlCenter.Library.Decimal
import ControlCenter.Orchestration.Server.Basic

/-!
# The handlers of the orchestration server

The requests of `internal/orchestration/httpapi` that write, the periodic sweep over the
reconciliation candidates, and the start of a server over its stored data. A request comes
decoded: a body that is not the JSON the handler expects is `none`. What a handler takes
from the clock and from the random source is part of the request.

Go walks over a map in no particular order. The sweep and the start of a server take the
order of their walk as an argument.
-/

set_option autoImplicit false

namespace ControlCenter.Orchestration

open Library Change Policy

/-- What a server is configured with. -/
structure Config where
  /-- The risk of a registered action. -/
  risk : String → Option Risk
  evaluate : EvaluationInput → Except String Decision

/-- The first value of the bytes is an object that decodes to a map. What follows is not read. -/
def jsonObject (raw : RawMessage) : Bool :=
  let text := decodeUtf8 raw
  match Json.readValue (2 * text.length + 2) Json.maxNesting text with
  | some (.obj members, _) => (Json.obj members).numbers.all Decimal.fitsFloat64
  | _ => false

/-- The answer to a request that failed. -/
structure ErrorResponse where
  status : Nat
  code : String
  message : String
  deriving DecidableEq

def authenticationRequired : ErrorResponse :=
  ⟨401, "authentication_required", "Authentication is required"⟩

def idempotencyConflict : ErrorResponse :=
  ⟨409, "idempotency_conflict", "Idempotency-Key represents different input"⟩

def jobCreationFailed : ErrorResponse :=
  ⟨500, "job_creation_failed", "unable to create durable job"⟩

def idempotencyKey (header : String) : Except ErrorResponse String :=
  if trimSpace header = "" ∨ 200 < (utf8 (trimSpace header)).length then
    .error ⟨400, "invalid_idempotency_key", "Idempotency-Key must contain 1 to 200 characters"⟩
  else .ok (trimSpace header)

structure ChangeView where
  id : String
  action : String
  requester : String
  revisionID : String
  risk : Risk
  state : State
  approvals : List Approval
  version : UInt64
  updatedAt : Time
  jobID : String
  deriving DecidableEq

def viewChange (record : ChangeRecord) : ChangeView where
  id := record.machine.id
  action := record.machine.action
  requester := record.machine.requester
  revisionID := record.machine.revisionID
  risk := record.machine.risk
  state := record.machine.state
  approvals := record.machine.approvals
  version := record.machine.version
  updatedAt := record.machine.updatedAt
  jobID := record.jobID

/-! ## Revisions -/

structure RevisionRequest where
  ctx : Context
  idempotencyKey : String
  actor : Option String
  content : Option RawMessage
  now : Time

/-- The revision an entry of the map that does not exist reads as. -/
def zeroRevision : Revision := ⟨"", 0, 0, [], ""⟩

def Server.addRevision (s : Server) (revision : Revision) (key fingerprint : String) : Server :=
  { s with
    revisions := s.revisions.insert revision.id revision
    revisionIdempotency := s.revisionIdempotency.insert key ⟨fingerprint, revision.id⟩
    nextRevision := if s.nextRevision ≤ revision.sequence then revision.sequence else s.nextRevision
    currentRevision :=
      if s.nextRevision ≤ revision.sequence then revision.id else s.currentRevision }

namespace Runtime

variable {Store : Type} (cfg : Config) (B : Backend Store)

def createRevision (w : Runtime Store) (request : RevisionRequest) :
    Runtime Store × Except ErrorResponse Revision :=
  match idempotencyKey request.idempotencyKey, request.actor,
      request.content.filter jsonObject with
  | .error e, _, _ => (w, .error e)
  | .ok _, none, _ => (w, .error authenticationRequired)
  | .ok _, some _, none =>
      (w, .error ⟨400, "invalid_request", "content must be a JSON object"⟩)
  | .ok key, some actor, some content =>
      let fingerprint := sha256Hex content
      match w.server.revisionIdempotency.lookup key with
      | some previous =>
          if previous.fingerprint ≠ fingerprint then (w, .error idempotencyConflict)
          else (w, .ok ((w.server.revisions.lookup previous.id).getD zeroRevision))
      | none =>
          let result :=
            B.createRevision w.store request.ctx actor key fingerprint content request.now
          let w : Runtime Store := ⟨w.server, result.1⟩
          match result.2 with
          | .error .idempotencyConflict => (w, .error idempotencyConflict)
          | .error _ =>
              (w, .error ⟨500, "revision_persistence_failed",
                "unable to persist configuration revision"⟩)
          | .ok persisted =>
              match newRevision persisted.id persisted.sequence persisted.createdAt
                  persisted.content with
              | .error _ =>
                  (w, .error ⟨500, "invalid_persisted_revision",
                    "persisted revision failed integrity validation"⟩)
              | .ok revision =>
                  if revision.digest ≠ persisted.digest then
                    (w, .error ⟨500, "invalid_persisted_revision",
                      "persisted revision failed integrity validation"⟩)
                  else (⟨w.server.addRevision revision key fingerprint, w.store⟩, .ok revision)

end Runtime

/-! ## Creating a change -/

structure ChangeBody where
  action : String
  input : RawMessage
  revisionID : String

structure ChangeRequest where
  ctx : Context
  idempotencyKey : String
  precondition : String
  actor : Option String
  body : Option ChangeBody
  changeID : String
  now : Time
  draw : EnqueueDraw

/-- A request that passed the checks made before the server is locked. -/
structure ChangeOrder where
  key : String
  precondition : String
  actor : String
  body : ChangeBody
  risk : Risk
  fingerprint : String

/-- The checks on a request alone. -/
def ChangeRequest.check (cfg : Config) (request : ChangeRequest) :
    Except ErrorResponse ChangeOrder :=
  match Orchestration.idempotencyKey request.idempotencyKey with
  | .error e => .error e
  | .ok key =>
      if trimSpace request.precondition = "" then
        .error ⟨428, "revision_precondition_required", "If-Match-Revision is required"⟩
      else
        match request.actor with
        | none => .error authenticationRequired
        | some actor =>
            match request.body.filter fun body =>
                body.action != "" && body.revisionID != "" && jsonObject body.input with
            | none =>
                .error ⟨400, "invalid_request", "action, revisionId, and object input are required"⟩
            | some body =>
                match cfg.risk body.action with
                | none => .error ⟨400, "unknown_action", "action is not registered"⟩
                | some risk =>
                    .ok ⟨key, trimSpace request.precondition, actor, body, risk,
                      sha256Hex (utf8 body.action ++ [0] ++ utf8 body.revisionID ++ [0] ++
                        body.input)⟩

/-- Decide on the change and make it. -/
def ChangeOrder.decide (cfg : Config) (order : ChangeOrder) (s : Server) (changeID : String)
    (now : Time) : Except ErrorResponse ChangeRecord :=
  match s.revisions.lookup order.body.revisionID with
  | none =>
      .error ⟨412, "revision_precondition_failed", "configuration revision is no longer current"⟩
  | some revision =>
      if order.body.revisionID ≠ s.currentRevision ∨ order.precondition ≠ s.currentRevision then
        .error ⟨412, "revision_precondition_failed", "configuration revision is no longer current"⟩
      else
        match cfg.evaluate ⟨order.body.action, order.actor, order.risk⟩ with
        | .error text => .error ⟨422, "policy_evaluation_failed", text⟩
        | .ok decision =>
            match Change.new ("chg-" ++ changeID) order.body.action order.actor revision.id
                decision now with
            | .error e => .error ⟨422, "change_rejected", e.text⟩
            | .ok machine => .ok ⟨machine, order.body.input, order.key, ""⟩

namespace Server

/-- Enter a change into the maps of the server. -/
def enter (s : Server) (id key fingerprint : String) (record : ChangeRecord) : Server :=
  let s : Server :=
    { s with
      changes := s.changes.insert id record
      changeIdempotency := s.changeIdempotency.insert key ⟨fingerprint, id⟩ }
  if record.jobID ≠ "" ∧ changeStateTerminal record.machine.state = false then
    s.addCandidate id record.jobID
  else s

/-- Take a change out of the maps of the server. -/
def forget (s : Server) (id key : String) : Server :=
  { s with
    changes := s.changes.erase id
    changeIdempotency := s.changeIdempotency.erase key
    reconciliationCandidates := s.reconciliationCandidates.erase id }

end Server

namespace Runtime

variable {Store : Type} (cfg : Config) (B : Backend Store)

/-- Store a new change and enter it, or enter the one already stored under its key. -/
def openChange (w : Runtime Store) (ctx : Context) (order : ChangeOrder)
    (fresh : ChangeRecord) : Runtime Store × Except ErrorResponse ChangeRecord :=
  let result := B.createChange w.store ctx (persistedChange fresh order.fingerprint)
  let w : Runtime Store := ⟨w.server, result.1⟩
  match result.2 with
  | .error .idempotencyConflict => (w, .error idempotencyConflict)
  | .error _ => (w, .error ⟨500, "change_persistence_failed", "unable to persist change"⟩)
  | .ok (_, true) =>
      (⟨w.server.enter fresh.machine.id order.key order.fingerprint fresh, w.store⟩, .ok fresh)
  | .ok (persisted, false) =>
      match restoreChange w.server.revisions persisted with
      | .error _ =>
          (w, .error ⟨500, "invalid_persisted_change",
            "persisted change failed integrity validation"⟩)
      | .ok record =>
          (⟨w.server.enter persisted.snapshot.id order.key order.fingerprint record, w.store⟩,
            .ok record)

/-- The record as the server holds it now. -/
def current (w : Runtime Store) (record : ChangeRecord) : ChangeRecord :=
  (w.server.changes.lookup record.machine.id).getD record

/-- Queue the job of an opened change. A change without a job is forgotten again. -/
def queueOpened (w : Runtime Store) (request : ChangeRequest) (key : String)
    (record : ChangeRecord) : Runtime Store × Except ErrorResponse ChangeView :=
  if record.machine.state = .approved ∧ record.jobID = "" then
    let result := w.enqueue B request.ctx request.draw record
    match result.2 with
    | .ok () => (result.1, .ok (viewChange (result.1.current record)))
    | .error _ =>
        if (result.1.current record).jobID = "" then
          (⟨result.1.server.forget record.machine.id key, result.1.store⟩, .error jobCreationFailed)
        else (result.1, .error jobCreationFailed)
  else (w, .ok (viewChange record))

/-- The record a repeated request is answered with. The entry always exists: the maps of
changes and of keys are written together. -/
def answerAgain (w : Runtime Store) (order : ChangeOrder)
    (previous : Server.IdempotencyRecord) : Except ErrorResponse ChangeView :=
  if previous.fingerprint ≠ order.fingerprint then .error idempotencyConflict
  else
    match w.server.changes.lookup previous.id with
    | none => .error ⟨500, "", ""⟩
    | some record => .ok (viewChange record)

def createChange (w : Runtime Store) (request : ChangeRequest) :
    Runtime Store × Except ErrorResponse ChangeView :=
  match request.check cfg with
  | .error e => (w, .error e)
  | .ok order =>
      match w.server.changeIdempotency.lookup order.key with
      | some previous => (w, w.answerAgain order previous)
      | none =>
          match order.decide cfg w.server request.changeID request.now with
          | .error e => (w, .error e)
          | .ok fresh =>
              let result := w.openChange B request.ctx order fresh
              match result.2 with
              | .error e => (result.1, .error e)
              | .ok record => queueOpened B result.1 request order.key record

end Runtime

/-! ## Approving a change -/

structure ApprovalRequest where
  ctx : Context
  actor : Option String
  ifMatch : String
  changeID : String
  approvedAt : Time
  now : Time
  draw : EnqueueDraw

/-- The version of the `If-Match` header. -/
def ApprovalRequest.version (request : ApprovalRequest) : Option UInt64 :=
  (parseUint (trimChar '"' (trimSpace request.ifMatch))).filter fun version => version != 0

/-- The approval by an actor that the routing let through. -/
def ApprovalRequest.approval (request : ApprovalRequest) (actor : String) : Approval :=
  ⟨actor, ["orchestration.changes.approve"], request.approvedAt⟩

namespace Runtime

variable {Store : Type} (cfg : Config) (B : Backend Store)

/-- Approve and store the change. -/
def recordApproval (w : Runtime Store) (request : ApprovalRequest) :
    Runtime Store × Except ErrorResponse ChangeRecord :=
  match request.actor, request.version with
  | none, _ => (w, .error authenticationRequired)
  | some _, none =>
      (w, .error ⟨400, "invalid_version", "If-Match must be a positive change version"⟩)
  | some actor, some version =>
      match w.server.changes.lookup request.changeID with
      | none => (w, .error ⟨404, "change_not_found", "change was not found"⟩)
      | some record =>
          match record.machine.approve (request.approval actor) version request.now with
          | .error e => (w, .error ⟨409, "change_conflict", e.text⟩)
          | .ok machine =>
              let record := { record with machine := machine }
              let w : Runtime Store := ⟨w.server.put request.changeID record, w.store⟩
              let result := w.persist B request.ctx record
              match result.2 with
              | .error _ =>
                  (result.1, .error ⟨500, "change_persistence_failed",
                    "unable to persist approval"⟩)
              | .ok () => (result.1, .ok record)

def approveChange (w : Runtime Store) (request : ApprovalRequest) :
    Runtime Store × Except ErrorResponse ChangeView :=
  let recorded := w.recordApproval B request
  match recorded.2 with
  | .error e => (recorded.1, .error e)
  | .ok record =>
      if record.machine.state = .approved ∧ record.jobID = "" then
        let result := recorded.1.enqueue B request.ctx request.draw record
        match result.2 with
        | .error _ => (result.1, .error jobCreationFailed)
        | .ok () => (result.1, .ok (viewChange (result.1.current record)))
      else (recorded.1, .ok (viewChange record))

end Runtime

/-! ## Cancelling a job -/

structure CancelRequest where
  ctx : Context
  jobID : String
  now : Time
  reconciledAt : Time

namespace Runtime

variable {Store : Type} (cfg : Config) (B : Backend Store)

def cancelJob (w : Runtime Store) (request : CancelRequest) :
    Runtime Store × Except ErrorResponse Job :=
  let result := B.requestCancel w.store request.ctx request.jobID request.now
  let w : Runtime Store := ⟨w.server, result.1⟩
  match result.2 with
  | .error .notFound => (w, .error ⟨404, "job_not_found", "job was not found"⟩)
  | .error _ => (w, .error ⟨500, "job_cancel_failed", "unable to cancel job"⟩)
  | .ok job =>
      if job.status = .cancelled then
        let reconciled := w.reconcileJob B .background job request.reconciledAt
        match reconciled.2 with
        | .error _ =>
            (reconciled.1, .error ⟨500, "change_reconciliation_failed",
              "job was cancelled but change reconciliation failed"⟩)
        | .ok () => (reconciled.1, .ok job)
      else (w, .ok job)

end Runtime

/-! ## The sweep over the candidates -/

/-- Why a candidate was not reconciled. -/
inductive SweepError where
  | read (jobID changeID : String) (e : JobError)
  | foreign (jobID changeID expected : String)
  | reconcile (jobID : String) (e : ServerError)

namespace Runtime

variable {Store : Type} (cfg : Config) (B : Backend Store)

/-- The candidates, in the order of the walk. -/
def candidates (w : Runtime Store) (order : List String) : List (String × String) :=
  order.filterMap fun changeID =>
    (w.server.reconciliationCandidates.lookup changeID).map fun jobID => (changeID, jobID)

/-- Reconcile one candidate. -/
def sweepCandidate (w : Runtime Store) (ctx : Context) (now : Time)
    (candidate : String × String) : Runtime Store × List SweepError :=
  let result := B.getJob w.store ctx candidate.2
  let w : Runtime Store := ⟨w.server, result.1⟩
  match result.2 with
  | .error e => (w, [.read candidate.2 candidate.1 e])
  | .ok execution =>
      if execution.status.terminal = false then (w, [])
      else if execution.changeID ≠ candidate.1 then
        (w, [.foreign execution.id execution.changeID candidate.1])
      else
        let reconciled := w.reconcileJob B ctx execution now
        match reconciled.2 with
        | .error e => (reconciled.1, [.reconcile execution.id e])
        | .ok () => (reconciled.1, [])

/-- Reconcile the candidates one by one, and go on after an error. -/
def sweepCandidates (ctx : Context) (now : Time) :
    List (String × String) → Runtime Store → Runtime Store × List SweepError
  | [], w => (w, [])
  | candidate :: rest, w =>
      let first := w.sweepCandidate B ctx now candidate
      let others := sweepCandidates ctx now rest first.1
      (others.1, first.2 ++ others.2)

/-- The sweep, or `none` when it is called without a time. -/
def reconcileTerminalJobs (w : Runtime Store) (ctx : Context) (now : Time)
    (order : List String) : Runtime Store × Option (List SweepError) :=
  if Time.isZero now = true then (w, none)
  else
    let result := sweepCandidates B ctx now (w.candidates order) w
    (result.1, some result.2)

end Runtime

/-! ## Starting a server -/

/-- What the start of a server takes from outside. -/
structure StartInputs where
  ctx : Context
  order : List String
  draw : String → EnqueueDraw
  sweepOrder : List String
  now : Time

/-- Why a server does not start. -/
inductive StartError where
  | load (e : JobError)
  | invalidRevision
  | change (e : ServerError)
  | reconciliation (errors : Option (List SweepError))

namespace Server

def loadRevision (s : Server) (persisted : PersistedRevision) :
    Except StartError Server :=
  match newRevision persisted.id persisted.sequence persisted.createdAt persisted.content with
  | .error _ => .error .invalidRevision
  | .ok revision =>
      if revision.digest ≠ persisted.digest then .error .invalidRevision
      else
        .ok { s with
          revisions := s.revisions.insert revision.id revision
          revisionIdempotency :=
            s.revisionIdempotency.insert persisted.idempotencyKey
              ⟨persisted.fingerprint, revision.id⟩
          nextRevision :=
            if s.nextRevision < revision.sequence then revision.sequence else s.nextRevision
          currentRevision :=
            if s.nextRevision < revision.sequence then revision.id else s.currentRevision }

def loadChange (s : Server) (persisted : PersistedChange) : Except StartError Server :=
  match restoreChange s.revisions persisted with
  | .error e => .error (.change e)
  | .ok record =>
      .ok (s.enter persisted.snapshot.id persisted.idempotencyKey persisted.fingerprint record)

/-- The server that holds everything loaded. -/
def load (loaded : PersistedState) : Except StartError Server :=
  match loaded.revisions.foldlM loadRevision Server.empty with
  | .error e => .error e
  | .ok s => loaded.changes.foldlM loadChange s

end Server

namespace Runtime

variable {Store : Type} (cfg : Config) (B : Backend Store)

/-- Queue the jobs of the approved changes without a job, up to the first that fails. -/
def enqueueApproved (ctx : Context) (draw : String → EnqueueDraw) :
    List String → Runtime Store → Runtime Store × Except ServerError Unit
  | [], w => (w, .ok ())
  | id :: rest, w =>
      match w.server.changes.lookup id with
      | none => enqueueApproved ctx draw rest w
      | some record =>
          if record.machine.state = .approved ∧ record.jobID = "" then
            let result := w.enqueue B ctx (draw id) record
            match result.2 with
            | .error e => (result.1, .error e)
            | .ok () => enqueueApproved ctx draw rest result.1
          else enqueueApproved ctx draw rest w

/-- `New`: the store it leaves, and the server unless it does not start. -/
def start (store : Store) (inputs : StartInputs) : Store × Except StartError Server :=
  let loaded := B.load store inputs.ctx
  match loaded.2 with
  | .error e => (loaded.1, .error (.load e))
  | .ok state =>
      match Server.load state with
      | .error e => (loaded.1, .error e)
      | .ok server =>
          let queued := enqueueApproved B inputs.ctx inputs.draw inputs.order ⟨server, loaded.1⟩
          match queued.2 with
          | .error e => (queued.1.store, .error (.change e))
          | .ok () =>
              let swept :=
                queued.1.reconcileTerminalJobs B inputs.ctx inputs.now inputs.sweepOrder
              match swept.2 with
              | some [] => (swept.1.store, .ok swept.1.server)
              | errors => (swept.1.store, .error (.reconciliation errors))

end Runtime

end ControlCenter.Orchestration
