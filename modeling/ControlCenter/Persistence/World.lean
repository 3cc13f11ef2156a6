import ControlCenter.Orchestration.Server.Approval
import ControlCenter.Orchestration.Server.Restore
import ControlCenter.Persistence.Postgres.Bindings

/-!
# The server, the workers and the database

A world is a database and the server that runs on it, if one does. Requests reach the
server one at a time, since its handlers hold its lock; workers and operators call the job
repository at any time, also between two calls of one handler. A start replaces the server
by one that is loaded from the database: it is also how a crash ends.

The sweep of the server does not hold the lock throughout, and neither does the request that
cancels a job. Their parts are `work` and `reconcileJob` with any job, so a run can
interleave them with everything else.

Every handler keeps what the server knows of its changes in line with the database
(`Coherent`). Only a request for approval whose job cannot be created leaves a change past
its approval without a job (`World.step_sound`).
-/

set_option autoImplicit false

namespace ControlCenter.Persistence

open Library Orchestration Change Policy Postgres

/-! ## Worlds -/

structure World where
  server : Option Server
  store : Store

/-- An empty database, before a server is started. -/
def World.new : World := ⟨none, .new⟩

inductive WorldOp where
  | createRevision (request : RevisionRequest) (script : List CallInput)
  | createChange (request : ChangeRequest) (script : List CallInput)
  | approveChange (request : ApprovalRequest) (script : List CallInput)
  | cancelJob (request : CancelRequest) (script : List CallInput)
  | reconcileJob (ctx : Context) (execution : Job) (now : Time) (script : List CallInput)
  | reconcileTerminalJobs (ctx : Context) (now : Time) (order : List String)
      (script : List CallInput)
  | work (call : WorkerCall)
  | start (inputs : StartInputs) (script : List CallInput)

inductive Answer where
  | revision (result : Except ErrorResponse Revision)
  | change (result : Except ErrorResponse ChangeView)
  | job (result : Except ErrorResponse Job)
  | reconciled (result : Except ServerError Unit)
  | swept (result : Option (List SweepError))
  | worked (reply : Reply)
  | started (result : Option StartError)
  /-- No server is running. -/
  | down

namespace World

/-- Let the server handle a request. -/
def serve {α : Type} (w : World) (script : List CallInput)
    (handle : Runtime Link → Runtime Link × α) (answer : α → Answer) : World × Answer :=
  match w.server with
  | none => (w, .down)
  | some server =>
      let result := handle ⟨server, ⟨w.store, script⟩⟩
      (⟨some result.1.server, result.1.store.store⟩, answer result.2)

def step (cfg : Config) (db : Database) (w : World) : WorldOp → World × Answer
  | .createRevision request script =>
      w.serve script (fun r => r.createRevision (backend db) request) .revision
  | .createChange request script =>
      w.serve script (fun r => r.createChange cfg (backend db) request) .change
  | .approveChange request script =>
      w.serve script (fun r => r.approveChange (backend db) request) .change
  | .cancelJob request script =>
      w.serve script (fun r => r.cancelJob (backend db) request) .job
  | .reconcileJob ctx execution now script =>
      w.serve script (fun r => r.reconcileJob (backend db) ctx execution now) .reconciled
  | .reconcileTerminalJobs ctx now order script =>
      w.serve script (fun r => r.reconcileTerminalJobs (backend db) ctx now order) .swept
  | .work call =>
      (⟨w.server, w.store.work db call⟩, .worked (w.store.jobs.step db call.random call.op).2)
  | .start inputs script =>
      let result := Runtime.start (backend db) ⟨w.store, script⟩ inputs
      match result.2 with
      | .error e => (⟨none, result.1.store⟩, .started (some e))
      | .ok server => (⟨some server, result.1.store⟩, .started none)

end World

def worldMachine (cfg : Config) (db : Database) : Machine World WorldOp Answer where
  step := World.step cfg db

/-! ## What the server knows -/

/-- The tables agree, and every record of the server may be written as it is. -/
structure Coherent (db : Database) (strict : Prop) (s : Server) (st : Store) : Prop where
  sound : st.Sound db strict
  records : ∀ id record, s.changes.lookup id = some record →
    record.machine.id = id ∧ st.Writes db strict record

namespace Coherent

variable {db : Database} {strict : Prop} {s s' : Server} {st st' : Store}

theorem grow (coherent : Coherent db strict s st) (kept : st'.Sound db strict ∧ st.Grows st') :
    Coherent db strict s st' := by
  refine ⟨kept.1, fun id record held => ?_⟩
  obtain ⟨own, writes⟩ := coherent.records id record held
  exact ⟨own, writes.grow kept.2⟩

/-- Records may be dropped, and written. -/
theorem of_lookup (coherent : Coherent db strict s st)
    (records : ∀ id record, s'.changes.lookup id = some record →
      s.changes.lookup id = some record ∨ record.machine.id = id ∧ st.Writes db strict record) :
    Coherent db strict s' st := by
  refine ⟨coherent.sound, fun id record held => ?_⟩
  rcases records id record held with before | fresh
  · exact coherent.records id record before
  · exact fresh

theorem of_changes (coherent : Coherent db strict s st) (same : s'.changes = s.changes) :
    Coherent db strict s' st :=
  coherent.of_lookup fun _ _ held => .inl (same ▸ held)

theorem put (coherent : Coherent db strict s st) {id : String} {record : ChangeRecord}
    (own : record.machine.id = id) (writes : st.Writes db strict record) :
    Coherent db strict (s.put id record) st := by
  refine coherent.of_lookup fun id' record' held => ?_
  rw [Server.put, Table.lookup_insert_ite] at held
  split at held
  · next same =>
      cases held
      exact .inr ⟨own.trans same.symm, writes⟩
  · exact .inl held

theorem enter (coherent : Coherent db strict s st) {id : String} {record : ChangeRecord}
    (own : record.machine.id = id) (writes : st.Writes db strict record)
    (key fingerprint : String) :
    Coherent db strict (s.enter id key fingerprint record) st := by
  refine (coherent.put own writes).of_changes ?_
  unfold Server.enter
  dsimp only
  split <;> rfl

end Coherent

/-! ## Following a job -/

/-- The change is the same, and was past its approval before if it is now. -/
structure SameWork (m m' : Snapshot) : Prop where
  id : m'.id = m.id
  action : m'.action = m.action
  active : m'.state.active = true → m.state.active = true

theorem SameWork.refl (m : Snapshot) : SameWork m m := ⟨rfl, rfl, fun active => active⟩

theorem SameWork.trans {first second third : Snapshot} (earlier : SameWork first second)
    (later : SameWork second third) : SameWork first third where
  id := later.id.trans earlier.id
  action := later.action.trans earlier.action
  active active := earlier.active (later.active active)

/-- A job takes a change past its approval only from there: it never queues it. -/
theorem stepTo_sameWork (m : Snapshot) (target : State) (other : target ≠ .queued) (now : Time) :
    SameWork m (m.stepTo target now).1 := by
  unfold Snapshot.stepTo
  split
  · exact .refl m
  · rw [Snapshot.transition_self]
    split
    · exact .refl m
    · next moved =>
        split at moved
        · next step =>
            cases moved
            refine ⟨rfl, rfl, fun active => ?_⟩
            rw [Snapshot.moved_state] at active
            cases target <;> cases source : m.state <;> simp_all [State.active, allowed]
        · cases moved

theorem andThen_sameWork {m : Snapshot} {first : Snapshot × Option ChangeError}
    {next : Snapshot → Snapshot × Option ChangeError} (earlier : SameWork m first.1)
    (later : ∀ m, SameWork m (next m).1) : SameWork m (Snapshot.andThen first next).1 := by
  unfold Snapshot.andThen
  split
  · exact earlier
  · exact earlier.trans (later first.1)

theorem follow_sameWork (m : Snapshot) (status : Status) (now : Time) :
    SameWork m (m.follow status now).1 := by
  have optional : ∀ (m : Snapshot) (condition : Prop) [Decidable condition] (target : State),
      target ≠ .queued →
      SameWork m (if condition then m.stepTo target now else (m, none)).1 := by
    intro m condition _ target other
    split
    · exact stepTo_sameWork m target other now
    · exact .refl m
  unfold Snapshot.follow
  split
  · exact optional m _ .cancelled (by decide)
  · refine andThen_sameWork (optional m _ .executing (by decide)) fun m => ?_
    cases status with
    | succeeded =>
        exact andThen_sameWork (optional m _ .verifying (by decide))
          fun m => stepTo_sameWork m .succeeded (by decide) now
    | failed => exact stepTo_sameWork m .failed (by decide) now
    | queued => exact .refl m
    | running => exact .refl m
    | retryWait => exact .refl m
    | cancelRequested => exact .refl m
    | cancelled => exact .refl m

/-! ## The handlers -/

section Handlers

variable (db : Database) {strict : Prop} {w : Runtime Link}

variable {db} in
theorem writes_of_machine {st : Store} {record : ChangeRecord} (writes : st.Writes db strict record)
    {m : Snapshot} (same : SameWork record.machine m) :
    st.Writes db strict { record with machine := m } := by
  obtain ⟨⟨⟨row, found, own⟩, job⟩, named⟩ := writes
  refine ⟨⟨⟨row, ?_, own.action.trans same.action.symm, own.input, own.idempotencyKey⟩, ?_⟩,
    fun asked active => named asked (same.active active)⟩
  · dsimp only
    rw [same.id]
    exact found
  · dsimp only
    rw [same.id]
    exact job

theorem reconcileJob_coherent (coherent : Coherent db strict w.server w.store.store) (ctx : Context)
    (execution : Job) (now : Time) :
    let result := w.reconcileJob (backend db) ctx execution now
    Coherent db strict result.1.server result.1.store.store := by
  unfold Runtime.reconcileJob
  split
  · exact coherent
  · split
    · exact coherent
    · next record held =>
        obtain ⟨own, writes⟩ := coherent.records _ record held
        have same := follow_sameWork record.machine execution.status now
        have followed := writes_of_machine writes same
        have put := coherent.put (same.id.trans own) followed
        split
        · exact coherent
        · dsimp only
          split
          · exact put
          · rw [persistFollowed_store]
            exact (put.of_changes persistFollowed_changes).grow
              (backend_updateChange db coherent.sound followed ctx _)

/-- The queue leaves a record the server may not write only when the job is refused. -/
theorem enqueue_keeps (coherent : Coherent db strict w.server w.store.store) {record : ChangeRecord}
    (writes : w.store.store.Writes db strict record) (approved : record.machine.state = .approved)
    (ctx : Context) (draw : EnqueueDraw) :
    let result := w.enqueue (backend db) ctx draw record
    (result.1.store.store.Sound db strict ∧ w.store.store.Grows result.1.store.store) ∧
      ((strict → ∀ e,
          ((backend db).createJob w.store ctx (jobRequest record draw)).2 ≠ .error e) →
        Coherent db strict result.1.server result.1.store.store) := by
  obtain ⟨kept, job⟩ := backend_createJob db coherent.sound writes.knows ctx draw
  cases answer : ((backend db).createJob w.store ctx (jobRequest record draw)).2 with
  | error e =>
      rw [Runtime.enqueue_refused _ approved answer]
      refine ⟨kept, fun accepted => (coherent.grow kept).put rfl ⟨?_, fun asked => ?_⟩⟩
      · exact (writes.knows.grow kept.2).queued draw.queuedAt
      · exact absurd rfl (accepted asked e)
  | ok created =>
      obtain ⟨created, isNew⟩ := created
      obtain ⟨some, belongs⟩ := job created isNew answer
      have bound : ((backend db).createJob w.store ctx
          (jobRequest record draw)).1.store.Writes db strict
            ((record.queued draw.queuedAt).bound created.id) :=
        ⟨((writes.knows.grow kept.2).queued draw.queuedAt).bound fun _ => belongs, fun _ _ => some⟩
      have stored := backend_updateChange db kept.1 bound ctx
        (w.server.fingerprint record.idempotencyKey)
      have left : (w.enqueue (backend db) ctx draw record).1.store =
          ((backend db).updateChange ((backend db).createJob w.store ctx
            (jobRequest record draw)).1 ctx (persistedChange
              ((record.queued draw.queuedAt).bound created.id)
              (w.server.fingerprint record.idempotencyKey))).1 := by
        rw [Runtime.enqueue_created _ approved answer]
        rfl
      dsimp only
      rw [left]
      refine ⟨⟨stored.1, kept.2.trans stored.2⟩, fun _ => ?_⟩
      refine ((coherent.grow kept).of_lookup fun id record' held => ?_).grow stored
      rw [Runtime.enqueue_lookup _ approved, answer] at held
      split at held
      · next same =>
          cases held
          exact .inr ⟨same.symm, bound⟩
      · exact .inl held

theorem enqueue_created_of_ok {record : ChangeRecord}
    (approved : record.machine.state = .approved) {ctx : Context} {draw : EnqueueDraw}
    (ok : (w.enqueue (backend db) ctx draw record).2 = .ok ()) (e : JobError) :
    ((backend db).createJob w.store ctx (jobRequest record draw)).2 ≠ .error e := by
  intro refused
  rw [Runtime.enqueue_refused _ approved refused] at ok
  cases ok

theorem createRevision_coherent (coherent : Coherent db strict w.server w.store.store)
    (request : RevisionRequest) :
    let result := w.createRevision (backend db) request
    Coherent db strict result.1.server result.1.store.store := by
  unfold Runtime.createRevision
  split
  · exact coherent
  · exact coherent
  · exact coherent
  · next key actor content _ _ _ =>
      dsimp only
      split
      · split <;> exact coherent
      · have stored := coherent.grow (backend_createRevision db coherent.sound request.ctx actor
          key (sha256Hex content) content request.now)
        split
        · exact stored
        · exact stored
        · split
          · exact stored
          · split
            · exact stored
            · exact stored.of_changes rfl

/-! ### Creating a change -/

variable {db} in
/-- A restored record may be written. -/
theorem restoreChange_writes {st : Store} (sound : st.Sound db strict) {id : String}
    {persisted : PersistedChange} (loaded : st.state.loadChange id = some persisted)
    {revisions : Table Revision} {record : ChangeRecord}
    (restored : restoreChange revisions persisted = .ok record) :
    record.machine.id = persisted.snapshot.id ∧ st.Writes db strict record := by
  have restores := restoreChange_identity restored
  obtain ⟨row, found, rfl⟩ := Option.map_eq_some_iff.mp loaded
  have same : record.machine.id = id := restores.id.trans (sound.changeID id row found)
  obtain ⟨job, named⟩ := sound.bound id row found
  refine ⟨restores.id, ⟨⟨row, same ▸ found, restores.action.symm, .inl restores.input.symm,
    restores.idempotencyKey.symm⟩, ?_⟩, ?_⟩
  · rw [restores.jobID, same]
    exact job
  · rw [restores.jobID, restores.state]
    exact named

/-- A change that is decided on has just been made, and has no job. -/
theorem decide_made {cfg : Config} {order : ChangeOrder} {s : Server} {changeID : String}
    {now : Time} {fresh : ChangeRecord} (decided : order.decide cfg s changeID now = .ok fresh) :
    fresh.jobID = "" ∧ ∃ id action requester revisionID decision,
      Change.new id action requester revisionID decision now = .ok fresh.machine := by
  unfold ChangeOrder.decide at decided
  split at decided
  · cases decided
  · split at decided
    · cases decided
    · split at decided
      · cases decided
      · split at decided
        · cases decided
        · next made =>
            cases decided
            exact ⟨rfl, _, _, _, _, _, made⟩

theorem decide_fresh {cfg : Config} {order : ChangeOrder} {s : Server} {changeID : String}
    {now : Time} {fresh : ChangeRecord} (decided : order.decide cfg s changeID now = .ok fresh) :
    fresh.jobID = "" ∧ fresh.machine.state.active = false := by
  obtain ⟨unbound, id, action, requester, revisionID, decision, made⟩ := decide_made decided
  obtain ⟨-, -, -, machine⟩ := new_eq_ok.mp made
  rw [machine]
  exact ⟨unbound, initialState_inactive _⟩

theorem openChange_coherent (coherent : Coherent db strict w.server w.store.store)
    {fresh : ChangeRecord} (unbound : fresh.jobID = "")
    (inactive : fresh.machine.state.active = false) (ctx : Context)
    (order : ChangeOrder) :
    let result := w.openChange (backend db) ctx order fresh
    Coherent db strict result.1.server result.1.store.store ∧
      ∀ record, result.2 = .ok record → result.1.store.store.Writes db strict record := by
  obtain ⟨kept, created, existing⟩ :=
    backend_createChange db coherent.sound unbound inactive ctx order.fingerprint
  have stored := coherent.grow kept
  unfold Runtime.openChange
  dsimp only
  split
  · refine ⟨stored, ?_⟩
    rintro record ⟨⟩
  · refine ⟨stored, ?_⟩
    rintro record ⟨⟩
  · next persisted answer =>
      have writes : Store.Writes _ db strict fresh :=
        ⟨created persisted answer, fun _ active => by rw [inactive] at active; cases active⟩
      refine ⟨stored.enter rfl writes _ _, ?_⟩
      rintro record ⟨⟩
      exact writes
  · next persisted answer =>
      obtain ⟨id, loaded⟩ := existing persisted answer
      split
      · refine ⟨stored, ?_⟩
        rintro record ⟨⟩
      · next record restored =>
          obtain ⟨own, writes⟩ := restoreChange_writes kept.1 loaded restored
          refine ⟨stored.enter own writes _ _, ?_⟩
          rintro record' ⟨⟩
          exact writes

variable {db} in
theorem Coherent.forget {s : Server} {st : Store} (coherent : Coherent db strict s st)
    (id key : String) :
    Coherent db strict (s.forget id key) st := by
  refine coherent.of_lookup fun id' record held => .inl ?_
  by_cases same : id' = id
  · subst same
    rw [Server.forget, AList.lookup_erase] at held
    cases held
  · rwa [Server.forget, AList.lookup_erase_ne same] at held

/-- A change whose job is refused is forgotten. -/
theorem queueOpened_coherent (coherent : Coherent db strict w.server w.store.store)
    {record : ChangeRecord} (writes : w.store.store.Writes db strict record)
    (request : ChangeRequest)
    (key : String) :
    let result := w.queueOpened (backend db) request key record
    Coherent db strict result.1.server result.1.store.store := by
  unfold Runtime.queueOpened
  split
  · next waits =>
      obtain ⟨approved, unbound⟩ := waits
      obtain ⟨kept, queued⟩ := enqueue_keeps db coherent writes approved request.ctx
        request.draw
      cases answer : ((backend db).createJob w.store request.ctx
          (jobRequest record request.draw)).2 with
      | ok created =>
          have queued := queued fun _ e refused => by cases answer.symm.trans refused
          dsimp only
          split
          · exact queued
          · split
            · exact queued.forget _ _
            · exact queued
      | error e =>
          have refused := Runtime.enqueue_refused (backend db) approved answer
          have current : ((w.enqueue (backend db) request.ctx request.draw record).1.current
              record).jobID = "" := by
            rw [Runtime.current, Runtime.enqueue_lookup _ approved, if_pos rfl, answer]
            exact unbound
          dsimp only
          rw [if_pos current]
          split
          · next ok =>
              rw [refused] at ok
              cases ok
          · refine ((coherent.forget record.machine.id key).of_changes ?_).grow kept
            rw [refused]
            exact AList.ext (List.kerase_cons_eq rfl)
  · exact coherent

theorem createChange_coherent (cfg : Config) (coherent : Coherent db strict w.server w.store.store)
    (request : ChangeRequest) :
    let result := w.createChange cfg (backend db) request
    Coherent db strict result.1.server result.1.store.store := by
  unfold Runtime.createChange
  split
  · exact coherent
  · next order checked =>
      split
      · exact coherent
      · split
        · exact coherent
        · next fresh decided =>
            obtain ⟨unbound, inactive⟩ := decide_fresh decided
            obtain ⟨opened, writes⟩ :=
              openChange_coherent db coherent unbound inactive request.ctx order
            dsimp only
            split
            · exact opened
            · next record answer =>
                exact queueOpened_coherent db opened (writes record answer) request order.key

/-! ### Approving a change -/

variable {db} in
theorem approvedBy_writes {st : Store} {record : ChangeRecord} (writes : st.Writes db strict record)
    (request : ApprovalRequest) (actor : String) :
    st.Writes db strict (record.approvedBy request actor) := by
  refine writes_of_machine writes ⟨rfl, rfl, fun active => ?_⟩
  unfold Snapshot.withApproval at active
  dsimp only at active
  split at active
  · cases active
  · exact active

/-- **Only a refused job breaks what the server knows.** -/
theorem approveChange_coherent (coherent : Coherent db strict w.server w.store.store)
    (request : ApprovalRequest)
    (accepted : strict → ∀ actor record, w.Approves request actor record →
      ¬ w.JobRefused (backend db) request actor record) :
    let result := w.approveChange (backend db) request
    Coherent db strict result.1.server result.1.store.store := by
  rcases Runtime.recordApproval_cases (B := backend db) request with
    ⟨-, e, refused⟩ | ⟨actor, record, approves, -⟩
  · unfold Runtime.approveChange
    rw [refused]
    exact coherent
  · obtain ⟨own, writes⟩ := coherent.records _ record approves.held
    have approved := approvedBy_writes writes request actor
    have named : (record.approvedBy request actor).machine.id = request.changeID := own
    have kept := backend_updateChange db coherent.sound approved request.ctx
      (w.server.fingerprint record.idempotencyKey)
    have recorded : Coherent db strict
        (w.approvalRecorded (backend db) request actor record).server
        (w.approvalRecorded (backend db) request actor record).store.store :=
      (coherent.put named approved).grow kept
    by_cases decides : w.Decides (backend db) request actor record
    · obtain ⟨left, -⟩ := Runtime.approveChange_decides approves decides
      dsimp only
      rw [left]
      refine (enqueue_keeps db recorded (approved.grow kept.2) decides.approved request.ctx
        request.draw).2 fun asked e refused => ?_
      exact accepted asked actor record approves ⟨decides, e, refused⟩
    · obtain ⟨left, -⟩ := Runtime.approveChange_undecided approves decides
      dsimp only
      rw [left]
      exact recorded

/-! ### Cancellation and the sweep -/

theorem cancelJob_coherent (coherent : Coherent db strict w.server w.store.store)
    (request : CancelRequest) :
    let result := w.cancelJob (backend db) request
    Coherent db strict result.1.server result.1.store.store := by
  have cancelled := coherent.grow (backend_requestCancel db coherent.sound request.ctx
    request.jobID request.now)
  unfold Runtime.cancelJob
  dsimp only
  split
  · exact cancelled
  · exact cancelled
  · next job _ =>
      split
      · have reconciled := reconcileJob_coherent db (w := ⟨w.server, ((backend db).requestCancel
          w.store request.ctx request.jobID request.now).1⟩) cancelled .background job
          request.reconciledAt
        split <;> exact reconciled
      · exact cancelled

theorem sweepCandidate_coherent (coherent : Coherent db strict w.server w.store.store)
    (ctx : Context)
    (now : Time) (candidate : String × String) :
    let result := w.sweepCandidate (backend db) ctx now candidate
    Coherent db strict result.1.server result.1.store.store := by
  have read := coherent.grow (backend_getJob db coherent.sound ctx candidate.2)
  unfold Runtime.sweepCandidate
  dsimp only
  split
  · exact read
  · next execution _ =>
      split
      · exact read
      · split
        · exact read
        · have reconciled := reconcileJob_coherent db (w := ⟨w.server, ((backend db).getJob
            w.store ctx candidate.2).1⟩) read ctx execution now
          split <;> exact reconciled

theorem sweepCandidates_coherent (coherent : Coherent db strict w.server w.store.store)
    (ctx : Context)
    (now : Time) (candidates : List (String × String)) :
    let result := Runtime.sweepCandidates (backend db) ctx now candidates w
    Coherent db strict result.1.server result.1.store.store := by
  induction candidates generalizing w with
  | nil => exact coherent
  | cons candidate rest ih => exact ih (sweepCandidate_coherent db coherent ctx now candidate)

theorem reconcileTerminalJobs_coherent (coherent : Coherent db strict w.server w.store.store)
    (ctx : Context) (now : Time) (order : List String) :
    let result := w.reconcileTerminalJobs (backend db) ctx now order
    Coherent db strict result.1.server result.1.store.store := by
  unfold Runtime.reconcileTerminalJobs
  split
  · exact coherent
  · exact sweepCandidates_coherent db coherent ctx now _

/-! ### Starting a server -/

theorem loadRevision_changes {s s' : Server} {persisted : PersistedRevision}
    (loaded : s.loadRevision persisted = .ok s') : s'.changes = s.changes := by
  unfold Server.loadRevision at loaded
  split at loaded
  · cases loaded
  · split at loaded
    · cases loaded
    · cases loaded
      rfl

theorem loadRevisions_changes {revisions : List PersistedRevision} {s s' : Server}
    (loaded : revisions.foldlM Server.loadRevision s = .ok s') :
    s'.changes = s.changes := by
  induction revisions generalizing s with
  | nil =>
      cases loaded
      rfl
  | cons revision rest ih =>
      rw [List.foldlM_cons] at loaded
      cases first : s.loadRevision revision with
      | error e =>
          rw [first] at loaded
          cases loaded
      | ok next =>
          rw [first] at loaded
          exact (ih loaded).trans (loadRevision_changes first)

variable {db} in
theorem loadChanges_coherent {changes : List PersistedChange} {s s' : Server} {st : Store}
    (coherent : Coherent db strict s st)
    (stored : ∀ persisted ∈ changes, ∃ id, st.state.loadChange id = some persisted)
    (loaded : changes.foldlM Server.loadChange s = .ok s') : Coherent db strict s' st := by
  induction changes generalizing s with
  | nil =>
      cases loaded
      exact coherent
  | cons persisted rest ih =>
      rw [List.foldlM_cons] at loaded
      unfold Server.loadChange at loaded
      cases restored : restoreChange s.revisions persisted with
      | error e =>
          rw [restored] at loaded
          cases loaded
      | ok record =>
          rw [restored] at loaded
          obtain ⟨id, found⟩ := stored persisted List.mem_cons_self
          obtain ⟨own, writes⟩ := restoreChange_writes coherent.sound found restored
          exact ih (coherent.enter own writes _ _)
            (fun later member => stored later (List.mem_cons_of_mem _ member)) loaded

variable {db} in
/-- A loaded server knows what the database holds. -/
theorem load_coherent {st : Store} (sound : st.Sound db strict) {ctx : Context}
    {loaded : PersistedState}
    (read : st.state.load ctx = .ok loaded) {s : Server} (ok : Server.load loaded = .ok s) :
    Coherent db strict s st := by
  have stored : ∀ persisted ∈ loaded.changes, ∃ id, st.state.loadChange id = some persisted := by
    unfold OrchestrationState.load at read
    split at read
    · cases read
    · cases read
      intro persisted member
      obtain ⟨id, -, found⟩ := List.mem_filterMap.mp member
      exact ⟨id, found⟩
  unfold Server.load at ok
  split at ok
  · cases ok
  · next withRevisions revisions =>
      refine loadChanges_coherent ⟨sound, fun id record held => ?_⟩ stored ok
      rw [loadRevisions_changes revisions] at held
      cases held

theorem enqueueApproved_keeps (coherent : Coherent db strict w.server w.store.store) (ctx : Context)
    (draw : String → EnqueueDraw) (order : List String) :
    let result := Runtime.enqueueApproved (backend db) ctx draw order w
    result.1.store.store.Sound db strict ∧
      (result.2 = .ok () → Coherent db strict result.1.server result.1.store.store) := by
  induction order generalizing w with
  | nil => exact ⟨coherent.sound, fun _ => coherent⟩
  | cons id rest ih =>
      unfold Runtime.enqueueApproved
      split
      · exact ih coherent
      · next record held =>
          split
          · next waits =>
              obtain ⟨-, writes⟩ := coherent.records id record held
              obtain ⟨kept, queued⟩ := enqueue_keeps db coherent writes waits.1 ctx (draw id)
              dsimp only
              split
              · refine ⟨kept.1, ?_⟩
                rintro ⟨⟩
              · next ok => exact ih (queued fun _ => enqueue_created_of_ok db waits.1 ok)
          · exact ih coherent

theorem start_keeps {l : Link} (sound : l.store.Sound db strict) (inputs : StartInputs) :
    let result := Runtime.start (backend db) l inputs
    result.1.store.Sound db strict ∧
      ∀ s, result.2 = .ok s → Coherent db strict s result.1.store := by
  obtain ⟨kept, read⟩ := backend_load db sound inputs.ctx
  unfold Runtime.start
  dsimp only
  split
  · refine ⟨kept.1, ?_⟩
    rintro s ⟨⟩
  · next loaded answer =>
      split
      · refine ⟨kept.1, ?_⟩
        rintro s ⟨⟩
      · next server ok =>
          have coherent := load_coherent kept.1 (read loaded answer) ok
          obtain ⟨sound, queued⟩ := enqueueApproved_keeps db (w := ⟨server, _⟩) coherent
            inputs.ctx inputs.draw inputs.order
          split
          · refine ⟨sound, ?_⟩
            rintro s ⟨⟩
          · next done =>
              have swept := reconcileTerminalJobs_coherent db (queued done) inputs.ctx
                inputs.now inputs.sweepOrder
              split
              · refine ⟨swept.sound, ?_⟩
                rintro s ⟨⟩
                exact swept
              · refine ⟨swept.sound, ?_⟩
                rintro s ⟨⟩

end Handlers

/-! ## Steps of the world -/

/-- The tables agree, and a running server knows them. -/
structure World.Sound (w : World) (db : Database) (strict : Prop) : Prop where
  store : w.store.Sound db strict
  server : ∀ s, w.server = some s → Coherent db strict s w.store

variable {db : Database} {strict : Prop}

theorem World.sound_new : World.new.Sound db strict :=
  ⟨Store.sound_new, fun _ running => by cases running⟩

theorem World.serve_sound {α : Type} {w : World} (sound : w.Sound db strict)
    {script : List CallInput}
    {handle : Runtime Link → Runtime Link × α} {answer : α → Answer}
    (keeps : ∀ s, w.server = some s → Coherent db strict s w.store →
      Coherent db strict (handle ⟨s, ⟨w.store, script⟩⟩).1.server
        (handle ⟨s, ⟨w.store, script⟩⟩).1.store.store) :
    (w.serve script handle answer).1.Sound db strict := by
  unfold World.serve
  split
  · exact sound
  · next s running =>
      have kept := keeps s running (sound.server s running)
      refine ⟨kept.sound, fun s' running' => ?_⟩
      cases running'
      exact kept

/-- The operation is a request for approval whose job is refused. -/
def World.JobRefused (db : Database) (w : World) : WorldOp → Prop
  | .approveChange request script =>
      ∃ s actor record, w.server = some s ∧
        Runtime.Approves ⟨s, (⟨w.store, script⟩ : Link)⟩ request actor record ∧
        Runtime.JobRefused (backend db) ⟨s, ⟨w.store, script⟩⟩ request actor record
  | .createRevision _ _ | .createChange _ _ | .cancelJob _ _ | .reconcileJob _ _ _ _
  | .reconcileTerminalJobs _ _ _ _ | .work _ | .start _ _ => False

/-- **Every step keeps the server in line with the database.** Only a request for approval
whose job is refused leaves a change past its approval without a job. -/
theorem World.step_sound (cfg : Config) (db : Database) {w : World} (sound : w.Sound db strict)
    {op : WorldOp} (accepted : strict → ¬ w.JobRefused db op) :
    (w.step cfg db op).1.Sound db strict := by
  cases op with
  | createRevision request script =>
      dsimp only [step]
      refine serve_sound sound fun s _ coherent => ?_
      exact createRevision_coherent db (w := ⟨s, ⟨w.store, script⟩⟩) coherent request
  | createChange request script =>
      dsimp only [step]
      refine serve_sound sound fun s _ coherent => ?_
      exact createChange_coherent db cfg (w := ⟨s, ⟨w.store, script⟩⟩) coherent request
  | approveChange request script =>
      dsimp only [step]
      refine serve_sound sound fun s runs coherent => ?_
      refine approveChange_coherent db (w := ⟨s, ⟨w.store, script⟩⟩) coherent request ?_
      intro asked actor record approves refused
      exact accepted asked ⟨s, actor, record, runs, approves, refused⟩
  | cancelJob request script =>
      dsimp only [step]
      refine serve_sound sound fun s _ coherent => ?_
      exact cancelJob_coherent db (w := ⟨s, ⟨w.store, script⟩⟩) coherent request
  | reconcileJob ctx execution now script =>
      dsimp only [step]
      refine serve_sound sound fun s _ coherent => ?_
      exact reconcileJob_coherent db (w := ⟨s, ⟨w.store, script⟩⟩) coherent ctx execution now
  | reconcileTerminalJobs ctx now order script =>
      dsimp only [step]
      refine serve_sound sound fun s _ coherent => ?_
      exact reconcileTerminalJobs_coherent db (w := ⟨s, ⟨w.store, script⟩⟩) coherent ctx now
        order
  | work call =>
      have worked := And.intro (sound.store.work call) (w.store.work_grows db call)
      exact ⟨worked.1, fun s running => (sound.server s running).grow worked⟩
  | start inputs script =>
      obtain ⟨kept, started⟩ := start_keeps db (l := ⟨w.store, script⟩) sound.store inputs
      dsimp only [step]
      split
      · refine ⟨kept, fun s running => ?_⟩
        cases running
      · next server ok =>
          refine ⟨kept, fun s running => ?_⟩
          cases running
          exact started server ok

/-- The tables agree in every run, whatever fails. -/
theorem World.exec_sound (cfg : Config) (db : Database) (ops : List WorldOp) :
    ((worldMachine cfg db).exec .new ops).Sound db False := by
  have keeps : ∀ (w : World) op, w.Sound db False →
      ((worldMachine cfg db).next w op).Sound db False :=
    fun w op sound => step_sound cfg db sound fun asked => asked.elim
  exact Machine.exec_keeps keeps sound_new ops

end ControlCenter.Persistence
