import ControlCenter.Orchestration.Server.Handlers

/-!
# What an approval does

`approveChange` appends the approval to the change in memory, stores the change, and queues
its job when the approval was the last one needed. It takes nothing back when one of its
calls to the backend fails.

So a request that is answered with an error leaves the change as it was exactly when the
error came before the approval (`approveChange_atomic_iff`).
-/

set_option autoImplicit false

namespace ControlCenter.Orchestration

open Library Change Policy

/-- The record once the request approved it. -/
def ChangeRecord.approvedBy (record : ChangeRecord) (request : ApprovalRequest)
    (actor : String) : ChangeRecord :=
  { record with machine := record.machine.withApproval (request.approval actor) request.now }

/-- What a request for approval must leave alone when it fails. -/
def ChangeRecord.standing (record : ChangeRecord) : State × UInt64 × List Approval :=
  (record.machine.state, record.machine.version, record.machine.approvals)

namespace Runtime

variable {Store : Type} (B : Backend Store) (w : Runtime Store)

/-- The request names a pending change at its version. -/
structure Approves (request : ApprovalRequest) (actor : String) (record : ChangeRecord) :
    Prop where
  actor : request.actor = some actor
  held : w.server.changes.lookup request.changeID = some record
  version : request.version = some record.machine.version
  pending : record.machine.state = .pendingApproval

/-- The call that stores the approved change. -/
def storeApproval (request : ApprovalRequest) (actor : String) (record : ChangeRecord) :
    Store × Except JobError Unit :=
  B.updateChange w.store request.ctx
    (persistedChange (record.approvedBy request actor)
      (w.server.fingerprint record.idempotencyKey))

/-- The server that holds the approved change, over what the call above left. -/
def approvalRecorded (request : ApprovalRequest) (actor : String) (record : ChangeRecord) :
    Runtime Store :=
  ⟨w.server.put request.changeID (record.approvedBy request actor),
    (w.storeApproval B request actor record).1⟩

variable {B w}

/-- **A request is refused before it changes anything, or approves the change it names.** -/
theorem recordApproval_cases (request : ApprovalRequest) :
    ((∀ actor record, ¬ w.Approves request actor record) ∧
      ∃ e, w.recordApproval B request = (w, .error e)) ∨
    ∃ actor record, w.Approves request actor record ∧
      w.recordApproval B request =
        match (w.storeApproval B request actor record).2 with
        | .error _ => (w.approvalRecorded B request actor record,
            .error ⟨500, "change_persistence_failed", "unable to persist approval"⟩)
        | .ok () => (w.approvalRecorded B request actor record,
            .ok (record.approvedBy request actor)) := by
  unfold recordApproval
  cases isActor : request.actor with
  | none =>
      refine .inl ⟨fun actor record approves => ?_, _, rfl⟩
      cases isActor.symm.trans approves.actor
  | some actor =>
      cases isVersion : request.version with
      | none =>
          refine .inl ⟨fun actor record approves => ?_, _, rfl⟩
          cases isVersion.symm.trans approves.version
      | some version =>
          cases held : w.server.changes.lookup request.changeID with
          | none =>
              refine .inl ⟨fun actor record approves => ?_, _, rfl⟩
              cases held.symm.trans approves.held
          | some record =>
              dsimp only
              cases accepted : record.machine.approve (request.approval actor) version
                  request.now with
              | error e =>
                  refine .inl ⟨fun actor' record' approves => ?_, _, rfl⟩
                  cases held.symm.trans approves.held
                  cases isActor.symm.trans approves.actor
                  cases isVersion.symm.trans approves.version
                  have again : record.machine.approve (request.approval actor)
                      record.machine.version request.now = .ok _ :=
                    Snapshot.approve_eq_ok.mpr ⟨rfl, approves.pending, rfl⟩
                  cases accepted.symm.trans again
              | ok machine =>
                  obtain ⟨same, pending, rfl⟩ := Snapshot.approve_eq_ok.mp accepted
                  refine .inr ⟨actor, record, ⟨isActor, held, by rw [isVersion, same], pending⟩, ?_⟩
                  rfl

variable (B w)

/-- The approval is stored and decides the change, which has no job yet. -/
structure Decides (request : ApprovalRequest) (actor : String) (record : ChangeRecord) : Prop where
  stored : (w.storeApproval B request actor record).2 = .ok ()
  approved : (record.approvedBy request actor).machine.state = .approved
  unbound : record.jobID = ""

/-- The call that creates the job of the decided change. -/
def createApprovedJob (request : ApprovalRequest) (actor : String) (record : ChangeRecord) :
    Store × Except JobError (Job × Bool) :=
  B.createJob (w.storeApproval B request actor record).1 request.ctx
    (jobRequest (record.approvedBy request actor) request.draw)

/-- The job of the decided change cannot be created. -/
def JobRefused (request : ApprovalRequest) (actor : String) (record : ChangeRecord) : Prop :=
  w.Decides B request actor record ∧
    ∃ e, (w.createApprovedJob B request actor record).2 = .error e

/-- The job is created, but the change cannot be stored with it. -/
def BindingRefused (request : ApprovalRequest) (actor : String) (record : ChangeRecord) : Prop :=
  w.Decides B request actor record ∧
    ∃ created isNew e, (w.createApprovedJob B request actor record).2 = .ok (created, isNew) ∧
      (B.updateChange (w.createApprovedJob B request actor record).1 request.ctx
        (persistedChange
          (((record.approvedBy request actor).queued request.draw.queuedAt).bound created.id)
          (w.server.fingerprint record.idempotencyKey))).2 = .error e

/-- One of the calls for the approval fails. -/
def ApprovalFails (request : ApprovalRequest) (actor : String) (record : ChangeRecord) : Prop :=
  (∃ e, (w.storeApproval B request actor record).2 = .error e) ∨
    w.JobRefused B request actor record ∨ w.BindingRefused B request actor record

variable {B w}

variable {request : ApprovalRequest} {actor : String} {record : ChangeRecord}

theorem recordApproval_approves (approves : w.Approves request actor record) :
    w.recordApproval B request =
      match (w.storeApproval B request actor record).2 with
      | .error _ => (w.approvalRecorded B request actor record,
          .error ⟨500, "change_persistence_failed", "unable to persist approval"⟩)
      | .ok () => (w.approvalRecorded B request actor record,
          .ok (record.approvedBy request actor)) := by
  rcases recordApproval_cases request with ⟨refused, -⟩ | ⟨actor', record', approves', recorded⟩
  · exact absurd approves (refused actor record)
  · cases approves.actor.symm.trans approves'.actor
    cases approves.held.symm.trans approves'.held
    exact recorded

/-- Whatever becomes of its job, the record keeps its approvals. -/
theorem enqueued_approvals (record : ChangeRecord) (now : Time)
    (answer : Except JobError (Job × Bool)) :
    (enqueued record now answer).machine.approvals = record.machine.approvals := by
  cases answer <;> rfl

theorem approvalRecorded_lookup (request : ApprovalRequest) (actor : String)
    (record : ChangeRecord) :
    (w.approvalRecorded B request actor record).server.changes.lookup request.changeID =
      some (record.approvedBy request actor) :=
  AList.lookup_insert _

/-- What a decided change becomes once its job is asked for. -/
theorem approveChange_decides (approves : w.Approves request actor record)
    (decides : w.Decides B request actor record) :
    let queued := (w.approvalRecorded B request actor record).enqueue B request.ctx request.draw
      (record.approvedBy request actor)
    (w.approveChange B request).1 = queued.1 ∧
      ((∃ e, (w.approveChange B request).2 = .error e) ↔ ∃ e, queued.2 = .error e) := by
  have both : (record.approvedBy request actor).machine.state = .approved ∧
      (record.approvedBy request actor).jobID = "" := ⟨decides.approved, decides.unbound⟩
  unfold approveChange
  rw [recordApproval_approves approves, decides.stored]
  dsimp only
  rw [if_pos both]
  cases ((w.approvalRecorded B request actor record).enqueue B request.ctx request.draw
      (record.approvedBy request actor)).2 with
  | error e => exact ⟨rfl, by simp⟩
  | ok => exact ⟨rfl, by simp⟩

/-- Without a decision, the answer is that of the store. -/
theorem approveChange_undecided (approves : w.Approves request actor record)
    (undecided : ¬ w.Decides B request actor record) :
    (w.approveChange B request).1 = w.approvalRecorded B request actor record ∧
      ((∃ e, (w.approveChange B request).2 = .error e) ↔
        ∃ e, (w.storeApproval B request actor record).2 = .error e) := by
  unfold approveChange
  rw [recordApproval_approves approves]
  cases stored : (w.storeApproval B request actor record).2 with
  | error e => exact ⟨rfl, by simp⟩
  | ok =>
      have waits : ¬ ((record.approvedBy request actor).machine.state = .approved ∧
          (record.approvedBy request actor).jobID = "") :=
        fun both => undecided ⟨stored, both.1, both.2⟩
      dsimp only
      rw [if_neg waits]
      exact ⟨rfl, by simp⟩

/-- Binding a job fails when the change cannot be stored. -/
theorem bindJob_fails_iff (w : Runtime Store) (ctx : Context) (queued : ChangeRecord)
    (jobID : String) :
    (∃ e, (bindJob B w ctx queued jobID).2 = .error e) ↔
      ∃ e, (B.updateChange w.store ctx (persistedChange (queued.bound jobID)
        (w.server.fingerprint queued.idempotencyKey))).2 = .error e := by
  change (∃ e, Except.mapError ServerError.store (B.updateChange w.store ctx
    (persistedChange (queued.bound jobID) (w.server.fingerprint queued.idempotencyKey))).2 =
      .error e) ↔ _
  cases (B.updateChange w.store ctx (persistedChange (queued.bound jobID)
      (w.server.fingerprint queued.idempotencyKey))).2 with
  | error e => exact iff_of_true ⟨_, rfl⟩ ⟨e, rfl⟩
  | ok => exact iff_of_false (by rintro ⟨e, ⟨⟩⟩) (by rintro ⟨e, ⟨⟩⟩)

/-- The queue fails when the job or its binding is refused. -/
theorem enqueue_fails_iff (decides : w.Decides B request actor record) :
    (∃ e, ((w.approvalRecorded B request actor record).enqueue B request.ctx request.draw
        (record.approvedBy request actor)).2 = .error e) ↔
      w.JobRefused B request actor record ∨ w.BindingRefused B request actor record := by
  unfold JobRefused BindingRefused
  cases answer : (w.createApprovedJob B request actor record).2 with
  | error e =>
      rw [enqueue_refused B (w := w.approvalRecorded B request actor record) decides.approved
        answer]
      simp [decides]
  | ok created =>
      obtain ⟨created, isNew⟩ := created
      rw [enqueue_created B (w := w.approvalRecorded B request actor record) decides.approved
        answer,
        bindJob_fails_iff]
      constructor
      · rintro ⟨e, refused⟩
        exact .inr ⟨decides, created, isNew, e, rfl, refused⟩
      · rintro (⟨-, e, ⟨⟩⟩ | ⟨-, created', isNew', e, ⟨⟩, refused⟩)
        exact ⟨e, refused⟩

/-- A request that approves fails exactly when one of its calls does. Whatever happens, the
change has the approval in memory. -/
theorem approveChange_approves (approves : w.Approves request actor record) :
    ((∃ e, (w.approveChange B request).2 = .error e) ↔
      w.ApprovalFails B request actor record) ∧
    ∃ record', (w.approveChange B request).1.server.changes.lookup request.changeID =
        some record' ∧
      record'.machine.approvals = record.machine.approvals ++ [request.approval actor] := by
  by_cases decides : w.Decides B request actor record
  · obtain ⟨left, fails⟩ := approveChange_decides approves decides
    constructor
    · rw [fails, enqueue_fails_iff decides, ApprovalFails, decides.stored]
      simp
    · rw [left, enqueue_lookup B decides.approved]
      split
      · exact ⟨_, rfl, enqueued_approvals _ _ _⟩
      · exact ⟨_, approvalRecorded_lookup request actor record, rfl⟩
  · obtain ⟨left, fails⟩ := approveChange_undecided approves decides
    constructor
    · rw [fails, ApprovalFails, JobRefused, BindingRefused]
      simp [decides]
    · rw [left]
      exact ⟨_, approvalRecorded_lookup request actor record, rfl⟩

/-- **A failed approval is not taken back.** A request that is answered with an error leaves
the state, the version and the approvals of its change exactly when it did not get as far as
the calls for the approval. -/
theorem approveChange_atomic_iff (request : ApprovalRequest) :
    ((∃ e, (w.approveChange B request).2 = .error e) →
      ((w.approveChange B request).1.server.changes.lookup request.changeID).map
          ChangeRecord.standing =
        (w.server.changes.lookup request.changeID).map ChangeRecord.standing) ↔
      ∀ actor record, w.Approves request actor record →
        ¬ w.ApprovalFails B request actor record := by
  constructor
  · intro keeps actor record approves fails
    obtain ⟨failed, record', held, approvals⟩ := approveChange_approves (B := B) approves
    have same := keeps (failed.mpr fails)
    rw [held, approves.held, Option.map_some, Option.map_some, Option.some.injEq] at same
    have unchanged : record'.machine.approvals = record.machine.approvals :=
      congrArg (fun standing => standing.2.2) same
    rw [approvals] at unchanged
    exact absurd (congrArg List.length unchanged) (by simp)
  · intro succeeds answered
    rcases recordApproval_cases (B := B) request with ⟨-, e, refused⟩ | ⟨actor, record, approves, -⟩
    · unfold approveChange
      rw [refused]
    · exact absurd ((approveChange_approves approves).1.mp answered)
        (succeeds actor record approves)

end Runtime

end ControlCenter.Orchestration
