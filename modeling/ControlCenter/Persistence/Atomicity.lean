import ControlCenter.Persistence.World

/-!
# Failed approvals

A request for approval changes the machine of its change before it asks the database, and a
second time, on the way to the queue, before it asks for the job. It takes neither back. So
the answer to a request may be an error although the change has the approval, and a change
whose job could not be created stays queued without a job.

Nothing else in the server leaves a change past its approval without a job: over every run
of the server, its workers and its restarts, every such change is bound to a job of its own
up to the first request for approval whose job is refused (`approval_atomicity_iff`).
-/

set_option autoImplicit false

namespace ControlCenter.Persistence

open Library Orchestration Change Policy Postgres

/-- Every change past its approval names a job that exists and belongs to it. -/
def World.Bound (w : World) : Prop :=
  ∀ s, w.server = some s → ∀ id record, s.changes.lookup id = some record →
    record.machine.state.active = true →
      record.jobID ≠ "" ∧ w.store.JobOf record.jobID id

theorem World.Sound.bound {db : Database} {w : World} (sound : w.Sound db True) : w.Bound := by
  intro s running id record held active
  obtain ⟨own, knows, named⟩ := (sound.server s running).records id record held
  exact ⟨named trivial active, own ▸ knows.job (named trivial active)⟩

/-- A refused job leaves its change queued without a job. -/
theorem not_bound_of_jobRefused {cfg : Config} {db : Database} {w : World} {op : WorldOp}
    (refused : w.JobRefused db op) : ¬ (w.step cfg db op).1.Bound := by
  cases op with
  | approveChange request script =>
      obtain ⟨s, actor, record, running, approves, decides, e, refused⟩ := refused
      obtain ⟨left, -⟩ := Runtime.approveChange_decides approves decides
      intro bound
      have held : (Runtime.approveChange (backend db) ⟨s, ⟨w.store, script⟩⟩
          request).1.server.changes.lookup record.machine.id =
            some ((record.approvedBy request actor).queued request.draw.queuedAt) := by
        rw [left, Runtime.enqueue_refused (backend db)
          (w := Runtime.approvalRecorded (backend db) ⟨s, ⟨w.store, script⟩⟩ request actor
            record) decides.approved refused]
        exact AList.lookup_insert _
      have served : (w.step cfg db (.approveChange request script)).1.server =
          some (Runtime.approveChange (backend db) ⟨s, ⟨w.store, script⟩⟩
            request).1.server := by
        dsimp only [World.step]
        rw [World.serve, running]
      exact (bound _ served _ _ held rfl).1 decides.unbound
  | createRevision | createChange | cancelJob | reconcileJob | reconcileTerminalJobs | work
  | start => exact refused.elim

/-- **Approvals are atomic until a call for one fails.** With any backend, a request that is
answered with an error leaves the state, the version and the approvals of its change exactly
when it does not get as far as the calls for the approval, or none of them fails. And every
run of a server on the database keeps every change that is queued, executing or verifying
bound to a job of its own, exactly when no request of the run has the job of its approved
change refused. -/
theorem approval_atomicity_iff {Store : Type} (B : Backend Store) (w : Runtime Store)
    (request : ApprovalRequest) (cfg : Config) (db : Database) (ops : List WorldOp) :
    (((∃ e, (w.approveChange B request).2 = .error e) →
        ((w.approveChange B request).1.server.changes.lookup request.changeID).map
            ChangeRecord.standing =
          (w.server.changes.lookup request.changeID).map ChangeRecord.standing) ↔
        ∀ actor record, w.Approves request actor record →
          ¬ w.ApprovalFails B request actor record) ∧
    ((∀ e ∈ (worldMachine cfg db).trace .new ops, e.after.Bound) ↔
      ∀ e ∈ (worldMachine cfg db).trace .new ops, ¬ e.before.JobRefused db e.op) := by
  refine ⟨Runtime.approveChange_atomic_iff request, ?_⟩
  let holds : World → List WorldOp → Prop := fun w _ => w.Sound db True
  have keeps : ∀ w op ops, holds w (op :: ops) → ¬ w.JobRefused db op →
      (w.step cfg db op).1.Bound ∧ holds (w.step cfg db op).1 ops := by
    intro w op _ sound accepted
    have kept := World.step_sound cfg db sound fun _ => accepted
    exact ⟨kept.bound, kept⟩
  have sharp : ∀ w op ops, holds w (op :: ops) → w.JobRefused db op →
      ¬ (w.step cfg db op).1.Bound :=
    fun _ _ _ _ refused => not_bound_of_jobRefused refused
  exact Machine.trace_good_iff keeps sharp World.sound_new

/-! ## A lost creation of a job -/

/-- One risky action, which needs an approval. -/
def sampleConfig : Config where
  risk action := if action = "restart" then some .high else none
  evaluate _ := .ok sampleDecision

/-- A start on an empty database, a revision, and a change that waits for its approval. -/
def pendingRun : List WorldOp :=
  [.start ⟨.background, [], fun _ => ⟨"0", 5, 5⟩, [], 5⟩ [],
    .createRevision ⟨.background, "key-0", some "operator", some (utf8 "\x7b\x7d"), 10⟩
      [⟨[], none, "1"⟩],
    .createChange ⟨.background, "key-1", "rev-1", some "operator",
      some ⟨"restart", utf8 "\x7b\x7d", "rev-1"⟩, "1", 20, ⟨"0", 20, 20⟩⟩ []]

def sampleApprovalRequest : ApprovalRequest :=
  ⟨.background, some "reviewer", "1", "chg-1", 30, 30, ⟨"1", 40, 40⟩⟩

/-- The approval is stored, and the connection is lost before the job is created. -/
def lossyScript : List CallInput :=
  [⟨[], none, ""⟩, ⟨[], some (.lost (.message "connection reset by peer")), ""⟩]

/-- The error a request was answered with. -/
def Answer.error : Answer → Option ErrorResponse
  | .revision (.error e) | .change (.error e) | .job (.error e) => some e
  | .revision (.ok _) | .change (.ok _) | .job (.ok _) | .reconciled _ | .swept _ | .worked _
  | .started _ | .down => none

/-- A change as the running server holds it, with its job. -/
def World.standing (w : World) (id : String) : Option ((State × UInt64 × List Approval) × String) :=
  (w.server.bind fun s => s.changes.lookup id).map fun record => (record.standing, record.jobID)

theorem approval_answered_with_error_is_kept :
    let M := worldMachine sampleConfig plainDatabase
    let before := M.exec .new pendingRun
    let after := M.step before (.approveChange sampleApprovalRequest lossyScript)
    before.standing "chg-1" = some ((.pendingApproval, 1, []), "") ∧
      after.2.error = some jobCreationFailed ∧
      after.1.standing "chg-1" = some ((.queued, 3, [sampleApproval]), "") := by
  decide +kernel

end ControlCenter.Persistence
