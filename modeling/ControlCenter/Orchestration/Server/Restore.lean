import ControlCenter.Orchestration.Job.Memory
import ControlCenter.Orchestration.Server.Basic
import Mathlib.Data.UInt

/-!
# Restoring what was persisted

`restoreChange` does not know the way a change took. It starts from the decision,
approves again, and guesses the rest of the way from the state, the version and the job.
The guess is right for every record the server makes of one change: such a record is
restored to itself (`restoreChange_persistedChange`).

A record past its approvals has made one of a few walks (`Walk`): the moves since the
change was approved. Each round of the loop makes one move of the walk
(`restoreLoop_walk`), and reconciliation extends one walk to another
(`Walk.follow`).
-/

set_option autoImplicit false

namespace ControlCenter.Orchestration

open Library Change Policy

/-! ## Moves -/

namespace Change.Snapshot

/-- The change after some moves at one time. -/
def moves (m : Snapshot) (path : List State) (now : Time) : Snapshot :=
  path.foldl (fun m target => m.moved target now) m

/-- The change at another time. -/
def touched (m : Snapshot) (now : Time) : Snapshot := { m with updatedAt := now }

@[simp] theorem moves_nil (m : Snapshot) (now : Time) : m.moves [] now = m := rfl

@[simp] theorem moves_cons (m : Snapshot) (target : State) (path : List State) (now : Time) :
    m.moves (target :: path) now = (m.moved target now).moves path now := rfl

/-- Moves made at an earlier time are the same moves. -/
theorem moved_moves (m : Snapshot) (path : List State) (target : State) (earlier now : Time) :
    ((m.touched earlier).moves path earlier).moved target now =
      (m.touched now).moves (path ++ [target]) now := by
  induction path generalizing m with
  | nil => rfl
  | cons first path ih => exact ih (m.moved first now)

theorem moves_moves (m : Snapshot) (path more : List State) (now : Time) :
    (m.moves path now).moves more now = m.moves (path ++ more) now := by
  simp [moves]

theorem moves_later (m : Snapshot) (path : List State) {more : List State} (some : more ≠ [])
    (earlier now : Time) :
    ((m.touched earlier).moves path earlier).moves more now =
      (m.touched now).moves (path ++ more) now := by
  cases more with
  | nil => exact absurd rfl some
  | cons target more =>
      rw [moves_cons, moved_moves, moves_moves, List.append_assoc, List.singleton_append]

theorem moves_updatedAt (m : Snapshot) (path : List State) (now : Time) :
    ((m.touched now).moves path now).updatedAt = now := by
  induction path generalizing m with
  | nil => rfl
  | cons target path ih => exact ih (m.moved target now)

/-- Moves change the state, the version and the time alone. -/
theorem moves_origin (m : Snapshot) (path : List State) (now : Time) :
    (m.moves path now).id = m.id ∧ (m.moves path now).action = m.action ∧
      (m.moves path now).requester = m.requester ∧
      (m.moves path now).revisionID = m.revisionID ∧
      (m.moves path now).decision = m.decision ∧
      (m.moves path now).approvals = m.approvals := by
  induction path generalizing m with
  | nil => exact ⟨rfl, rfl, rfl, rfl, rfl, rfl⟩
  | cons target path ih => exact ih (m.moved target now)

/-! ## What a job's status makes of a change -/

/-- A queued change follows its job to the end. -/
def queuedMoves : Status → List State
  | .queued => []
  | .running | .retryWait | .cancelRequested => [.executing]
  | .succeeded => [.executing, .verifying, .succeeded]
  | .failed => [.executing, .failed]
  | .cancelled => [.cancelled]

def executingMoves : Status → List State
  | .queued | .running | .retryWait | .cancelRequested => []
  | .succeeded => [.verifying, .succeeded]
  | .failed => [.failed]
  | .cancelled => [.cancelled]

theorem follow_queued {m : Snapshot} (queued : m.state = .queued) (status : Status)
    (now : Time) : m.follow status now = (m.moves (queuedMoves status) now, none) := by
  cases status <;> simp [follow, andThen, stepTo, queued, queuedMoves, allowed]

theorem follow_executing {m : Snapshot} (executing : m.state = .executing) (status : Status)
    (now : Time) : m.follow status now = (m.moves (executingMoves status) now, none) := by
  cases status <;> simp [follow, andThen, stepTo, executing, executingMoves, allowed]

/-- A finished change stays as it is, and only a job that ended differently is refused. -/
theorem follow_terminal {m : Snapshot} {ended : Status}
    (terminal : terminalChangeState ended = some m.state) (status : Status) (now : Time) :
    (m.follow status now).1 = m ∧
      ((m.follow status now).2 = none ↔ status.terminal = true → status = ended) := by
  cases ended <;> simp only [terminalChangeState, Option.some.injEq, reduceCtorEq] at terminal <;>
    cases status <;>
      simp [follow, andThen, stepTo, ← terminal, allowed, Status.terminal]

end Change.Snapshot

/-! ## Walks -/

/-- The moves of a change since its approval, beside the job it is bound to. -/
inductive Walk : (jobID : String) → List State → Prop
  | none : Walk "" []
  | queued {jobID : String} : Walk jobID [.queued]
  | executing {jobID : String} (bound : jobID ≠ "") : Walk jobID [.queued, .executing]
  | dropped {jobID : String} (bound : jobID ≠ "") : Walk jobID [.queued, .cancelled]
  | stopped {jobID : String} (bound : jobID ≠ "") :
      Walk jobID [.queued, .executing, .cancelled]
  | failed {jobID : String} (bound : jobID ≠ "") : Walk jobID [.queued, .executing, .failed]
  | succeeded {jobID : String} (bound : jobID ≠ "") :
      Walk jobID [.queued, .executing, .verifying, .succeeded]

variable {jobID : String} {path : List State} {start : Snapshot} {now : Time}

/-- A change that is not yet queued has made no move, and is bound to no job. -/
theorem Walk.eq_nil (walk : Walk jobID path)
    (waits : ((start.touched now).moves path now).state = .pendingApproval ∨
      ((start.touched now).moves path now).state = .approved) : path = [] ∧ jobID = "" := by
  cases walk with
  | none => exact ⟨rfl, rfl⟩
  | queued => simp at waits
  | executing => simp at waits
  | dropped => simp at waits
  | stopped => simp at waits
  | failed => simp at waits
  | succeeded => simp at waits

theorem Walk.ne_nil (walk : Walk jobID path) (bound : jobID ≠ "") : path ≠ [] := by
  cases walk with
  | none => exact absurd rfl bound
  | _ => exact List.cons_ne_nil _ _

/-- **Reconciliation extends walks.** -/
theorem Walk.follow (walk : Walk jobID path) (bound : jobID ≠ "") (start : Snapshot)
    (status : Status) (earlier now : Time) :
    ∃ more, Walk jobID (path ++ more) ∧
      (((start.touched earlier).moves path earlier).follow status now).1 =
        ((start.touched earlier).moves path earlier).moves more now := by
  -- the record is queued, executing or finished, and each has its own lemma
  cases walk with
  | none => exact absurd rfl bound
  | queued =>
      refine ⟨Snapshot.queuedMoves status, ?_, by rw [Snapshot.follow_queued rfl]⟩
      cases status with
      | queued => exact .queued
      | running => exact .executing bound
      | retryWait => exact .executing bound
      | cancelRequested => exact .executing bound
      | cancelled => exact .dropped bound
      | succeeded => exact .succeeded bound
      | failed => exact .failed bound
  | executing =>
      refine ⟨Snapshot.executingMoves status, ?_, by rw [Snapshot.follow_executing rfl]⟩
      cases status with
      | queued => exact .executing bound
      | running => exact .executing bound
      | retryWait => exact .executing bound
      | cancelRequested => exact .executing bound
      | cancelled => exact .stopped bound
      | succeeded => exact .succeeded bound
      | failed => exact .failed bound
  | dropped =>
      have ended : terminalChangeState .cancelled = some .cancelled := rfl
      exact ⟨[], .dropped bound, (Snapshot.follow_terminal ended status now).1⟩
  | stopped =>
      have ended : terminalChangeState .cancelled = some .cancelled := rfl
      exact ⟨[], .stopped bound, (Snapshot.follow_terminal ended status now).1⟩
  | failed =>
      have ended : terminalChangeState .failed = some .failed := rfl
      exact ⟨[], .failed bound, (Snapshot.follow_terminal ended status now).1⟩
  | succeeded =>
      have ended : terminalChangeState .succeeded = some .succeeded := rfl
      exact ⟨[], .succeeded bound, (Snapshot.follow_terminal ended status now).1⟩

/-! ## The loop -/

variable {persisted : PersistedChange} {m : Snapshot} {revisions : Table Revision}
  {record : ChangeRecord}

theorem restoreLoop_done (same : m.state = persisted.snapshot.state) :
    restoreLoop persisted m = .ok m := by
  rw [restoreLoop, if_pos same]

theorem restoreLoop_move (next : State) (other : m.state ≠ persisted.snapshot.state)
    (guess : restoreNext persisted m = some next) (step : allowed m.state next = true) :
    restoreLoop persisted m =
      restoreLoop persisted (m.moved next persisted.snapshot.updatedAt) := by
  have moves : m.transition next m.version persisted.snapshot.updatedAt =
      .ok (m.moved next persisted.snapshot.updatedAt) := by
    rw [Snapshot.transition_self, if_pos step]
  rw [restoreLoop, if_neg other]
  simp only [guess]
  split
  · next refused => rw [moves] at refused; cases refused
  · next reached =>
      rw [moves] at reached
      cases reached
      rfl

/-- The guesses look at how many moves are still to be made. -/
theorem one_lt_two_moves (version : UInt64) :
    (1 : UInt64) < version + 1 + 1 - version := by
  have two : version + 1 + 1 - version = 2 := by grind
  rw [two]
  decide

/-- **The loop finds the walk.** -/
theorem restoreLoop_walk (job : persisted.jobID = jobID) (walk : Walk jobID path)
    (approved : path ≠ [] → start.state = .approved)
    (stands : persisted.snapshot =
      (start.touched persisted.snapshot.updatedAt).moves path persisted.snapshot.updatedAt) :
    restoreLoop persisted (start.touched persisted.snapshot.updatedAt) =
      .ok persisted.snapshot := by
  have state := congrArg Snapshot.state stands
  have version := congrArg Snapshot.version stands
  refine Eq.trans ?_ (congrArg Except.ok stands.symm)
  clear stands
  cases walk with
  | none => exact restoreLoop_done state.symm
  | queued =>
      replace approved : start.state = .approved := approved (List.cons_ne_nil _ _)
      simp only [Snapshot.moves_cons, Snapshot.moves_nil, Snapshot.moved_state] at state
      rw [restoreLoop_move .queued, restoreLoop_done]
      all_goals simp [restoreNext, allowed, state, approved, Snapshot.touched]
  | executing bound =>
      replace approved : start.state = .approved := approved (List.cons_ne_nil _ _)
      simp only [Snapshot.moves_cons, Snapshot.moves_nil, Snapshot.moved_state] at state
      rw [restoreLoop_move .queued, restoreLoop_move .executing, restoreLoop_done]
      all_goals simp [restoreNext, allowed, state, approved, Snapshot.touched]
  | dropped bound =>
      replace approved : start.state = .approved := approved (List.cons_ne_nil _ _)
      simp only [Snapshot.moves_cons, Snapshot.moves_nil, Snapshot.moved_state] at state
      rw [restoreLoop_move .queued, restoreLoop_move .cancelled, restoreLoop_done]
      all_goals
        simp [restoreNext, allowed, state, approved, Snapshot.touched, job, bound, version,
          Snapshot.moved]
  | stopped bound =>
      replace approved : start.state = .approved := approved (List.cons_ne_nil _ _)
      simp only [Snapshot.moves_cons, Snapshot.moves_nil, Snapshot.moved_state] at state
      rw [restoreLoop_move .queued, restoreLoop_move .executing, restoreLoop_move .cancelled,
        restoreLoop_done]
      all_goals
        simp [restoreNext, allowed, state, approved, Snapshot.touched, job, bound, version,
          Snapshot.moved, one_lt_two_moves]
  | failed bound =>
      replace approved : start.state = .approved := approved (List.cons_ne_nil _ _)
      simp only [Snapshot.moves_cons, Snapshot.moves_nil, Snapshot.moved_state] at state
      rw [restoreLoop_move .queued, restoreLoop_move .executing, restoreLoop_move .failed,
        restoreLoop_done]
      all_goals
        simp [restoreNext, allowed, state, approved, Snapshot.touched, version,
          Snapshot.moved, one_lt_two_moves]
  | succeeded bound =>
      replace approved : start.state = .approved := approved (List.cons_ne_nil _ _)
      simp only [Snapshot.moves_cons, Snapshot.moves_nil, Snapshot.moved_state] at state
      rw [restoreLoop_move .queued, restoreLoop_move .executing, restoreLoop_move .verifying,
        restoreLoop_move .succeeded, restoreLoop_done]
      all_goals simp [restoreNext, allowed, state, approved, Snapshot.touched]

/-- What a restored record was made of. -/
theorem restoreChange_eq_ok :
    restoreChange revisions persisted = .ok record ↔
      ∃ revision created approved machine,
        revisions.lookup persisted.snapshot.revisionID = some revision ∧
        Change.new persisted.snapshot.id persisted.snapshot.action persisted.snapshot.requester
          revision.id persisted.snapshot.decision persisted.snapshot.updatedAt = .ok created ∧
        restoreApprovals persisted.snapshot.updatedAt persisted.snapshot.approvals created =
          .ok approved ∧
        restoreLoop persisted approved = .ok machine ∧
        machine.version = persisted.snapshot.version ∧
        record = ⟨machine, persisted.input, persisted.idempotencyKey, persisted.jobID⟩ := by
  unfold restoreChange
  cases known : revisions.lookup persisted.snapshot.revisionID with
  | none => simp [known]
  | some revision =>
      cases made : Change.new persisted.snapshot.id persisted.snapshot.action
          persisted.snapshot.requester revision.id persisted.snapshot.decision
          persisted.snapshot.updatedAt with
      | error e => simp [known, made]
      | ok created =>
          cases replayed : restoreApprovals persisted.snapshot.updatedAt
              persisted.snapshot.approvals created with
          | error e => simp [known, made, replayed]
          | ok approved =>
              cases reached : restoreLoop persisted approved with
              | error e => simp [known, made, replayed, reached]
              | ok machine =>
                  by_cases same : machine.version = persisted.snapshot.version <;>
                    simp [known, made, replayed, reached, same, eq_comm]

/-- The loop changes nothing but the state, and ends in the persisted one. -/
theorem restoreLoop_reaches {machine : Snapshot} (reached : restoreLoop persisted m = .ok machine) :
    machine.state = persisted.snapshot.state ∧ machine.id = m.id ∧ machine.action = m.action := by
  fun_induction restoreLoop persisted m with
  | case1 m same =>
      cases reached
      exact ⟨same, rfl, rfl⟩
  | case2 => cases reached
  | case3 => cases reached
  | case4 m other next guess m' moves ih =>
      have ends := ih reached
      rw [Snapshot.transition_self] at moves
      split at moves
      · cases moves
        exact ends
      · cases moves

theorem restoreApprovals_id {approvals : List Approval} {approved : Snapshot}
    (replayed : restoreApprovals now approvals m = .ok approved) :
    approved.id = m.id ∧ approved.action = m.action := by
  induction approvals generalizing m with
  | nil =>
      cases replayed
      exact ⟨rfl, rfl⟩
  | cons approval rest ih =>
      rw [restoreApprovals] at replayed
      split at replayed
      · cases replayed
        exact ⟨rfl, rfl⟩
      · split at replayed
        · cases replayed
        · next m' accepted =>
            obtain ⟨-, -, rfl⟩ := Snapshot.approve_eq_ok.mp accepted
            have same := ih replayed
            exact same

/-- What a restored record keeps of its stored change. -/
structure Restores (persisted : PersistedChange) (record : ChangeRecord) : Prop where
  id : record.machine.id = persisted.snapshot.id
  action : record.machine.action = persisted.snapshot.action
  state : record.machine.state = persisted.snapshot.state
  version : record.machine.version = persisted.snapshot.version
  input : record.input = persisted.input
  idempotencyKey : record.idempotencyKey = persisted.idempotencyKey
  jobID : record.jobID = persisted.jobID

/-- A restored record is the persisted one, as far as its change and its job go. -/
theorem restoreChange_identity (restored : restoreChange revisions persisted = .ok record) :
    Restores persisted record := by
  obtain ⟨revision, created, approved, machine, -, made, replayed, reached, version, rfl⟩ :=
    restoreChange_eq_ok.mp restored
  obtain ⟨-, -, -, rfl⟩ := new_eq_ok.mp made
  obtain ⟨sameID, sameAction⟩ := restoreApprovals_id replayed
  obtain ⟨state, id, action⟩ := restoreLoop_reaches reached
  exact ⟨id.trans sameID, action.trans sameAction, state, version, rfl, rfl, rfl⟩

/-! ## Records of one change -/

/-- Approvals are repeated one by one. -/
theorem restoreApprovals_concat {approvals : List Approval} {created : Snapshot}
    (replayed : restoreApprovals now approvals created = .ok m)
    (pending : m.state = .pendingApproval) (approval : Approval) :
    restoreApprovals now (approvals ++ [approval]) created =
      .ok (m.withApproval approval now) := by
  have again : ∀ m : Snapshot, m.state = .pendingApproval →
      m.approve approval m.version now = .ok (m.withApproval approval now) :=
    fun m pending => Snapshot.approve_eq_ok.mpr ⟨rfl, pending, rfl⟩
  induction approvals generalizing created with
  | nil =>
      cases replayed
      simp [restoreApprovals, pending, again m pending]
  | cons first rest ih =>
      rw [restoreApprovals] at replayed
      rw [List.cons_append, restoreApprovals]
      split at replayed
      · next decided =>
          cases replayed
          exact absurd pending decided
      · next waiting =>
          rw [if_neg waiting]
          cases accepted : created.approve first created.version now with
          | error e => rw [accepted] at replayed; cases replayed
          | ok approved =>
              rw [accepted] at replayed
              exact ih replayed

/-- Making the change again, with its approvals, leads to this snapshot. -/
structure Replays (revisionID : String) (start : Snapshot) : Prop where
  revision : start.revisionID = revisionID
  replay : ∀ now, now ≠ 0 → ∃ created,
    Change.new start.id start.action start.requester revisionID start.decision now = .ok created ∧
      restoreApprovals now start.approvals created = .ok (start.touched now)

variable {revisionID : String}

theorem Replays.new {id action requester : String} {decision : Decision}
    (made : Change.new id action requester revisionID decision now = .ok m) :
    Replays revisionID m := by
  obtain ⟨named, -, valid, rfl⟩ := new_eq_ok.mp made
  refine ⟨rfl, fun later set => ⟨_, new_eq_ok.mpr ⟨named, set, valid, rfl⟩, rfl⟩⟩

theorem Replays.touched (replays : Replays revisionID start) (now : Time) :
    Replays revisionID (start.touched now) :=
  ⟨replays.revision, replays.replay⟩

theorem Replays.approve (replays : Replays revisionID start)
    (pending : start.state = .pendingApproval) (approval : Approval) (now : Time) :
    Replays revisionID (start.withApproval approval now) := by
  refine ⟨replays.revision, fun later set => ?_⟩
  obtain ⟨created, made, replayed⟩ := replays.replay later set
  have pending : (start.touched later).state = .pendingApproval := pending
  exact ⟨created, made, restoreApprovals_concat replayed pending approval⟩

/-- The record replays to its approval and then made a walk. -/
structure Restorable (revisionID : String) (record : ChangeRecord) : Prop where
  set : record.machine.updatedAt ≠ 0
  walked : ∃ start path, Replays revisionID start ∧ Walk record.jobID path ∧
    (path ≠ [] → start.state = .approved) ∧
    record.machine =
      (start.touched record.machine.updatedAt).moves path record.machine.updatedAt

theorem Restorable.new {id action requester : String} {decision : Decision}
    (made : Change.new id action requester revisionID decision now = .ok m) (input : RawMessage)
    (key : String) : Restorable revisionID ⟨m, input, key, ""⟩ := by
  obtain ⟨-, set, -, rfl⟩ := new_eq_ok.mp made
  exact ⟨set, _, [], Replays.new made, .none, fun moved => absurd rfl moved, rfl⟩

theorem Restorable.approve (restorable : Restorable revisionID record)
    (pending : record.machine.state = .pendingApproval) (approval : Approval) (set : now ≠ 0) :
    Restorable revisionID { record with machine := record.machine.withApproval approval now } := by
  obtain ⟨-, start, path, replays, walk, -, stands⟩ := restorable
  rw [stands] at pending
  obtain ⟨rfl, -⟩ := walk.eq_nil (.inl pending)
  refine ⟨set, record.machine.withApproval approval now, [], ?_, walk,
    fun moved => absurd rfl moved,
    rfl⟩
  rw [stands]
  exact (replays.touched _).approve pending approval now

theorem Restorable.queue (restorable : Restorable revisionID record)
    (approved : record.machine.state = .approved) (set : now ≠ 0) (jobID : String) :
    Restorable revisionID
      ⟨record.machine.moved .queued now, record.input, record.idempotencyKey, jobID⟩ := by
  obtain ⟨-, start, path, replays, walk, -, stands⟩ := restorable
  rw [stands] at approved
  obtain ⟨rfl, -⟩ := walk.eq_nil (.inr approved)
  refine ⟨set, start, [.queued], replays, .queued, fun _ => approved, ?_⟩
  dsimp only
  rw [stands]
  rfl

theorem Restorable.follow (restorable : Restorable revisionID record) (bound : record.jobID ≠ "")
    (status : Status) (set : now ≠ 0) :
    Restorable revisionID
      { record with machine := (record.machine.follow status now).1 } := by
  obtain ⟨earlier, start, path, replays, walk, approved, stands⟩ := restorable
  obtain ⟨more, further, followed⟩ :=
    walk.follow bound start status record.machine.updatedAt now
  rw [← stands] at followed
  by_cases stays : more = []
  · subst stays
    rw [followed]
    exact ⟨earlier, start, path, replays, walk, approved, stands⟩
  · have started : start.state = .approved := approved (walk.ne_nil bound)
    have arrives : (record.machine.follow status now).1 =
        (start.touched now).moves (path ++ more) now := by
      rw [followed, stands]
      exact Snapshot.moves_later start path stays _ now
    have time : (record.machine.follow status now).1.updatedAt = now := by
      rw [arrives, Snapshot.moves_updatedAt]
    refine ⟨?_, start, path ++ more, replays, further, fun _ => started, ?_⟩
    · change (record.machine.follow status now).1.updatedAt ≠ 0
      rw [time]
      exact set
    · dsimp only
      rw [time]
      exact arrives

theorem Restorable.restore (restorable : Restorable revisionID record) {revision : Revision}
    (known : revisions.lookup revisionID = some revision) (own : revision.id = revisionID)
    (fingerprint : String) :
    restoreChange revisions (persistedChange record fingerprint) = .ok record := by
  obtain ⟨set, start, path, replays, walk, approved, stands⟩ := restorable
  obtain ⟨machine, input, key, jobID⟩ := record
  dsimp only at set walk stands
  obtain ⟨created, made, replayed⟩ := replays.replay machine.updatedAt set
  obtain ⟨id, action, requester, revisionOf, decision, approvals⟩ :=
    Snapshot.moves_origin (start.touched machine.updatedAt) path machine.updatedAt
  rw [← stands] at id action requester revisionOf decision approvals
  refine restoreChange_eq_ok.mpr
    ⟨revision, created, start.touched machine.updatedAt, machine, ?_, ?_, ?_, ?_, rfl, rfl⟩
  · rw [← replays.revision] at known
    exact revisionOf ▸ known
  · change Change.new machine.id machine.action machine.requester revision.id machine.decision
      machine.updatedAt = .ok created
    rw [id, action, requester, decision, own]
    exact made
  · change restoreApprovals machine.updatedAt machine.approvals created = _
    rw [approvals]
    exact replayed
  · exact restoreLoop_walk rfl walk approved stands

/-- The records the server makes of a change on one revision: it is created, approved,
queued and reconciled with the job it is bound to. The calls to the backend may answer
anything, and the clock never reads the zero time. -/
inductive ReachableRecord {Store : Type} (B : Backend Store) (revision : Revision) :
    ChangeRecord → Prop
  | created {id action requester : String} {decision : Decision} {now : Time} {m : Snapshot}
      (input : RawMessage) (key : String)
      (made : Change.new id action requester revision.id decision now = .ok m) :
      ReachableRecord B revision ⟨m, input, key, ""⟩
  | approved {record : ChangeRecord} {m : Snapshot} {approval : Approval}
      {expectedVersion : UInt64} {now : Time} (reached : ReachableRecord B revision record)
      (accepted : record.machine.approve approval expectedVersion now = .ok m)
      (set : now ≠ 0) : ReachableRecord B revision { record with machine := m }
  | enqueued {record record' : ChangeRecord} {w : Runtime Store} {ctx : Context}
      {draw : EnqueueDraw} (reached : ReachableRecord B revision record)
      (held : w.server.changes.lookup record.machine.id = some record)
      (set : draw.queuedAt ≠ 0)
      (left : (w.enqueue B ctx draw record).1.server.changes.lookup record.machine.id =
        some record') : ReachableRecord B revision record'
  | reconciled {record record' : ChangeRecord} {w : Runtime Store} {ctx : Context}
      {execution : Job} {now : Time} (reached : ReachableRecord B revision record)
      (held : w.server.changes.lookup execution.changeID = some record)
      (bound : record.jobID ≠ "") (own : execution.id = record.jobID)
      (left : (w.reconcileJob B ctx execution now).1.server.changes.lookup execution.changeID =
        some record') : ReachableRecord B revision record'

section Reachable

variable {Store : Type} {B : Backend Store}

variable {w : Runtime Store} {ctx : Context} {execution : Job}

/-- What `enqueue` makes of the record it is given. -/
theorem enqueue_record {draw : EnqueueDraw} {record record' : ChangeRecord}
    (held : w.server.changes.lookup record.machine.id = some record)
    (left : (w.enqueue B ctx draw record).1.server.changes.lookup record.machine.id =
      some record') :
    record' = record ∨ record.machine.state = .approved ∧ ∃ jobID,
      record' = ⟨record.machine.moved .queued draw.queuedAt, record.input,
        record.idempotencyKey, jobID⟩ := by
  by_cases approved : record.machine.state = .approved
  · rw [Runtime.enqueue_lookup B approved, if_pos rfl] at left
    refine .inr ⟨approved, ?_⟩
    cases answer : (B.createJob w.store ctx (jobRequest record draw)).2 with
    | error e =>
        rw [answer] at left
        exact ⟨_, (Option.some.inj left).symm⟩
    | ok created =>
        rw [answer] at left
        exact ⟨_, (Option.some.inj left).symm⟩
  · rw [Runtime.enqueue_eq, if_neg approved, held] at left
    exact .inl (Option.some.inj left).symm

theorem persistFollowed_changes {record : ChangeRecord} :
    (w.persistFollowed B ctx execution record).1.server.changes = w.server.changes := by
  unfold Runtime.persistFollowed
  dsimp only [Runtime.persist]
  split
  · rfl
  · split <;> rfl

theorem persistFollowed_store {record : ChangeRecord} :
    (w.persistFollowed B ctx execution record).1.store =
      (B.updateChange w.store ctx
        (persistedChange record (w.server.fingerprint record.idempotencyKey))).1 := by
  unfold Runtime.persistFollowed
  dsimp only [Runtime.persist]
  split
  · rfl
  · split <;> rfl

/-- What `reconcileJob` makes of the record of its change. -/
theorem reconcileJob_record {now : Time} {record record' : ChangeRecord}
    (held : w.server.changes.lookup execution.changeID = some record)
    (left : (w.reconcileJob B ctx execution now).1.server.changes.lookup execution.changeID =
      some record') :
    record' = record ∨ now ≠ 0 ∧
      record' = { record with machine := (record.machine.follow execution.status now).1 } := by
  unfold Runtime.reconcileJob at left
  split at left
  · rw [held] at left
    exact .inl (Option.some.inj left).symm
  · next accepted =>
      rw [not_or, Time.isZero_iff] at accepted
      simp only [held] at left
      split at left
      · rw [held] at left
        exact .inl (Option.some.inj left).symm
      · refine .inr ⟨accepted.2, ?_⟩
        split at left
        · rw [Server.put, AList.lookup_insert] at left
          exact (Option.some.inj left).symm
        · rw [persistFollowed_changes, Server.put, AList.lookup_insert] at left
          exact (Option.some.inj left).symm

/-- Every record the server makes of a change can be restored. -/
theorem ReachableRecord.restorable {revision : Revision} {record : ChangeRecord}
    (reached : ReachableRecord B revision record) : Restorable revision.id record := by
  induction reached with
  | created input key made => exact .new made input key
  | approved reached accepted set ih =>
      obtain ⟨-, pending, rfl⟩ := Snapshot.approve_eq_ok.mp accepted
      exact ih.approve pending _ set
  | enqueued reached held set left ih =>
      rcases enqueue_record held left with rfl | ⟨approved, jobID, rfl⟩
      · exact ih
      · exact ih.queue approved set jobID
  | reconciled reached held bound own left ih =>
      rcases reconcileJob_record held left with rfl | ⟨set, rfl⟩
      · exact ih
      · exact ih.follow bound _ set

/-- **Restoring inverts persisting.** Every record the server makes of a change is restored
from what is persisted of it: state, version, job, input and idempotency key, and the rest. -/
theorem restoreChange_persistedChange {revision : Revision} {record : ChangeRecord}
    (reached : ReachableRecord B revision record) {revisions : Table Revision}
    (known : revisions.lookup revision.id = some revision) (fingerprint : String) :
    restoreChange revisions (persistedChange record fingerprint) = .ok record :=
  reached.restorable.restore known rfl fingerprint

end Reachable

/-! ## A change from its creation to its end -/

/-- A backend that accepts every call. -/
def acceptingBackend : Backend Unit where
  load _ _ := ((), .ok ⟨[], []⟩)
  createRevision _ _ createdBy key fingerprint content now :=
    ((), .ok ⟨"rev-1", 1, "", content, now, createdBy, key, fingerprint⟩)
  createChange _ _ persisted := ((), .ok (persisted, true))
  updateChange _ _ _ := ((), .ok ())
  createJob _ _ request := ((), .ok (request.job, true))
  getJob _ _ _ := ((), .error .notFound)
  requestCancel _ _ _ _ := ((), .error .notFound)

def sampleRevision : Revision := ⟨"rev-1", 1, 10, utf8 "\x7b\x7d", "sha256:"⟩

/-- The policy of a risky action: one approval by somebody else. -/
def sampleDecision : Decision :=
  ⟨.allow, .high, "risk threshold policy satisfied",
    ⟨1, "orchestration.changes.approve", true, true⟩, "policy-1"⟩

def pendingRecord : ChangeRecord where
  machine := ⟨"chg-1", "restart", "operator", "rev-1", .high, .pendingApproval, sampleDecision,
    [], 1, 20⟩
  input := utf8 "\x7b\x7d"
  idempotencyKey := "key-1"
  jobID := ""

def sampleApproval : Approval := ⟨"reviewer", ["orchestration.changes.approve"], 30⟩

def approvedRecord : ChangeRecord :=
  { pendingRecord with machine := pendingRecord.machine.withApproval sampleApproval 30 }

def queuedRecord : ChangeRecord := (approvedRecord.queued 40).bound "job-1"

/-- A server that holds one record. -/
def serverWith (record : ChangeRecord) : Runtime Unit :=
  ⟨Server.empty.put record.machine.id record, ()⟩

/-- The job of the change, after it succeeded. -/
def succeededJob : Job :=
  { (jobRequest approvedRecord ⟨"1", 40, 40⟩).job with status := .succeeded }

def succeededRecord : ChangeRecord :=
  { queuedRecord with
    machine := queuedRecord.machine.moves [.executing, .verifying, .succeeded] 50 }

theorem restoreChange_succeededRecord :
    restoreChange (AList.insert "rev-1" sampleRevision ∅)
        (persistedChange succeededRecord "print") =
      .ok succeededRecord := by
  have made : Change.new "chg-1" "restart" "operator" sampleRevision.id sampleDecision 20 =
      .ok pendingRecord.machine :=
    new_eq_ok.mpr ⟨by decide, by decide, by decide +kernel, rfl⟩
  have pending : ReachableRecord acceptingBackend sampleRevision pendingRecord :=
    .created _ _ made
  have approved : ReachableRecord acceptingBackend sampleRevision approvedRecord :=
    .approved pending (Snapshot.approve_eq_ok.mpr ⟨rfl, rfl, rfl⟩) (by decide)
  have enqueued : ((serverWith approvedRecord).enqueue acceptingBackend .background ⟨"1", 40, 40⟩
      approvedRecord).1.server.changes.lookup "chg-1" = some queuedRecord := by decide +kernel
  have queued : ReachableRecord acceptingBackend sampleRevision queuedRecord :=
    .enqueued approved (by decide +kernel) (by decide) enqueued
  have held : (serverWith queuedRecord).server.changes.lookup succeededJob.changeID =
      some queuedRecord := by decide +kernel
  have reconciled : ((serverWith queuedRecord).reconcileJob acceptingBackend .background
      succeededJob 50).1.server.changes.lookup succeededJob.changeID = some succeededRecord := by
    decide +kernel
  have succeeded : ReachableRecord acceptingBackend sampleRevision succeededRecord :=
    .reconciled queued held (by decide) rfl reconciled
  exact restoreChange_persistedChange succeeded (by decide +kernel) "print"

end ControlCenter.Orchestration
