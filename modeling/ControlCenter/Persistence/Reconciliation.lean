import ControlCenter.Orchestration.Job.Invariant
import ControlCenter.Orchestration.Server.Restore
import ControlCenter.Persistence.Postgres.Rows
import Mathlib.Data.List.Infix

/-!
# Reconciliation converges

The worker loop, the cancel handler and the periodic sweep hand job snapshots to
`reconcileJob` in any order, some of them old. The snapshots of one job never disagree
about how it ended, in either repository (`LifeOf.agreed`). That is enough: the change of
the job is always in a state that its job allows (`Follows`), so no transition is ever
refused, and once a final snapshot was reconciled the record of the change is never
written again (`reconciliation_converges`).
-/

set_option autoImplicit false

namespace ControlCenter.Persistence

open Library Orchestration Change Postgres

/-! ## The life of a job -/

/-- What readers of the in-memory repository see of a job during a run. -/
def memorySnapshots (ops : List Op) (id : String) : Set Job :=
  { job | ∃ earlier, earlier <+: ops ∧ (memoryMachine.exec .new earlier).job id = some job }

/-- What readers of the PostgreSQL repository see of a job during a run. -/
def postgresSnapshots (db : Database) (calls : List (JobOp String × String)) (id : String) :
    Set Job :=
  { job | ∃ earlier row, earlier <+: calls ∧
    ((postgresMachine db).exec .new earlier).rows.lookup id = some row ∧ job = scanJob row }

/-- The snapshots of one job in a run of one of the repositories. -/
inductive LifeOf (id : String) : Set Job → Prop
  | memory (ops : List Op) : LifeOf id (memorySnapshots ops id)
  | postgres (db : Database) (calls : List (JobOp String × String)) :
      LifeOf id (postgresSnapshots db calls id)

/-- The snapshots tell of one end at most. -/
def Agreed (snapshots : Set Job) : Prop :=
  ∀ first ∈ snapshots, ∀ second ∈ snapshots, first.status.terminal = true →
    second.status.terminal = true → first.status = second.status

/-- A finished job of the in-memory repository is the same job ever after. -/
theorem memory_finished {id : String} {ops : List Op} {job : Job}
    (found : (memoryMachine.exec .new ops).job id = some job)
    (finished : job.status.terminal = true) (more : List Op) :
    (memoryMachine.exec .new (ops ++ more)).job id = some job := by
  induction more using List.reverseRecOn with
  | nil => rw [List.append_nil, found]
  | append_singleton more op ih =>
      have effect := machine_effect (exec_sound (ops ++ more)) op id
      rw [ih] at effect
      rw [← List.append_assoc, Machine.exec_concat]
      generalize (memoryMachine.next _ op).job id = after at effect ⊢
      cases effect with
      | same _ => rfl
      | moves _ _ moves => exact absurd moves.unfinished (by simp [finished])

theorem memorySnapshots_agreed (ops : List Op) (id : String) :
    Agreed (memorySnapshots ops id) := by
  rintro first ⟨earlier, before, found⟩ second ⟨later, before', found'⟩ ended ended'
  -- of two points of a run, one comes first
  rcases List.prefix_or_prefix_of_prefix before before' with ⟨more, rfl⟩ | ⟨more, rfl⟩
  · rw [memory_finished found ended more] at found'
    cases found'
    rfl
  · rw [memory_finished found' ended' more] at found
    cases found
    rfl

theorem postgresSnapshots_agreed (db : Database) (calls : List (JobOp String × String))
    (id : String) : Agreed (postgresSnapshots db calls id) := by
  have keeps : ∀ (points more : List (JobOp String × String)) (row row' : JobRow),
      ((postgresMachine db).exec .new points).rows.lookup id = some row →
      ((postgresMachine db).exec .new (points ++ more)).rows.lookup id = some row' →
      row.status.terminal = true → row'.status = row.status := by
    intro points more row row' found found' ended
    rw [Machine.exec_append] at found'
    obtain ⟨row'', found'', advances⟩ := JobRepository.exec_advances db _ more id row found
    cases found''.symm.trans found'
    exact advances.finished ended
  rintro _ ⟨earlier, row, before, found, rfl⟩ _ ⟨later, row', before', found', rfl⟩ ended ended'
  rcases List.prefix_or_prefix_of_prefix before before' with ⟨more, rfl⟩ | ⟨more, rfl⟩
  · exact (keeps earlier more row row' found found' ended).symm
  · exact keeps later more row' row found' found ended'

/-- **The snapshots of a job tell of one end at most.** -/
theorem LifeOf.agreed {id : String} {snapshots : Set Job} (life : LifeOf id snapshots) :
    Agreed snapshots := by
  cases life with
  | memory ops => exact memorySnapshots_agreed ops id
  | postgres db calls => exact postgresSnapshots_agreed db calls id

/-! ## States a job allows -/

/-- The state of a change that follows a job with these snapshots. -/
def Follows (snapshots : Set Job) (state : State) : Prop :=
  state = .queued ∨ state = .executing ∨
    ∃ job ∈ snapshots, terminalChangeState job.status = some state

theorem terminal_of_terminalChangeState {status : Status} {state : State}
    (ended : terminalChangeState status = some state) : status.terminal = true := by
  cases status <;> simp_all [terminalChangeState, Status.terminal]

/-- **A snapshot of the job is never refused.** It leaves the change in a state the job
allows, and a final one in the state it stands for. -/
theorem Follows.follow {snapshots : Set Job} (agreed : Agreed snapshots) {m : Snapshot}
    (follows : Follows snapshots m.state) {job : Job} (member : job ∈ snapshots) (now : Time) :
    (m.follow job.status now).2 = none ∧ Follows snapshots (m.follow job.status now).1.state ∧
      (job.status.terminal = true →
        terminalChangeState job.status = some (m.follow job.status now).1.state) := by
  have atEnd : ∀ state, terminalChangeState job.status = some state → Follows snapshots state :=
    fun state ended => .inr (.inr ⟨job, member, ended⟩)
  rcases follows with queued | executing | ⟨last, memberLast, ended⟩
  · rw [Snapshot.follow_queued queued]
    refine ⟨rfl, ?_, ?_⟩
    · cases status : job.status <;> rw [status] at atEnd
      case queued => exact .inl queued
      case running | retryWait | cancelRequested => exact .inr (.inl rfl)
      all_goals exact atEnd _ rfl
    · cases job.status <;> simp [Status.terminal, terminalChangeState, Snapshot.queuedMoves]
  · rw [Snapshot.follow_executing executing]
    refine ⟨rfl, ?_, ?_⟩
    · cases status : job.status <;> rw [status] at atEnd
      case queued | running | retryWait | cancelRequested => exact .inr (.inl executing)
      all_goals exact atEnd _ rfl
    · cases job.status <;> simp [Status.terminal, terminalChangeState, Snapshot.executingMoves]
  · obtain ⟨stays, refused⟩ := Snapshot.follow_terminal ended job.status now
    have same : job.status.terminal = true → job.status = last.status :=
      fun terminal => agreed job member last memberLast terminal
        (terminal_of_terminalChangeState ended)
    rw [stays]
    exact ⟨refused.mpr same, .inr (.inr ⟨last, memberLast, ended⟩),
      fun terminal => same terminal ▸ ended⟩

/-! ## Calls of `reconcileJob` -/

/-- The arguments of `reconcileJob`. -/
structure ReconcileCall where
  ctx : Context
  execution : Job
  now : Time

variable {Store : Type}

/-- The server as it answers calls of `reconcileJob`. -/
def reconcileMachine (B : Backend Store) :
    Machine (Runtime Store) ReconcileCall (Except ServerError Unit) where
  step w call := w.reconcileJob B call.ctx call.execution call.now

/-- The change is a reconciliation candidate. -/
def IsCandidate (w : Runtime Store) (changeID : String) : Prop :=
  changeID ∈ w.server.reconciliationCandidates

/-- What a call does to the change of the job. -/
inductive Reconciled (w : Runtime Store) (changeID : String) (record : ChangeRecord)
    (call : ReconcileCall) (w' : Runtime Store) : Except ServerError Unit → Prop
  /-- The arguments are incomplete. -/
  | incomplete (text : String) (same : w' = w) :
      Reconciled w changeID record call w' (.error (.message text))
  /-- The change is already where the job ended. -/
  | settled (ended : terminalChangeState call.execution.status = some record.machine.state)
      (resolved : ¬ IsCandidate w changeID) (same : w' = w) :
      Reconciled w changeID record call w' (.ok ())
  /-- The change followed the job and was stored. -/
  | stored (held : w'.server.changes.lookup changeID = some
        { record with machine := (record.machine.follow call.execution.status call.now).1 })
      (candidate : IsCandidate w' changeID ↔
        IsCandidate w changeID ∧ call.execution.status.terminal = false) :
      Reconciled w changeID record call w' (.ok ())
  /-- The change followed the job and was not stored. -/
  | unstored (e : JobError) (held : w'.server.changes.lookup changeID = some
        { record with machine := (record.machine.follow call.execution.status call.now).1 }) :
      Reconciled w changeID record call w' (.error (.store e))

theorem reconciled {B : Backend Store} {w : Runtime Store} {changeID : String}
    {record : ChangeRecord} (held : w.server.changes.lookup changeID = some record)
    {call : ReconcileCall} (home : call.execution.changeID = changeID)
    (accepted : (record.machine.follow call.execution.status call.now).2 = none) :
    Reconciled w changeID record call ((reconcileMachine B).next w call)
      ((reconcileMachine B).answer w call) := by
  subst home
  simp only [reconcileMachine, Machine.next, Machine.answer]
  unfold Runtime.reconcileJob
  split
  · exact .incomplete _ rfl
  · simp only [held]
    split
    · next resolved => exact .settled resolved.1 resolved.2 rfl
    · simp only [accepted]
      unfold Runtime.persistFollowed
      dsimp only [Runtime.persist]
      split
      · exact .unstored _ (AList.lookup_insert _)
      · split
        · next terminal =>
            refine .stored (AList.lookup_insert _) ?_
            simp [IsCandidate, Server.dropCandidate, terminal]
        · next unfinished =>
            refine .stored (AList.lookup_insert _) ?_
            simp [IsCandidate, Server.put, unfinished]

/-! ## Sequences of calls -/

section Calls

variable {B : Backend Store} {snapshots : Set Job} {changeID : String}

/-- The server holds the change in a state its job allows. -/
def Holds (snapshots : Set Job) (changeID : String) (w : Runtime Store) : Prop :=
  ∃ record, w.server.changes.lookup changeID = some record ∧ Follows snapshots record.machine.state

/-- **One call** is not refused, and keeps the change in a state its job allows. -/
theorem Holds.call (agreed : Agreed snapshots) {w : Runtime Store}
    (holds : Holds snapshots changeID w) {call : ReconcileCall}
    (observed : call.execution ∈ snapshots) (home : call.execution.changeID = changeID) :
    Holds snapshots changeID ((reconcileMachine B).next w call) ∧
      ∀ e, (reconcileMachine B).answer w call ≠ .error (.change e) := by
  obtain ⟨record, held, follows⟩ := holds
  obtain ⟨accepted, further, -⟩ := follows.follow agreed observed call.now
  have effect := reconciled (B := B) held home accepted
  generalize (reconcileMachine B).next w call = w', (reconcileMachine B).answer w call = answer
    at effect ⊢
  cases effect with
  | incomplete text same => exact ⟨same ▸ ⟨record, held, follows⟩, nofun⟩
  | settled ended resolved same => exact ⟨same ▸ ⟨record, held, follows⟩, nofun⟩
  | stored held' _ => exact ⟨⟨_, held', further⟩, nofun⟩
  | unstored e held' => exact ⟨⟨_, held', further⟩, nofun⟩

theorem Holds.calls (agreed : Agreed snapshots) {w : Runtime Store}
    (holds : Holds snapshots changeID w) {calls : List ReconcileCall}
    (observed : ∀ call ∈ calls, call.execution ∈ snapshots)
    (home : ∀ call ∈ calls, call.execution.changeID = changeID) :
    Holds snapshots changeID ((reconcileMachine B).exec w calls) := by
  induction calls generalizing w with
  | nil => exact holds
  | cons call calls ih =>
      rw [List.forall_mem_cons] at observed home
      exact ih (holds.call agreed observed.1 home.1).1 observed.2 home.2

/-- A final snapshot that was answered leaves the change where the job ended, and no
candidate. -/
theorem Holds.settle (agreed : Agreed snapshots) {w : Runtime Store}
    (holds : Holds snapshots changeID w) {call : ReconcileCall}
    (observed : call.execution ∈ snapshots) (home : call.execution.changeID = changeID)
    (terminal : call.execution.status.terminal = true)
    (answered : (reconcileMachine B).answer w call = .ok ()) :
    ∃ done, ((reconcileMachine B).next w call).server.changes.lookup changeID = some done ∧
      terminalChangeState call.execution.status = some done.machine.state ∧
      ¬ IsCandidate ((reconcileMachine B).next w call) changeID := by
  obtain ⟨record, held, follows⟩ := holds
  obtain ⟨accepted, -, ended⟩ := follows.follow agreed observed call.now
  have effect := reconciled (B := B) held home accepted
  rw [answered] at effect
  generalize (reconcileMachine B).next w call = w' at effect ⊢
  cases effect with
  | settled ended resolved same => exact ⟨record, same ▸ held, ended, same ▸ resolved⟩
  | stored held' candidate => exact ⟨_, held', ended terminal, by simp [candidate, terminal]⟩

/-- Later calls leave the record of a finished change alone, and make it a candidate only
when they could not store it. -/
theorem settled_calls (agreed : Agreed snapshots) {w : Runtime Store} {done : ChangeRecord}
    {last : Job} (memberLast : last ∈ snapshots)
    (ended : terminalChangeState last.status = some done.machine.state)
    (held : w.server.changes.lookup changeID = some done) (resolved : ¬ IsCandidate w changeID)
    {calls : List ReconcileCall} (observed : ∀ call ∈ calls, call.execution ∈ snapshots)
    (home : ∀ call ∈ calls, call.execution.changeID = changeID) :
    ((reconcileMachine B).exec w calls).server.changes.lookup changeID = some done ∧
      (IsCandidate ((reconcileMachine B).exec w calls) changeID →
        ∃ e ∈ (reconcileMachine B).trace w calls, ∃ error, e.result = .error (.store error)) := by
  induction calls using List.reverseRecOn with
  | nil => exact ⟨held, fun candidate => absurd candidate resolved⟩
  | append_singleton calls call ih =>
      rw [List.forall_mem_append, List.forall_mem_singleton] at observed home
      obtain ⟨heldBefore, failed⟩ := ih observed.1 home.1
      have follows : Follows snapshots done.machine.state :=
        .inr (.inr ⟨last, memberLast, ended⟩)
      obtain ⟨accepted, -, -⟩ := follows.follow agreed observed.2 call.now
      have stays := (Snapshot.follow_terminal ended call.execution.status call.now).1
      have effect := reconciled (B := B) heldBefore home.2 accepted
      rw [Machine.exec_concat, Machine.trace_concat]
      have earlier : IsCandidate ((reconcileMachine B).exec w calls) changeID →
          ∃ e ∈ (reconcileMachine B).trace w calls ++
            [(reconcileMachine B).event ((reconcileMachine B).exec w calls) call],
          ∃ error, e.result = .error (.store error) := by
        intro candidate
        obtain ⟨e, member, failure⟩ := failed candidate
        exact ⟨e, List.mem_append_left _ member, failure⟩
      generalize answered : (reconcileMachine B).answer ((reconcileMachine B).exec w calls) call =
        answer at effect
      generalize (reconcileMachine B).next ((reconcileMachine B).exec w calls) call = w'
        at effect ⊢
      cases effect with
      | incomplete text same => rw [same]; exact ⟨heldBefore, earlier⟩
      | settled _ _ same => rw [same]; exact ⟨heldBefore, earlier⟩
      | stored held' candidate =>
          rw [stays] at held'
          exact ⟨held', fun isCandidate => earlier (candidate.mp isCandidate).1⟩
      | unstored e held' =>
          rw [stays] at held'
          exact ⟨held', fun _ =>
            ⟨_, List.mem_append_right _ (List.mem_singleton_self _), e, answered⟩⟩

end Calls

/-- **Reconciliation converges and never contradicts the job.** The snapshots come from any
points of one run of a repository, in any order, and the calls to the backend may fail. No
call is refused by the change machine. After a final snapshot was reconciled, the change is
in the state that snapshot stands for, its record is never written again, and it becomes a
candidate only when a later call failed to store it. -/
theorem reconciliation_converges (B : Backend Store) {id changeID : String}
    {snapshots : Set Job} (life : LifeOf id snapshots)
    (home : ∀ job ∈ snapshots, job.changeID = changeID) {w : Runtime Store}
    {record : ChangeRecord} (held : w.server.changes.lookup changeID = some record)
    (follows : Follows snapshots record.machine.state) {calls : List ReconcileCall}
    (observed : ∀ call ∈ calls, call.execution ∈ snapshots) :
    (∀ e ∈ (reconcileMachine B).trace w calls, ∀ error, e.result ≠ .error (.change error)) ∧
    ∀ earlier call later, calls = earlier ++ call :: later →
      call.execution.status.terminal = true →
      (reconcileMachine B).answer ((reconcileMachine B).exec w earlier) call = .ok () →
      ∃ done,
        ((reconcileMachine B).exec w (earlier ++ [call])).server.changes.lookup changeID =
          some done ∧
        terminalChangeState call.execution.status = some done.machine.state ∧
        ∀ more, more <+: later →
          ((reconcileMachine B).exec w (earlier ++ call :: more)).server.changes.lookup changeID =
            some done ∧
          (IsCandidate ((reconcileMachine B).exec w (earlier ++ call :: more)) changeID →
            ∃ e ∈ (reconcileMachine B).trace ((reconcileMachine B).exec w (earlier ++ [call])) more,
              ∃ error, e.result = .error (.store error)) := by
  have agreed := life.agreed
  have atHome : ∀ call ∈ calls, call.execution.changeID = changeID :=
    fun call member => home _ (observed call member)
  have start : Holds snapshots changeID w := ⟨record, held, follows⟩
  constructor
  · intro e member
    obtain ⟨earlier, call, later, rfl, rfl⟩ := Machine.mem_trace.mp member
    rw [List.forall_mem_append, List.forall_mem_cons] at observed atHome
    have before := start.calls (B := B) agreed observed.1 atHome.1
    exact (before.call agreed observed.2.1 atHome.2.1).2
  · rintro earlier call later rfl terminal answered
    rw [List.forall_mem_append, List.forall_mem_cons] at observed atHome
    have before := start.calls (B := B) agreed observed.1 atHome.1
    obtain ⟨done, held', ended, resolved⟩ :=
      before.settle agreed observed.2.1 atHome.2.1 terminal answered
    rw [← Machine.exec_concat] at held' resolved
    refine ⟨done, held', ended, fun more ahead => ?_⟩
    have rejoin : earlier ++ call :: more = (earlier ++ [call]) ++ more := by simp
    rw [rejoin, Machine.exec_append]
    exact settled_calls agreed observed.2.1 ended held' resolved
      (fun call member => observed.2.2 call (ahead.subset member))
      fun call member => atHome.2.2 call (ahead.subset member)

/-- The job of a queued change is created and claimed. -/
def startedRun : List Op :=
  [.job (.create .background (jobRequest approvedRecord ⟨"1", 40, 40⟩)),
    .job (.claim .background "worker" 41 1000)]

/-- The job as a reader sees it after some operations. -/
def observedJob (ops : List Op) : Job :=
  ((memoryMachine.exec .new ops).job "job-1").getD succeededJob

def workerToken : String := ((observedJob startedRun).lease.map Lease.token).getD ""

/-- The worker completes the job. -/
def finishedRun : List Op :=
  startedRun ++ [.job (.succeed .background "job-1" workerToken ⟨[], [], []⟩ 42)]

/-- The end of the job is reconciled before an older snapshot. -/
def staleCalls : List ReconcileCall :=
  [⟨.background, observedJob finishedRun, 51⟩, ⟨.background, observedJob startedRun, 52⟩]

theorem finishedRun_home :
    ∀ job ∈ memorySnapshots finishedRun "job-1", job.changeID = "chg-1" := by
  have all : ∀ earlier ∈ finishedRun.inits,
      ((memoryMachine.exec .new earlier).job "job-1").all (·.changeID = "chg-1") = true := by
    decide +kernel
  rintro job ⟨earlier, before, found⟩
  have here := all earlier ((List.mem_inits _ _).mpr before)
  rw [found, Option.all_some, decide_eq_true_eq] at here
  exact here

theorem reconciliation_converges_stale :
    ∃ done, ((reconcileMachine acceptingBackend).exec (serverWith queuedRecord)
      staleCalls).server.changes.lookup "chg-1" = some done ∧ done.machine.state = .succeeded := by
  have observed : ∀ call ∈ staleCalls, call.execution ∈ memorySnapshots finishedRun "job-1" := by
    have last : observedJob finishedRun ∈ memorySnapshots finishedRun "job-1" :=
      ⟨finishedRun, List.prefix_rfl, by decide +kernel⟩
    have stale : observedJob startedRun ∈ memorySnapshots finishedRun "job-1" :=
      ⟨startedRun, List.prefix_append _ _, by decide +kernel⟩
    simp [staleCalls, last, stale]
  have queued : (serverWith queuedRecord).server.changes.lookup "chg-1" = some queuedRecord := by
    decide +kernel
  have split : staleCalls = [] ++ ⟨.background, observedJob finishedRun, 51⟩ ::
      [⟨.background, observedJob startedRun, 52⟩] := rfl
  have converges := (reconciliation_converges acceptingBackend (.memory finishedRun)
    finishedRun_home queued (.inl rfl) observed).2 _ _ _ split (by decide +kernel)
    (by decide +kernel)
  obtain ⟨done, -, ended, later⟩ := converges
  have succeeded : terminalChangeState (observedJob finishedRun).status = some .succeeded := by
    decide +kernel
  have held := (later _ List.prefix_rfl).1
  rw [← split] at held
  exact ⟨done, held, Option.some.inj (ended.symm.trans succeeded)⟩

end ControlCenter.Persistence
