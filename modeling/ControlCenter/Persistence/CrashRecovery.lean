import ControlCenter.Persistence.Atomicity

/-!
# One job for each approved change

A server that stops between the creation of a job and the update of its change leaves the
change approved in the database, with a job nobody refers to. The next start restores the
change and asks for its job again, under the same idempotency key. There is never a second
job. But the fingerprint of the request is taken from the bytes of the input, and the stored
input is the text of a `jsonb` value, so the start finds its job exactly when the two texts
have one fingerprint (`crash_recovery_iff`).

Whatever fails in a run, the two tables and the memory of the server never contradict each
other about which job is whose (`bindings_intact`).
-/

set_option autoImplicit false

namespace ControlCenter.Persistence

open Library Orchestration Change Policy Postgres

/-! ## The start after the crash -/

/-- The change is stored as approved, without a job, and a start restored it. -/
structure StillApproved (st : Store) (id : String) (persisted : PersistedChange)
    (record : ChangeRecord) : Prop where
  loaded : st.state.loadChange id = some persisted
  restored : ∃ revisions, restoreChange revisions persisted = .ok record
  approved : record.machine.state = .approved
  unbound : record.jobID = ""

/-- Nothing stands against the request for the job but its key. -/
structure Answers (db : Database) (ctx : Context) (draw : EnqueueDraw) (record : ChangeRecord) :
    Prop where
  live : ctx.err = none
  bindable : db.refuses (.create ctx (jobRequest record draw)) = none
  valid : Json.valid record.input = true
  timed : draw.createdAt ≠ 0
  version : record.machine.version.toNat + 1 < 2 ^ 63

/-- The change is queued with the job, in memory and in the database. The jobs are those of
before. -/
structure Rebinds (st : Store) (id jobID : String)
    (result : Runtime Link × Except ServerError Unit) : Prop where
  ok : result.2 = .ok ()
  held : ∃ record, result.1.server.changes.lookup id = some record ∧
    record.machine.state = .queued ∧ record.jobID = jobID
  stored : ∃ row, result.1.store.store.state.changes.lookup id = some row ∧
    row.state = .queued ∧ row.jobID = jobID
  jobs : result.1.store.store.jobs = st.jobs

/-- At most one job belongs to the change. -/
def OneJob (st : Store) (id : String) : Prop :=
  ∀ jobID jobID', st.JobOf jobID id → st.JobOf jobID' id → jobID = jobID'

section Recovery

variable {db : Database} {strict : Prop} {st : Store}

theorem loadChange_own (sound : st.Sound db strict) {id : String}
    {persisted : PersistedChange} (loaded : st.state.loadChange id = some persisted) :
    id ∈ st.state.changes ∧ persisted.snapshot.id = id := by
  obtain ⟨row, stored, rfl⟩ := Option.map_eq_some_iff.mp loaded
  exact ⟨Table.mem_of_lookup stored, sound.changeID id row stored⟩

/-- No other change has the job of a record the server knows. -/
theorem jobTaken_eq_false (sound : st.Sound db strict) {record : ChangeRecord}
    (knows : st.Knows db record) :
    st.state.jobTaken record.machine.id record.jobID = false := by
  unfold OrchestrationState.jobTaken
  by_cases bound : record.jobID = ""
  · simp [bound]
  · cases found : st.state.changes.findRow fun row =>
        row.id != record.machine.id && row.jobID == record.jobID with
    | none => simp
    | some row =>
        exfalso
        obtain ⟨other, id, stored⟩ := Table.findRow_eq_some found
        rw [Bool.and_eq_true, bne_iff_ne, beq_iff_eq] at other
        obtain ⟨job, exists', belongs⟩ := knows.job bound
        obtain ⟨job', exists'', belongs'⟩ :=
          (sound.bound id row stored).1 (other.2.symm ▸ bound)
        rw [other.2] at exists''
        cases exists'.symm.trans exists''
        refine other.1 ?_
        rw [sound.changeID id row stored, ← belongs', belongs]

theorem oneJob (sound : st.Sound db strict) (id : String) : OneJob st id := by
  rintro jobID jobID' ⟨job, found, belongs⟩ ⟨job', found', belongs'⟩
  obtain ⟨change, stored, made⟩ := sound.jobChange jobID job found
  obtain ⟨change', stored', made'⟩ := sound.jobChange jobID' job' found'
  rw [belongs] at stored
  rw [belongs'] at stored'
  cases stored.symm.trans stored'
  exact sound.jobKey jobID jobID' job job' found found'
    (made.idempotencyKey.trans made'.idempotencyKey.symm)

variable {record : ChangeRecord} {jobID : String} {persisted : PersistedChange} {ctx : Context}

/-- The job of a change is the one under its key. -/
theorem byIdempotency_of_job (sound : st.Sound db strict) (knows : st.Knows db record)
    {job : JobRow} (found : st.jobs.rows.lookup jobID = some job)
    (belongs : job.changeID = record.machine.id) (draw : EnqueueDraw) :
    st.jobs.byIdempotency (jobRequest record draw).idempotencyKey = some job := by
  obtain ⟨row, stored, own⟩ := knows.stored
  obtain ⟨change, stored', made⟩ := sound.jobChange jobID job found
  rw [belongs] at stored'
  cases stored.symm.trans stored'
  have carries : job.idempotencyKey = (jobRequest record draw).idempotencyKey := by
    rw [made.idempotencyKey, own.idempotencyKey]
    rfl
  cases other : st.jobs.byIdempotency (jobRequest record draw).idempotencyKey with
  | none =>
      have unused := Table.findRow_eq_none other found
      exact absurd carries (of_decide_eq_false unused)
  | some job' =>
      obtain ⟨same, jobID', found'⟩ := Table.findRow_eq_some other
      have one := sound.jobKey jobID jobID' job job' found found'
        (carries.trans (of_decide_eq_true same).symm)
      subst one
      exact found'.symm.trans found

/-- A restored change has an id and an action. -/
theorem restoreChange_named {revisions : Table Revision}
    (restored : restoreChange revisions persisted = .ok record) :
    record.machine.id ≠ "" ∧ record.machine.action ≠ "" := by
  have restores := restoreChange_identity restored
  obtain ⟨revision, created, approved, machine, -, made, -⟩ := restoreChange_eq_ok.mp restored
  obtain ⟨⟨hasID, hasAction, -⟩, -⟩ := new_eq_ok.mp made
  rw [restores.id, restores.action]
  exact ⟨hasID, hasAction⟩

/-- A request under the key of a job is answered with the job, or with a conflict. -/
theorem create_existing (hosted : Database) {draw : EnqueueDraw}
    (answers : Answers hosted ctx draw record)
    (named : record.machine.id ≠ "" ∧ record.machine.action ≠ "") {job : JobRow}
    (existing : st.jobs.byIdempotency (jobRequest record draw).idempotencyKey = some job)
    (attempts : job.maxAttempts = 3) :
    st.jobs.create hosted ctx (jobRequest record draw) =
      if job.inputFingerprint = jobFingerprint (jobRequest record draw) then
        (st.jobs, .ok (scanJob job, false))
      else (st.jobs, .error .idempotencyConflict) := by
  have nonempty : record.input ≠ [] := by
    intro empty
    have valid := answers.valid
    rw [empty] at valid
    exact absurd valid (by decide)
  have complete : ¬ ((jobRequest record draw).id = "" ∨ (jobRequest record draw).changeID = "" ∨
      (jobRequest record draw).actionName = "" ∨ (jobRequest record draw).idempotencyKey = "" ∨
      (jobRequest record draw).input = [] ∨ Json.valid (jobRequest record draw).input = false ∨
      (jobRequest record draw).maxAttempts < 1 ∨
      Time.isZero (jobRequest record draw).now = true) := by
    rw [Time.isZero_iff]
    simp [jobRequest, named, nonempty, answers.valid, answers.timed]
  rw [JobRepository.create, if_neg complete, JobRepository.query, answers.live]
  simp only [answers.bindable, JobRepository.createChecked, existing]
  have three : job.maxAttempts = (jobRequest record draw).maxAttempts := attempts
  by_cases same : job.inputFingerprint = jobFingerprint (jobRequest record draw)
  · simp [same, three]
  · simp [same]

/-- The stored change can be queued with its job. -/
theorem updateChange_queued (sound : st.Sound db strict) (live : ctx.err = none) {id : String}
    (still : StillApproved st id persisted record)
    (small : record.machine.version.toNat + 1 < 2 ^ 63)
    (belongs : st.JobOf jobID record.machine.id) (now : Time) (fingerprint : String) :
    let queued := (record.queued now).bound jobID
    ∃ row, st.state.updateChange ctx (persistedChange queued fingerprint) =
      (st.state.withUpdated row (persistedChange queued fingerprint), .ok ()) := by
  obtain ⟨revisions, restored⟩ := still.restored
  have restores := restoreChange_identity restored
  obtain ⟨own, writes⟩ := restoreChange_writes sound still.loaded restored
  obtain ⟨row, found, rfl⟩ := Option.map_eq_some_iff.mp still.loaded
  have same : record.machine.id = id := own.trans (sound.changeID id row found)
  have version : record.machine.version = row.version := restores.version
  have next : (record.machine.version + 1).toNat = record.machine.version.toNat + 1 := by
    rw [UInt64.toNat_add]
    exact Nat.mod_eq_of_lt (by simp; omega)
  refine ⟨row, OrchestrationState.updateChange_ok live (same ▸ found) ?_ ?_ ?_⟩
  · refine positiveBigint_iff.mpr ?_
    change 1 ≤ (record.machine.version + 1).toNat ∧ (record.machine.version + 1).toNat < 2 ^ 63
    omega
  · change row.version ≤ record.machine.version + 1
    rw [UInt64.le_iff_toNat_le, next, version]
    omega
  · exact jobTaken_eq_false sound ((writes.knows.queued now).bound fun _ => belongs)

/-- **The start finds its job exactly when the fingerprints agree**, and is refused by its key
otherwise. -/
theorem enqueue_rebinds (sound : st.Sound db strict) (s : Server) {id : String}
    (still : StillApproved st id persisted record) {draw : EnqueueDraw}
    (answers : Answers db ctx draw record) {job : JobRow}
    (found : st.jobs.rows.lookup jobID = some job) (belongs : job.changeID = id) :
    let result := Runtime.enqueue (backend db) ⟨s, ⟨st, []⟩⟩ ctx draw record
    (Rebinds st id jobID result ↔
        job.inputFingerprint = jobFingerprint (jobRequest record draw)) ∧
      (job.inputFingerprint ≠ jobFingerprint (jobRequest record draw) →
        result.2 = .error (.store .idempotencyConflict) ∧
          result.1.store.store.jobs = st.jobs) := by
  obtain ⟨revisions, restored⟩ := still.restored
  obtain ⟨own, writes⟩ := restoreChange_writes sound still.loaded restored
  have same := own.trans (loadChange_own sound still.loaded).2
  obtain ⟨_, -, made⟩ := sound.jobChange jobID job found
  have created : (backend db).createJob ⟨st, []⟩ ctx (jobRequest record draw) =
      if job.inputFingerprint = jobFingerprint (jobRequest record draw) then
        (⟨st, []⟩, .ok (scanJob job, false))
      else (⟨st, []⟩, .error .idempotencyConflict) := by
    have answer := create_existing (db.over st.state.changes)
      ⟨answers.live, answers.bindable, answers.valid, answers.timed, answers.version⟩
      (restoreChange_named restored)
      (byIdempotency_of_job sound writes.knows found (belongs.trans same.symm) draw)
      made.maxAttempts
    dsimp only [backend, Link.call, Store.onJobs]
    rw [answer]
    split <;> rfl
  by_cases agree : job.inputFingerprint = jobFingerprint (jobRequest record draw)
  · rw [if_pos agree] at created
    refine ⟨iff_of_true ?_ agree, fun differ => absurd agree differ⟩
    have enqueued := Runtime.enqueue_created (backend db) (w := ⟨s, ⟨st, []⟩⟩) still.approved
      (congrArg Prod.snd created)
    have named : (scanJob job).id = jobID := (sound.jobID jobID job found).1
    rw [created, named] at enqueued
    rw [enqueued]
    dsimp only [Runtime.bindJob, Runtime.persist, backend, Link.call, Store.onState]
    generalize Server.fingerprint _ _ = fingerprint
    obtain ⟨row, written⟩ := updateChange_queued sound answers.live still answers.version
      ⟨job, found, belongs.trans same.symm⟩ draw.queuedAt fingerprint
    rw [written]
    refine ⟨rfl, ⟨(record.queued draw.queuedAt).bound jobID, ?_, rfl, rfl⟩,
      ⟨updatedChange row (persistedChange ((record.queued draw.queuedAt).bound jobID) fingerprint),
        ?_, rfl, rfl⟩, rfl⟩
    · rw [← same]
      exact AList.lookup_insert _
    · rw [← same]
      exact AList.lookup_insert _
  · rw [if_neg agree] at created
    have refused : Runtime.enqueue (backend db) ⟨s, ⟨st, []⟩⟩ ctx draw record = _ :=
      Runtime.enqueue_refused (backend db) (w := ⟨s, ⟨st, []⟩⟩) still.approved
        (congrArg Prod.snd created)
    dsimp only
    rw [refused, created]
    refine ⟨iff_of_false (fun rebinds => ?_) agree, fun _ => ⟨rfl, rfl⟩⟩
    cases rebinds.ok

/-- The start makes no second job. -/
theorem enqueue_oneJob (sound : st.Sound db strict) (s : Server) {id : String}
    (still : StillApproved st id persisted record) (ctx : Context) (draw : EnqueueDraw) :
    OneJob (Runtime.enqueue (backend db) ⟨s, ⟨st, []⟩⟩ ctx draw record).1.store.store id := by
  obtain ⟨revisions, restored⟩ := still.restored
  obtain ⟨-, writes⟩ := restoreChange_writes sound still.loaded restored
  obtain ⟨⟨kept, -⟩, -⟩ := backend_createJob db (l := ⟨st, []⟩) sound writes.knows ctx draw
  have jobs : (Runtime.enqueue (backend db) ⟨s, ⟨st, []⟩⟩ ctx draw record).1.store.store.jobs =
      ((backend db).createJob ⟨st, []⟩ ctx (jobRequest record draw)).1.store.jobs := by
    cases answer : ((backend db).createJob ⟨st, []⟩ ctx (jobRequest record draw)).2 with
    | error e =>
        rw [Runtime.enqueue_refused (backend db) (w := ⟨s, ⟨st, []⟩⟩) still.approved answer]
    | ok created =>
        rw [Runtime.enqueue_created (backend db) (w := ⟨s, ⟨st, []⟩⟩) still.approved answer]
        rfl
  unfold OneJob Store.JobOf
  rw [jobs]
  exact oneJob kept id

end Recovery

/-- **The job of a change is found again after a crash exactly when the fingerprints of its
two inputs agree.** In any run the change is stored as approved, whatever the server was
doing when it stopped. At most one job belongs to it. Its fingerprint is that of an input
whose stored text the change has, and a start finds it exactly when it is also the fingerprint
of the stored text. Otherwise the start fails with a conflict. -/
theorem crash_recovery_iff (cfg : Config) (db : Database) (ops : List WorldOp) (s : Server)
    (id : String) (persisted : PersistedChange) (record : ChangeRecord) (ctx : Context)
    (draw : EnqueueDraw) :
    let st := ((worldMachine cfg db).exec .new ops).store
    let result := Runtime.enqueue (backend db) ⟨s, ⟨st, []⟩⟩ ctx draw record
    StillApproved st id persisted record → Answers db ctx draw record →
    OneJob result.1.store.store id ∧
      ∀ jobID job, st.jobs.rows.lookup jobID = some job → job.changeID = id →
        (∃ input, db.Stores persisted.input input ∧
          job.inputFingerprint = jobFingerprint { jobRequest record draw with input := input }) ∧
        (Rebinds st id jobID result ↔
          job.inputFingerprint =
            jobFingerprint { jobRequest record draw with input := persisted.input }) ∧
        (¬ Rebinds st id jobID result →
          result.2 = .error (.store .idempotencyConflict) ∧
            result.1.store.store.jobs = st.jobs) := by
  intro st result still answers
  have sound : st.Sound db False := (World.exec_sound cfg db ops).store
  obtain ⟨revisions, restored⟩ := still.restored
  have restores := restoreChange_identity restored
  refine ⟨enqueue_oneJob sound s still ctx draw, fun jobID job found belongs => ?_⟩
  obtain ⟨change, stored, made⟩ := sound.jobChange jobID job found
  obtain ⟨request, changeID, action, stores, fingerprint⟩ := made.request
  obtain ⟨finds, refused⟩ := enqueue_rebinds sound s still answers found belongs
  obtain ⟨row, stored', rfl⟩ := Option.map_eq_some_iff.mp still.loaded
  rw [belongs] at stored changeID
  cases stored.symm.trans stored'
  have own : record.machine.id = id := restores.id.trans (sound.changeID id change stored)
  have sameAction : record.machine.action = change.action := restores.action
  have sameInput : record.input = change.input := restores.input
  have asked : jobFingerprint request =
      jobFingerprint { jobRequest record draw with input := request.input } := by
    rw [jobFingerprint, jobFingerprint, changeID, action, ← own, ← sameAction]
    rfl
  have again : jobFingerprint (jobRequest record draw) =
      jobFingerprint { jobRequest record draw with input := change.input } := by
    rw [← sameInput]
    rfl
  rw [again] at finds refused
  exact ⟨⟨request.input, stores, fingerprint.trans asked⟩, finds,
    fun lost => refused fun same => lost (finds.mpr same)⟩

/-! ## Who owns a job -/

/-- The changes, the jobs and the server agree on which job belongs to which change. -/
structure World.Intact (w : World) : Prop where
  owned : ∀ id job, w.store.jobs.rows.lookup id = some job →
    ∃ row, w.store.state.changes.lookup job.changeID = some row ∧
      job.idempotencyKey = "change:" ++ row.idempotencyKey
  oneJob : ∀ id, OneJob w.store id
  oneChange : ∀ id id' row row', w.store.state.changes.lookup id = some row →
    w.store.state.changes.lookup id' = some row' →
    row.idempotencyKey = row'.idempotencyKey ∨ row.jobID = row'.jobID ∧ row.jobID ≠ "" → id = id'
  named : ∀ id row, w.store.state.changes.lookup id = some row →
    row.jobID ≠ "" → w.store.JobOf row.jobID id
  remembered : ∀ s, w.server = some s → ∀ id record, s.changes.lookup id = some record →
    ∃ row, w.store.state.changes.lookup id = some row ∧
      row.idempotencyKey = record.idempotencyKey ∧
      (record.jobID ≠ "" → w.store.JobOf record.jobID id ∧
        (row.jobID ≠ "" → row.jobID = record.jobID))

/-- **Jobs and changes stay bound to each other** in every run of requests, workers, lost
connections, crashes and starts, without manual retries. No change has two jobs, no job or
key has two changes, and the database and the server never name different jobs. -/
theorem bindings_intact (cfg : Config) (db : Database) (ops : List WorldOp) :
    ((worldMachine cfg db).exec .new ops).Intact := by
  have run := World.exec_sound cfg db ops
  generalize (worldMachine cfg db).exec .new ops = w at run
  have sound := run.store
  have named := fun id row stored => (sound.bound id row stored).1
  refine ⟨?_, oneJob sound, ?_, named, ?_⟩
  · intro id job found
    obtain ⟨row, stored, made⟩ := sound.jobChange id job found
    exact ⟨row, stored, made.idempotencyKey⟩
  · rintro id id' row row' stored stored' (sameKey | ⟨sameJob, bound⟩)
    · exact sound.changeKey id id' row row' stored stored' sameKey
    · obtain ⟨job, found, belongs⟩ := named id row stored bound
      obtain ⟨job', found', belongs'⟩ := named id' row' stored' (sameJob ▸ bound)
      rw [← sameJob, found] at found'
      cases found'
      exact belongs.symm.trans belongs'
  · intro s running id record held
    obtain ⟨rfl, writes⟩ := (run.server s running).records id record held
    obtain ⟨row, stored, own⟩ := writes.knows.stored
    refine ⟨row, stored, own.idempotencyKey, fun bound => ?_⟩
    have belongs := writes.knows.job bound
    exact ⟨belongs, fun written => oneJob sound _ _ _ (named _ row stored written) belongs⟩

/-! ## A space in the stored input -/

/-- A start on an empty database, and a revision. -/
def revisionRun : List WorldOp :=
  [.start ⟨.background, [], fun _ => ⟨"0", 5000, 5000⟩, [], 5000⟩ [],
    .createRevision ⟨.background, "key-0", some "operator", some (utf8 "\x7b\x7d"), 10000⟩
      [⟨[], none, "1"⟩]]

def sampleCreation : ChangeRequest :=
  ⟨.background, "key-1", "rev-1", some "operator", some ⟨"restart", utf8 "\x7b\x7d", "rev-1"⟩,
    "1", 20000, ⟨"0", 20000, 20000⟩⟩

/-- An actor approves the version of the change. -/
def approvalBy (actor version : String) : ApprovalRequest :=
  ⟨.background, some actor, version, "chg-1", 30000, 30000, ⟨"1", 40000, 40000⟩⟩

/-- Why the stored changes cannot be restored. -/
def Answer.restoreError : Answer → Option ServerError
  | .started (some (.change e)) => some e
  | .started _ | .revision _ | .change _ | .job _ | .reconciled _ | .swept _ | .worked _ | .down =>
      none

/-- A database whose `jsonb` type prints a space after a colon. -/
def spacingDatabase : Database :=
  { plainDatabase with
    jsonbText := fun text =>
      if text = utf8 "\x7b\"node\":1\x7d" then utf8 "\x7b\"node\": 1\x7d" else text }

/-- The connection is lost after the job of the approved change is created. -/
def crashedRun : List WorldOp :=
  revisionRun ++
    [.createChange { sampleCreation with
        body := some ⟨"restart", utf8 "\x7b\"node\":1\x7d", "rev-1"⟩ } [],
      .approveChange (approvalBy "reviewer" "1")
        [⟨[], none, ""⟩, ⟨[], none, ""⟩,
          ⟨[], some (.lost (.message "connection reset by peer")), ""⟩]]

def sampleDraw : EnqueueDraw :=
  ⟨"2", 50000, 50000⟩

/-- What a start restores of the change, and its job, if the change is still approved and can be
asked for again. -/
def waiting (st : Store) : Option (PersistedChange × ChangeRecord × JobRow) :=
  match st.state.loadChange "chg-1", st.jobs.rows.lookup "job-1" with
  | some persisted, some job =>
      match restoreChange (AList.insert "rev-1" sampleRevision ∅) persisted with
      | .ok record =>
          if record.machine.state = .approved ∧ record.jobID = "" ∧ job.changeID = "chg-1" ∧
              Json.valid record.input = true ∧ record.machine.version.toNat + 1 < 2 ^ 63 then
            some (persisted, record, job)
          else none
      | .error _ => none
  | _, _ => none

theorem waiting_eq_some {st : Store} {persisted : PersistedChange} {record : ChangeRecord}
    {job : JobRow} (found : waiting st = some (persisted, record, job)) :
    StillApproved st "chg-1" persisted record ∧ st.jobs.rows.lookup "job-1" = some job ∧
      job.changeID = "chg-1" ∧ Json.valid record.input = true ∧
      record.machine.version.toNat + 1 < 2 ^ 63 := by
  unfold waiting at found
  split at found
  · rename_i loaded exists'
    split at found
    · rename_i restored
      split at found
      · rename_i holds
        cases found
        obtain ⟨approved, unbound, belongs, rest⟩ := holds
        exact ⟨⟨loaded, ⟨_, restored⟩, approved, unbound⟩, exists', belongs, rest⟩
      · cases found
    · cases found
  · cases found

/-- The job has the fingerprint of the stored text. -/
def sameFingerprint : PersistedChange × ChangeRecord × JobRow → Bool
  | (persisted, record, job) => decide (job.inputFingerprint =
      jobFingerprint { jobRequest record sampleDraw with input := persisted.input })

/-- The start finds the job if the stored text is that of the request, and conflicts with it if
a space is added. -/
theorem crash_recovery_spacing :
    let store db := ((worldMachine sampleConfig db).exec .new crashedRun).store
    let start db := Runtime.enqueue (backend db) ⟨.empty, ⟨store db, []⟩⟩ .background
      sampleDraw
    (∃ persisted record, StillApproved (store plainDatabase) "chg-1" persisted record ∧
      Rebinds (store plainDatabase) "chg-1" "job-1" (start plainDatabase record)) ∧
    ∃ persisted record, StillApproved (store spacingDatabase) "chg-1" persisted record ∧
      ¬ Rebinds (store spacingDatabase) "chg-1" "job-1" (start spacingDatabase record) ∧
      (start spacingDatabase record).2 = .error (.store .idempotencyConflict) := by
  dsimp only
  have agrees : (waiting ((worldMachine sampleConfig plainDatabase).exec .new
      crashedRun).store).map sameFingerprint = some true := by decide +kernel
  have differs : (waiting ((worldMachine sampleConfig spacingDatabase).exec .new
      crashedRun).store).map sameFingerprint = some false := by decide +kernel
  obtain ⟨⟨persisted, record, job⟩, found, same⟩ := Option.map_eq_some_iff.mp agrees
  obtain ⟨⟨persisted', record', job'⟩, found', differ⟩ := Option.map_eq_some_iff.mp differs
  rw [sameFingerprint] at same differ
  obtain ⟨still, exists', belongs, valid, version⟩ := waiting_eq_some found
  obtain ⟨still', exists'', belongs', valid', version'⟩ := waiting_eq_some found'
  obtain ⟨-, finds, -⟩ := (crash_recovery_iff sampleConfig plainDatabase crashedRun .empty "chg-1"
    persisted record .background sampleDraw still
    ⟨rfl, rfl, valid, by decide, version⟩).2 "job-1" job exists' belongs
  obtain ⟨-, finds', refused⟩ := (crash_recovery_iff sampleConfig spacingDatabase crashedRun .empty
    "chg-1" persisted' record' .background sampleDraw still'
    ⟨rfl, rfl, valid', by decide, version'⟩).2 "job-1" job' exists'' belongs'
  have lost := mt finds'.mp (decide_eq_false_iff_not.mp differ)
  exact ⟨⟨persisted, record, still, finds.mpr (decide_eq_true_iff.mp same)⟩,
    persisted', record', still', lost, (refused lost).1⟩

def restartInputs : StartInputs :=
  ⟨.background, ["chg-1"], fun _ => sampleDraw, [], 50000⟩

theorem restart_conflicts_with_its_own_job :
    let M := worldMachine sampleConfig spacingDatabase
    let crashed := M.exec .new crashedRun
    let restarted := M.step crashed (.start restartInputs [])
    (crashed.store.state.changes.lookup "chg-1").map (fun row => (row.state, row.jobID)) =
        some (.approved, "") ∧
      (crashed.store.jobs.rows.lookup "job-1").map (fun row => row.changeID) = some "chg-1" ∧
      restarted.2.restoreError = some (.store .idempotencyConflict) := by
  decide +kernel

end ControlCenter.Persistence
