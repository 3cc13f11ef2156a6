import ControlCenter.Orchestration.Job.Fencing
import ControlCenter.Persistence.Postgres.Jobs

/-!
# Cancellation and the lease of the worker

Cancelling a running job leaves its lease with the worker, which ends the job by a
completion or a failure of its own. A step respects the lease (`Respects`) when a job
that waits for its worker goes on waiting unless that worker ends it.

Both repositories tell only a running job from the others when they cancel, so a second
accepted cancellation takes the job away from a worker whose lease has not run out. This
is the only way: a run respects every lease exactly when no operation of it cancels a
waiting job again (`cancellation_respects_lease_iff`).
-/

set_option autoImplicit false

namespace ControlCenter.Persistence

open Library Orchestration Postgres

/-! ## Respecting a lease -/

/-- The instant an operation carries. -/
def opTime : Op → Time
  | .job (.create _ request) => request.now
  | .job (.claim _ _ now _) => now
  | .job (.renewLease _ _ _ now _) => now
  | .job (.succeed _ _ _ _ now) => now
  | .job (.fail _ _ _ _ _ _ now) => now
  | .job (.requestCancel _ _ now) => now
  | .job (.requestCancelIfVersion _ _ _ now) => now
  | .createManualRetry _ request => request.requestedAt

/-- The operation ends the job with this token. -/
def Completes (id token : String) : Op → Prop
  | .job (.succeed _ id' token' _ _) => id' = id ∧ token' = token
  | .job (.fail _ id' token' _ _ _ _) => id' = id ∧ token' = token
  | _ => False

/-- The operation renews the lease of the job with this token. -/
def Renews (id token : String) : Op → Prop
  | .job (.renewLease _ id' token' _ _) => id' = id ∧ token' = token
  | _ => False

/-- The job waits for a worker whose lease has not run out. -/
def AwaitsWorker (job : Job) (lease : Lease) (now : Time) : Prop :=
  job.status = .cancelRequested ∧ job.lease = some lease ∧ now < lease.expiresAt

/-- A job that waits for its worker is ended by that worker, or waits on under the same
lease, which only the worker prolongs. -/
def Respects (id : String) (op : Op) (now : Time) (before after : Option Job) : Prop :=
  ∀ job lease, before = some job → AwaitsWorker job lease now →
    Completes id lease.token op ∨
    ∃ job', after = some job' ∧ job'.status = .cancelRequested ∧
      (job'.lease = some lease ∨
        Renews id lease.token op ∧ ∃ lease', job'.lease = some lease' ∧
          lease'.token = lease.token)

/-- The operation is a cancellation of the job that passes its checks. The version is
compared as the repository does. -/
def Cancels (id : String) (current : UInt64 → Prop) : Op → Prop
  | .job (.requestCancel ctx id' now) => id' = id ∧ ctx.err = none ∧ now ≠ 0
  | .job (.requestCancelIfVersion ctx id' expectedVersion now) =>
      id' = id ∧ ctx.err = none ∧ expectedVersion ≠ 0 ∧ now ≠ 0 ∧ current expectedVersion
  | _ => False

variable {id : String} {now : Time} {lease : Lease}

theorem not_respects_of_cancelled {current : UInt64 → Prop} {op : Op} {job job' : Job}
    (awaits : AwaitsWorker job lease now) (cancels : Cancels id current op)
    (cancelled : job'.status = .cancelled) : ¬ Respects id op now (some job) (some job') := by
  intro respects
  rcases respects job lease rfl awaits with completes | ⟨_, same, requested, _⟩
  · cases op with
    | job op => cases op <;> simp [Completes, Cancels] at completes cancels
    | createManualRetry => cases completes
  · cases same
    cases cancelled.symm.trans requested

/-! ## The in-memory repository -/

/-- The operation cancels a job that waits for its worker. -/
def MemoryCancelsAgain (id : String) (op : Op) (before : Option Job) : Prop :=
  ∃ job lease, before = some job ∧ AwaitsWorker job lease (opTime op) ∧
    Cancels id (fun expected => job.version = expected) op

theorem cancel_of_cancelRequested {job : Job} (requested : job.status = .cancelRequested)
    (now : Time) : (job.cancel now).status = .cancelled := by
  rw [Job.cancel, if_neg (by simp [requested])]

/-- A cancellation that passes its checks writes the job. -/
theorem memory_cancels {r : MemoryManualRetryRepository} {job : Job} (found : r.job id = some job)
    {op : Op} (cancels : Cancels id (fun expected => job.version = expected) op)
    (unfinished : job.status.terminal = false) :
    ∃ now, (memoryMachine.next r op).job id = some (job.cancel now) := by
  simp only [MemoryManualRetryRepository.job] at found
  cases op with
  | createManualRetry => cases cancels
  | job op =>
      cases op with
      | create | claim | renewLease | succeed | fail => cases cancels
      | requestCancel ctx id' now =>
          obtain ⟨rfl, live, time⟩ := cancels
          refine ⟨now, ?_⟩
          simp [MemoryManualRetryRepository.job, Machine.next, memoryMachine,
            MemoryManualRetryRepository.step, MemoryRepository.step, MemoryRepository.requestCancel,
            live, time, found, MemoryRepository.cancelFound, unfinished, MemoryRepository.put]
      | requestCancelIfVersion ctx id' expected now =>
          obtain ⟨rfl, live, positive, time, current⟩ := cancels
          refine ⟨now, ?_⟩
          simp [MemoryManualRetryRepository.job, Machine.next, memoryMachine,
            MemoryManualRetryRepository.step, MemoryRepository.step,
            MemoryRepository.requestCancelIfVersion, live, time, found, positive, current,
            MemoryRepository.cancelFound, unfinished, MemoryRepository.put]

/-- **One step of the in-memory repository** respects the lease exactly when it does not
cancel a waiting job. -/
theorem memory_respects_iff {r : MemoryManualRetryRepository} (sound : r.jobs.Sound) (op : Op)
    (id : String) :
    Respects id op (opTime op) (r.job id) ((memoryMachine.next r op).job id) ↔
      ¬ MemoryCancelsAgain id op (r.job id) := by
  constructor
  · rintro respects ⟨job, lease, found, awaits, cancels⟩
    obtain ⟨now, after⟩ := memory_cancels found cancels (by rw [awaits.1]; rfl)
    rw [found, after] at respects
    exact not_respects_of_cancelled awaits cancels (cancel_of_cancelRequested awaits.1 now) respects
  · intro notAgain job lease found awaits
    have effect := machine_effect sound op id
    rw [found] at effect notAgain
    generalize memoryMachine.answer r op = reply, (memoryMachine.next r op).job id = after
      at effect ⊢
    cases effect with
    | same _ => exact .inr ⟨job, rfl, awaits.1, .inl awaits.2.1⟩
    | moves isJob own moves =>
        subst isJob own
        cases moves with
        | cancelExpired _ _ expired _ =>
            obtain ⟨lease', held, past⟩ := Job.leaseExpired_iff.mp expired
            cases held.symm.trans awaits.2.1
            exact absurd past (not_le.mpr awaits.2.2)
        | failExhausted _ eligible _ _ | startAttempt _ eligible _ =>
            rw [Job.eligible, awaits.1] at eligible
            cases eligible
        | renew _ holds =>
            obtain ⟨_, lease', held, rfl, _⟩ := holds
            cases held.symm.trans awaits.2.1
            refine .inr ⟨_, rfl, awaits.1, .inr ⟨⟨rfl, rfl⟩, ?_⟩⟩
            simp [Job.renew, held]
        | complete _ holds | failAttempt _ holds =>
            obtain ⟨_, lease', held, rfl, _⟩ := holds
            cases held.symm.trans awaits.2.1
            exact .inl ⟨rfl, rfl⟩
        | cancel accepted _ =>
            exact absurd ⟨job, lease, rfl, awaits, rfl, accepted⟩ notAgain
        | cancelIfVersion accepted _ =>
            obtain ⟨live, positive, time⟩ := accepted
            exact absurd ⟨job, lease, rfl, awaits, rfl, live, positive, time, rfl⟩ notAgain

/-! ## The PostgreSQL repository -/

/-- The job a reader of the table sees. -/
def storedJob (r : JobRepository) (id : String) : Option Job := (r.rows.lookup id).map scanJob

/-- The operation cancels a job that waits for its worker. -/
def PostgresCancelsAgain (db : Database) (r : JobRepository) (id : String) (op : JobOp String) :
    Prop :=
  ∃ row lease, r.rows.lookup id = some row ∧
    AwaitsWorker (scanJob row) lease (microseconds (opTime (.job op))) ∧ db.refuses op = none ∧
    Cancels id (fun expected => row.version = expected.toNat) (.job op)

theorem Cancels.accepted {current : UInt64 → Prop} {op : JobOp String}
    (cancels : Cancels id current (.job op)) : op.ArgumentsAccepted := by
  cases op with
  | create | claim | renewLease | succeed | fail => cases cancels
  | requestCancel => exact cancels.2
  | requestCancelIfVersion =>
      obtain ⟨_, live, positive, time, _⟩ := cancels
      exact ⟨live, positive, time⟩

variable {r : JobRepository} {row : JobRow}

/-- A cancellation that passes its checks writes the row. -/
theorem postgres_cancels {db : Database} (random : String) (found : r.rows.lookup id = some row)
    {op : JobOp String} (bound : db.refuses op = none)
    (cancels : Cancels id (fun expected => row.version = expected.toNat) (.job op)) :
    ∃ now, storedJob (r.step db random op).1 id = some (scanJob (row.requestCancel now)) := by
  rw [JobRepository.step_accepted db r random cancels.accepted bound]
  cases op with
  | create | claim | renewLease | succeed | fail => cases cancels
  | requestCancel ctx id' now =>
      obtain ⟨rfl, _⟩ := cancels
      refine ⟨microseconds now, ?_⟩
      simp [JobRepository.serve, JobRepository.cancelChecked, found, storedJob]
  | requestCancelIfVersion ctx id' expected now =>
      obtain ⟨rfl, _, _, _, current⟩ := cancels
      refine ⟨microseconds now, ?_⟩
      simp [JobRepository.serve, JobRepository.cancelIfVersionChecked, found, current, storedJob]

/-- A row that waits for its worker is not swept, and not claimable. -/
theorem claimChecked_keeps {workerID random : String} {ttl : Duration}
    (found : r.rows.lookup id = some row)
    (awaits : AwaitsWorker (scanJob row) lease (microseconds now)) :
    (r.claimChecked workerID now ttl random).1.rows.lookup id = some row := by
  obtain ⟨requested, held, live⟩ := awaits
  replace requested : row.status = .cancelRequested := requested
  replace held : row.lease = some lease := held
  have swept : (r.sweep (microseconds now)).lookup id = some row := by
    have kept : row.cancelExpired (microseconds now) = row := by
      simp [JobRow.cancelExpired, JobRow.leaseExpired, held, live]
    simp [JobRepository.sweep, found, kept, JobRow.failExhausted, requested]
  unfold JobRepository.claimChecked
  simp only
  split
  · exact swept
  · next id' first =>
      split
      · exact found
      · next row' found' =>
          have claimable := List.find?_some first
          rw [found'] at claimable
          have other : id ≠ id' := by
            rintro rfl
            cases found'.symm.trans swept
            simp [JobRow.claimable, requested] at claimable
          simp only
          rw [Table.lookup_insert_ite, if_neg other, swept]

/-- The statements of a worker write only the row of the job they name, and only with its
token. -/
theorem updateLeased_keeps {id' token : String} {update : JobRow → JobRow}
    {observations : JobRow → Option String} (found : r.rows.lookup id = some row)
    (held : row.lease = some lease) (other : ¬ (id' = id ∧ token = lease.token)) :
    (r.updateLeased id' token now update observations).1.rows.lookup id = some row := by
  unfold JobRepository.updateLeased
  split
  · exact found
  · next row' selected =>
      split
      · exact found
      · obtain ⟨found', holds⟩ := Option.filter_eq_some_iff.mp selected
        by_cases same : id = id'
        · subst same
          cases found'.symm.trans found
          simp only [JobRow.holdsLease, held, Bool.and_eq_true, Option.any_some,
            decide_eq_true_eq] at holds
          exact absurd ⟨rfl, holds.2.1.symm⟩ other
        · rw [Table.lookup_insert_ite, if_neg same, found]

/-- The worker's own token renews the lease. -/
theorem renewChecked_renews {ttl : Duration} (found : r.rows.lookup id = some row)
    (awaits : AwaitsWorker (scanJob row) lease (microseconds now)) :
    (r.renewChecked id lease.token now ttl).1.rows.lookup id =
      some (row.renew (microseconds (Time.add now ttl)) (microseconds now)) := by
  obtain ⟨requested, held, live⟩ := awaits
  replace requested : row.status = .cancelRequested := requested
  replace held : row.lease = some lease := held
  have selected : r.selectLeased id lease.token (microseconds now) = some row := by
    simp [JobRepository.selectLeased, found, JobRow.holdsLease, requested, held, live,
      Status.leased]
  simp [JobRepository.renewChecked, JobRepository.updateLeased, selected]

theorem createChecked_keeps {db : Database} {request : CreateRequest}
    (found : r.rows.lookup id = some row) :
    (r.createChecked db request).1.rows.lookup id = some row := by
  unfold JobRepository.createChecked
  split
  · split <;> exact found
  · split
    · exact found
    · next fresh =>
        split
        · exact found
        · have other : id ≠ request.id := fun same => fresh (same ▸ Table.mem_of_lookup found)
          rw [Table.lookup_insert_ite, if_neg other, found]

theorem insert_other_keeps {id' : String} {row' : JobRow} (found : r.rows.lookup id = some row)
    (other : id' ≠ id) : (r.rows.insert id' row').lookup id = some row := by
  rw [Table.lookup_insert_ite, if_neg (Ne.symm other), found]

/-- **One step of the PostgreSQL repository** respects the lease exactly when it does not
cancel a waiting job. -/
theorem postgres_respects_iff (db : Database) (r : JobRepository) (random : String)
    (op : JobOp String) (id : String) :
    Respects id (.job op) (microseconds (opTime (.job op))) (storedJob r id)
        (storedJob (r.step db random op).1 id) ↔
      ¬ PostgresCancelsAgain db r id op := by
  constructor
  · rintro respects ⟨row, lease, found, awaits, bound, cancels⟩
    obtain ⟨now, after⟩ := postgres_cancels random found bound cancels
    rw [after, storedJob, found] at respects
    refine not_respects_of_cancelled awaits cancels ?_ respects
    have requested : row.status = .cancelRequested := awaits.1
    simp [scanJob, JobRow.requestCancel, requested, Status.terminal]
  · intro notAgain job lease stored awaits
    obtain ⟨row, found, rfl⟩ := Option.map_eq_some_iff.mp stored
    -- it is enough that the row is untouched
    have of_kept : (r.step db random op).1.rows.lookup id = some row →
        Completes id lease.token (.job op) ∨
        ∃ job', storedJob (r.step db random op).1 id = some job' ∧
          job'.status = .cancelRequested ∧ (job'.lease = some lease ∨
            Renews id lease.token (.job op) ∧ ∃ lease', job'.lease = some lease' ∧
              lease'.token = lease.token) := by
      intro kept
      exact .inr ⟨scanJob row, by rw [storedJob, kept]; rfl, awaits.1, .inl awaits.2.1⟩
    by_cases served : op.ArgumentsAccepted ∧ db.refuses op = none
    · obtain ⟨accepted, bound⟩ := served
      rw [JobRepository.step_accepted db r random accepted bound] at of_kept ⊢
      cases op with
      | create ctx request => exact of_kept (createChecked_keeps found)
      | claim ctx workerID now ttl => exact of_kept (claimChecked_keeps found awaits)
      | renewLease ctx id' token now ttl =>
          by_cases own : id' = id ∧ token = lease.token
          · obtain ⟨rfl, rfl⟩ := own
            refine .inr ⟨_, congrArg (Option.map scanJob) (renewChecked_renews found awaits),
              awaits.1, .inr ⟨⟨rfl, rfl⟩, ?_⟩⟩
            have held : row.lease = some lease := awaits.2.1
            simp [scanJob, JobRow.renew, held]
          · exact of_kept (updateLeased_keeps found awaits.2.1 own)
      | succeed ctx id' token output now =>
          by_cases own : id' = id ∧ token = lease.token
          · exact .inl own
          · exact of_kept (updateLeased_keeps found awaits.2.1 own)
      | fail ctx id' token message output policy now =>
          by_cases own : id' = id ∧ token = lease.token
          · exact .inl own
          · exact of_kept (updateLeased_keeps found awaits.2.1 own)
      | requestCancel ctx id' now =>
          by_cases same : id' = id
          · exact absurd ⟨row, lease, found, awaits, bound, same, accepted⟩ notAgain
          · refine of_kept ?_
            simp only [JobRepository.serve, JobRepository.cancelChecked]
            split
            · exact found
            · exact insert_other_keeps found same
      | requestCancelIfVersion ctx id' expected now =>
          refine of_kept ?_
          simp only [JobRepository.serve, JobRepository.cancelIfVersionChecked]
          split
          · exact found
          · next row' found' =>
              split
              · exact found
              · next current =>
                  rw [not_not] at current
                  refine insert_other_keeps found ?_
                  rintro rfl
                  cases found'.symm.trans found
                  obtain ⟨live, positive, time⟩ := accepted
                  exact notAgain ⟨row, lease, found, awaits, bound, rfl, live, positive, time,
                    current⟩
    · obtain ⟨e, refused⟩ := JobRepository.step_refused db r random served
      rw [refused] at of_kept ⊢
      exact of_kept found

/-! ## Whole runs -/

/-- **Cancellation respects the lease of the worker exactly in the runs that cancel no
waiting job again**, in both repositories. -/
theorem cancellation_respects_lease_iff (ops : List Op) (db : Database)
    (calls : List (JobOp String × String)) :
    ((∀ e ∈ memoryMachine.trace .new ops, ∀ id,
        Respects id e.op (opTime e.op) (e.before.job id) (e.after.job id)) ↔
      ∀ e ∈ memoryMachine.trace .new ops, ∀ id, ¬ MemoryCancelsAgain id e.op (e.before.job id)) ∧
    ((∀ e ∈ (postgresMachine db).trace .new calls, ∀ id,
        Respects id (.job e.op.1) (microseconds (opTime (.job e.op.1))) (storedJob e.before id)
          (storedJob e.after id)) ↔
      ∀ e ∈ (postgresMachine db).trace .new calls, ∀ id,
        ¬ PostgresCancelsAgain db e.before id e.op.1) := by
  constructor
  · refine forall₂_congr fun e member => forall_congr' fun id => ?_
    obtain ⟨earlier, op, _, _, rfl⟩ := Machine.mem_trace.mp member
    exact memory_respects_iff (exec_sound earlier) op id
  · refine forall₂_congr fun e member => forall_congr' fun id => ?_
    obtain ⟨_, call, _, _, rfl⟩ := Machine.mem_trace.mp member
    exact postgres_respects_iff db _ call.2 call.1 id

/-- A job is claimed, and cancelled under the lease of its worker. -/
def cancelledRun : List (JobOp String) :=
  [.create .background sampleRequest, .claim .background "worker" 10000 1000000,
    .requestCancel .background "job-1" 20000]

/-- The job that waits for its worker, in memory. -/
def waitingJob : Job := (sampleRequest.job.startAttempt "worker" 10000 1000000).cancel 20000

/-- The row that waits for its worker. -/
def waitingRow : JobRow :=
  ((insertedRow plainDatabase sampleRequest).startAttempt ⟨"token", "worker", 1010000⟩
    10000).requestCancel 20000

/-- A second cancellation, plain or of the current version, takes the job away from a
worker whose lease still runs. -/
theorem repeated_cancellation_drops_lease :
    (∃ e ∈ memoryMachine.trace .new
        (cancelledRun.map Op.job ++ [.job (.requestCancel .background "job-1" 21000)]),
      ¬ Respects "job-1" e.op (opTime e.op) (e.before.job "job-1") (e.after.job "job-1")) ∧
    (∃ e ∈ (postgresMachine plainDatabase).trace .new
        (cancelledRun.map (fun op => (op, "token")) ++
          [(.requestCancelIfVersion .background "job-1" 3 21000, "")]),
      ¬ Respects "job-1" (.job e.op.1) (microseconds (opTime (.job e.op.1)))
        (storedJob e.before "job-1") (storedJob e.after "job-1")) := by
  constructor
  · refine ⟨_, Machine.mem_trace.mpr ⟨_, _, [], rfl, rfl⟩, ?_⟩
    have before : (memoryMachine.exec .new (cancelledRun.map Op.job)).job "job-1" =
        some waitingJob := by decide +kernel
    have after : (memoryMachine.next (memoryMachine.exec .new (cancelledRun.map Op.job))
        (.job (.requestCancel .background "job-1" 21000))).job "job-1" =
        some (waitingJob.cancel 21000) := by decide +kernel
    simp only [Machine.event, before, after]
    have cancels : Cancels "job-1" (fun _ => True)
        (.job (.requestCancel .background "job-1" 21000)) := ⟨rfl, rfl, by decide⟩
    exact not_respects_of_cancelled ⟨by decide +kernel, rfl, by decide⟩ cancels (by decide +kernel)
  · refine ⟨_, Machine.mem_trace.mpr ⟨_, _, [], rfl, rfl⟩, ?_⟩
    have before : storedJob ((postgresMachine plainDatabase).exec .new
        (cancelledRun.map (fun op => (op, "token")))) "job-1" = some (scanJob waitingRow) := by
      decide +kernel
    have after : storedJob ((postgresMachine plainDatabase).next
        ((postgresMachine plainDatabase).exec .new (cancelledRun.map (fun op => (op, "token"))))
        (.requestCancelIfVersion .background "job-1" 3 21000, "")) "job-1" =
        some (scanJob (waitingRow.requestCancel 21000)) := by decide +kernel
    simp only [Machine.event, before, after]
    have cancels : Cancels "job-1" (fun _ => True)
        (.job (.requestCancelIfVersion .background "job-1" 3 21000)) :=
      ⟨rfl, rfl, by decide, by decide, trivial⟩
    exact not_respects_of_cancelled ⟨by decide +kernel, rfl, by decide⟩ cancels (by decide +kernel)

end ControlCenter.Persistence
