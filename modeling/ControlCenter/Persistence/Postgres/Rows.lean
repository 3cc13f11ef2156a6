import ControlCenter.Persistence.Postgres.Jobs

/-!
# What a step does to a row of `cc_jobs`

Every statement of the job repository keeps the columns that say what a job is, and none
changes the status of a finished job (`step_advances`). A row appears only by a creation
(`create_cases`, `step_origin`). Results about whole runs need no more than this.
-/

set_option autoImplicit false

namespace ControlCenter.Postgres

open Library Orchestration

/-- The row is a later one of the same job. -/
structure JobRow.Advances (row row' : JobRow) : Prop where
  id : row'.id = row.id
  changeID : row'.changeID = row.changeID
  idempotencyKey : row'.idempotencyKey = row.idempotencyKey
  inputFingerprint : row'.inputFingerprint = row.inputFingerprint
  maxAttempts : row'.maxAttempts = row.maxAttempts
  finished : row.status.terminal = true → row'.status = row.status

namespace JobRow.Advances

theorem refl (row : JobRow) : row.Advances row := ⟨rfl, rfl, rfl, rfl, rfl, fun _ => rfl⟩

theorem trans {first second third : JobRow} (earlier : first.Advances second)
    (later : second.Advances third) : first.Advances third where
  id := later.id.trans earlier.id
  changeID := later.changeID.trans earlier.changeID
  idempotencyKey := later.idempotencyKey.trans earlier.idempotencyKey
  inputFingerprint := later.inputFingerprint.trans earlier.inputFingerprint
  maxAttempts := later.maxAttempts.trans earlier.maxAttempts
  finished ended := by
    have same := earlier.finished ended
    exact (later.finished (by rw [same, ended])).trans same

end JobRow.Advances

/-! ## The statements -/

theorem cancelExpired_advances (now : Time) (row : JobRow) :
    row.Advances (row.cancelExpired now) := by
  unfold JobRow.cancelExpired
  split
  · next expired => exact ⟨rfl, rfl, rfl, rfl, rfl, by simp [expired.1, Status.terminal]⟩
  · exact .refl row

theorem failExhausted_advances (now : Time) (row : JobRow) :
    row.Advances (row.failExhausted now) := by
  unfold JobRow.failExhausted
  split
  · next exhausted =>
      refine ⟨rfl, rfl, rfl, rfl, rfl, fun ended => ?_⟩
      rcases exhausted.2 with status | status | ⟨status, -⟩ <;>
        simp [status, Status.terminal] at ended
  · exact .refl row

theorem startAttempt_advances {row : JobRow} {now : Time} (claimable : row.claimable now = true)
    (lease : Lease) (now' : Time) : row.Advances (row.startAttempt lease now') := by
  refine ⟨rfl, rfl, rfl, rfl, rfl, fun ended => ?_⟩
  rw [JobRow.claimable, Bool.and_eq_true] at claimable
  cases status : row.status <;> simp_all [Status.terminal]

theorem requestCancel_advances (row : JobRow) (now : Time) :
    row.Advances (row.requestCancel now) :=
  ⟨rfl, rfl, rfl, rfl, rfl, fun ended => by simp [JobRow.requestCancel, ended]⟩

/-- The rows of a leased job that a worker writes are not finished. -/
theorem unfinished_of_holdsLease {row : JobRow} {token : String} {now : Time}
    (holds : row.holdsLease token now = true) : row.status.terminal = false := by
  rw [JobRow.holdsLease, Bool.and_eq_true] at holds
  cases status : row.status <;> simp_all [Status.leased, Status.terminal]

namespace JobRepository

/-- Every row of the one repository is a later row in the other. -/
def Advances (r r' : JobRepository) : Prop :=
  ∀ id row, r.rows.lookup id = some row →
    ∃ row', r'.rows.lookup id = some row' ∧ row.Advances row'

theorem Advances.refl (r : JobRepository) : r.Advances r :=
  fun _ row found => ⟨row, found, .refl row⟩

theorem Advances.trans {first second third : JobRepository} (earlier : first.Advances second)
    (later : second.Advances third) : first.Advances third := by
  intro id row found
  obtain ⟨row', found', advances⟩ := earlier id row found
  obtain ⟨row'', found'', advances'⟩ := later id row' found'
  exact ⟨row'', found'', advances.trans advances'⟩

theorem insert_advances {r : JobRepository} {id : String} {row row' : JobRow}
    (found : r.rows.lookup id = some row) (advances : row.Advances row') :
    r.Advances ⟨r.rows.insert id row'⟩ := by
  intro id' other found'
  by_cases same : id' = id
  · subst same
    cases found.symm.trans found'
    exact ⟨row', AList.lookup_insert _, advances⟩
  · exact ⟨other, by rw [AList.lookup_insert_ne same, found'], .refl other⟩

theorem createChecked_advances (db : Database) (r : JobRepository) (request : CreateRequest) :
    r.Advances (r.createChecked db request).1 := by
  unfold createChecked
  split
  · split <;> exact .refl r
  · split
    · exact .refl r
    · next fresh =>
        split
        · exact .refl r
        · intro id row found
          have other : id ≠ request.id := fun same => fresh (same ▸ Table.mem_of_lookup found)
          exact ⟨row, by rw [AList.lookup_insert_ne other, found], .refl row⟩

theorem sweep_advances (r : JobRepository) (now : Time) : r.Advances ⟨r.sweep now⟩ := by
  intro id row found
  refine ⟨(row.cancelExpired now).failExhausted now, ?_,
    (cancelExpired_advances now row).trans (failExhausted_advances now _)⟩
  simp [sweep, found]

theorem claimChecked_advances (r : JobRepository) (workerID : String) (now : Time)
    (ttl : Duration) (random : String) :
    r.Advances (r.claimChecked workerID now ttl random).1 := by
  have swept := r.sweep_advances (microseconds now)
  unfold claimChecked
  dsimp only
  split
  · exact swept
  · next id first =>
      split
      · exact .refl r
      · next row found =>
          have claimable := List.find?_some first
          rw [found, Option.any_some] at claimable
          exact swept.trans (insert_advances found (startAttempt_advances claimable _ _))

theorem updateLeased_advances (r : JobRepository) (id token : String) (now : Time)
    {update : JobRow → JobRow} (observations : JobRow → Option String)
    (keeps : ∀ row : JobRow, row.status.terminal = false → row.Advances (update row)) :
    r.Advances (r.updateLeased id token now update observations).1 := by
  unfold updateLeased
  split
  · exact .refl r
  · next row selected =>
      obtain ⟨found, holds⟩ := Option.filter_eq_some_iff.mp selected
      split
      · exact .refl r
      · exact insert_advances found (keeps row (unfinished_of_holdsLease holds))

theorem cancelChecked_advances (r : JobRepository) (id : String) (now : Time) :
    r.Advances (r.cancelChecked id now).1 := by
  unfold cancelChecked
  split
  · exact .refl r
  · next row found => exact insert_advances found (requestCancel_advances row _)

theorem cancelIfVersionChecked_advances (r : JobRepository) (id : String)
    (expectedVersion : UInt64) (now : Time) :
    r.Advances (r.cancelIfVersionChecked id expectedVersion now).1 := by
  unfold cancelIfVersionChecked
  split
  · exact .refl r
  · next row found =>
      split
      · exact .refl r
      · exact insert_advances found (requestCancel_advances row _)

/-- **A step keeps what every job is, and the status of every finished job.** -/
theorem step_advances (db : Database) (r : JobRepository) (random : String)
    (op : JobOp String) : r.Advances (r.step db random op).1 := by
  by_cases served : op.ArgumentsAccepted ∧ db.refuses op = none
  · rw [step_accepted db r random served.1 served.2]
    cases op with
    | create ctx request => exact createChecked_advances db r request
    | claim ctx workerID now ttl => exact claimChecked_advances r workerID now ttl random
    | renewLease ctx id token now ttl =>
        exact updateLeased_advances r id token now _ fun row unfinished =>
          ⟨rfl, rfl, rfl, rfl, rfl, by simp [unfinished]⟩
    | succeed ctx id token output now =>
        exact updateLeased_advances r id token now _ fun row unfinished =>
          ⟨rfl, rfl, rfl, rfl, rfl, by simp [unfinished]⟩
    | fail ctx id token message output policy now =>
        exact updateLeased_advances r id token now _ fun row unfinished =>
          ⟨rfl, rfl, rfl, rfl, rfl, by simp [unfinished]⟩
    | requestCancel ctx id now => exact cancelChecked_advances r id now
    | requestCancelIfVersion ctx id expectedVersion now =>
        exact cancelIfVersionChecked_advances r id expectedVersion now
  · obtain ⟨e, refused⟩ := step_refused db r random served
    rw [refused]
    exact .refl r

/-- Between two points of a run, every job is the same and finished jobs stay as they are. -/
theorem exec_advances (db : Database) (r : JobRepository) (calls : List (JobOp String × String)) :
    r.Advances ((postgresMachine db).exec r calls) := by
  have keeps : ∀ s call, r.Advances s → r.Advances ((postgresMachine db).next s call) :=
    fun s call advances => advances.trans (step_advances db s call.2 call.1)
  exact Machine.exec_keeps keeps (.refl r) calls

/-! ## Creation -/

/-- **What a creation does**: it fails, or replays the row under its key, or inserts. -/
theorem create_cases (db : Database) (r : JobRepository) (ctx : Context)
    (request : CreateRequest) :
    (∃ e, r.create db ctx request = (r, .error e)) ∨
    (∃ row, r.byIdempotency request.idempotencyKey = some row ∧
      row.inputFingerprint = jobFingerprint request ∧
      r.create db ctx request = (r, .ok (scanJob row, false))) ∨
    request.id ≠ "" ∧ r.byIdempotency request.idempotencyKey = none ∧ request.id ∉ r.rows ∧
      r.create db ctx request = (⟨r.rows.insert request.id (insertedRow db request)⟩,
        .ok (scanJob (insertedRow db request), true)) := by
  unfold create
  split
  · exact .inl ⟨_, rfl⟩
  · next complete =>
      rw [not_or] at complete
      unfold query
      split
      · exact .inl ⟨_, rfl⟩
      · split
        · exact .inl ⟨_, rfl⟩
        · unfold createChecked
          split
          · next row found =>
              split
              · exact .inl ⟨_, rfl⟩
              · next same =>
                  rw [not_or, not_not] at same
                  exact .inr (.inl ⟨row, found, same.1, rfl⟩)
          · next unused =>
              split
              · exact .inl ⟨_, rfl⟩
              · next fresh =>
                  split
                  · exact .inl ⟨_, rfl⟩
                  · exact .inr (.inr ⟨complete.1, unused, fresh, rfl⟩)

theorem insert_mem {r : JobRepository} {id id' : String} {row row' : JobRow}
    (found : r.rows.lookup id = some row) (member : id' ∈ r.rows.insert id row') :
    id' ∈ r.rows := by
  rcases (AList.mem_insert _).mp member with rfl | member
  · exact Table.mem_of_lookup found
  · exact member

theorem sweep_mem {r : JobRepository} {now : Time} {id : String} (member : id ∈ r.sweep now) :
    id ∈ r.rows := by
  rw [← AList.lookup_isSome] at member ⊢
  simpa [sweep] using member

theorem updateLeased_mem {r : JobRepository} {id id' token : String} {now : Time}
    {update : JobRow → JobRow} {observations : JobRow → Option String}
    (member : id' ∈ (r.updateLeased id token now update observations).1.rows) :
    id' ∈ r.rows := by
  unfold updateLeased at member
  split at member
  · exact member
  · next row selected =>
      obtain ⟨found, -⟩ := Option.filter_eq_some_iff.mp selected
      split at member
      · exact member
      · exact insert_mem found member

theorem claimChecked_mem {r : JobRepository} {id workerID random : String} {now : Time}
    {ttl : Duration} (member : id ∈ (r.claimChecked workerID now ttl random).1.rows) :
    id ∈ r.rows := by
  unfold claimChecked at member
  dsimp only at member
  split at member
  · exact sweep_mem member
  · split at member
    · exact member
    · next row found =>
        rcases (AList.mem_insert _).mp member with rfl | member
        · exact sweep_mem (Table.mem_of_lookup found)
        · exact sweep_mem member

/-- **Workers add no job.** -/
theorem step_mem {db : Database} {r : JobRepository} {random id : String} {op : JobOp String}
    (works : op.creates = false) (member : id ∈ (r.step db random op).1.rows) : id ∈ r.rows := by
  by_cases served : op.ArgumentsAccepted ∧ db.refuses op = none
  · rw [step_accepted db r random served.1 served.2] at member
    cases op with
    | create ctx request => cases works
    | claim ctx workerID now ttl => exact claimChecked_mem member
    | renewLease ctx id' token now ttl => exact updateLeased_mem member
    | succeed ctx id' token output now => exact updateLeased_mem member
    | fail ctx id' token message output policy now => exact updateLeased_mem member
    | requestCancel ctx id' now =>
        simp only [serve, cancelChecked] at member
        split at member
        · exact member
        · next row found => exact insert_mem found member
    | requestCancelIfVersion ctx id' expectedVersion now =>
        simp only [serve, cancelIfVersionChecked] at member
        split at member
        · exact member
        · next row found =>
            split at member
            · exact member
            · exact insert_mem found member
  · obtain ⟨e, refused⟩ := step_refused db r random served
    rw [refused] at member
    exact member

/-- Every row after a worker's step is a later row of the same job. -/
theorem step_origin {db : Database} {r : JobRepository} {random id : String} {op : JobOp String}
    (works : op.creates = false) {row' : JobRow}
    (found : (r.step db random op).1.rows.lookup id = some row') :
    ∃ row, r.rows.lookup id = some row ∧ row.Advances row' := by
  obtain ⟨row, before⟩ := Table.exists_lookup_of_mem (step_mem works (Table.mem_of_lookup found))
  obtain ⟨row'', after, advances⟩ := step_advances db r random op id row before
  cases after.symm.trans found
  exact ⟨row, before, advances⟩

end JobRepository

end ControlCenter.Postgres
