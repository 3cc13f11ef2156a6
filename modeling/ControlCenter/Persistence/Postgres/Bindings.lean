import ControlCenter.Persistence.Postgres.Orchestration
import ControlCenter.Persistence.Postgres.Rows

/-!
# Changes and their jobs in the database

The tables of changes and of jobs refer to each other: a change names its job, and a job
names its change and carries the idempotency key of it. `Store.Sound db strict` says that the two
agree: every job belongs to the change whose key it carries, every job a change names
belongs to it, and a change past its approval names one. No statement breaks this, so long
as the server writes a change only with a job of its own (`Store.Knows`).

The second half of this fails for one request of the server, so it is asked for by a
parameter (`strict`): the rest holds in every run.

What the server once read stays true: rows keep what they are (`Store.Grows`). So a fact the
server relies on survives the calls of the workers between two calls of its own.
-/

set_option autoImplicit false

namespace ControlCenter.Orchestration.Change

/-- The change is past its approval and not finished. -/
def State.active : State → Bool
  | .queued | .executing | .verifying => true
  | .pendingApproval | .approved | .succeeded | .failed | .cancelled | .rejected => false

theorem initialState_inactive (decision : Policy.Decision) :
    (initialState decision).active = false := by
  unfold initialState
  split
  · split <;> rfl
  · rfl

end ControlCenter.Orchestration.Change

namespace ControlCenter.Postgres

open Library Orchestration Change Policy

/-! ## Statements on changes -/

theorem positiveBigint_iff {n : UInt64} :
    positiveBigint n = true ↔ 1 ≤ n.toNat ∧ n.toNat < 2 ^ 63 := by
  have zero : n ≠ 0 ↔ 1 ≤ n.toNat := by
    rw [Ne, ← UInt64.toNat_inj, UInt64.toNat_zero]
    omega
  rw [positiveBigint, Bool.and_eq_true, bne_iff_ne, decide_eq_true_iff, zero]

namespace OrchestrationState

/-- The tables after an update of a row. -/
def withUpdated (st : OrchestrationState) (row : ChangeRow) (updated : PersistedChange) :
    OrchestrationState :=
  { st with
    changes := st.changes.insert updated.snapshot.id (updatedChange row updated)
    approvals := st.approvals.insert updated.snapshot.id
      (updated.snapshot.approvals.foldl insertApproval
        (st.approvalRows updated.snapshot.id)) }

/-- **What an update does**: it fails, or writes the row of its change. -/
theorem updateChange_cases (st : OrchestrationState) (ctx : Context) (updated : PersistedChange) :
    (∃ e, st.updateChange ctx updated = (st, .error e)) ∨
    ∃ row, st.changes.lookup updated.snapshot.id = some row ∧
      st.updateChange ctx updated = (st.withUpdated row updated, .ok ()) := by
  unfold updateChange transaction
  split
  · exact .inl ⟨_, rfl⟩
  · unfold updateChangeChecked
    split
    · exact .inl ⟨_, rfl⟩
    · next row selected =>
        obtain ⟨found, -⟩ := Option.filter_eq_some_iff.mp selected
        split
        · exact .inl ⟨_, rfl⟩
        · exact .inr ⟨row, found, rfl⟩

/-- An update that no constraint refuses succeeds. -/
theorem updateChange_ok {st : OrchestrationState} {ctx : Context} {updated : PersistedChange}
    {row : ChangeRow} (live : ctx.err = none)
    (stored : st.changes.lookup updated.snapshot.id = some row)
    (positive : positiveBigint updated.snapshot.version = true)
    (older : row.version ≤ updated.snapshot.version)
    (free : st.jobTaken updated.snapshot.id updated.jobID = false) :
    st.updateChange ctx updated = (st.withUpdated row updated, .ok ()) := by
  have selected : (st.changes.lookup updated.snapshot.id).filter (fun row =>
      positiveBigint updated.snapshot.version &&
        decide (row.version ≤ updated.snapshot.version)) = some row := by
    rw [stored, positive]
    simp [older]
  unfold updateChange transaction
  rw [live]
  dsimp only
  unfold updateChangeChecked
  rw [selected]
  simp only [free]
  rfl

/-- The tables after the insertion of a change. -/
def withInserted (db : Database) (st : OrchestrationState) (requested : PersistedChange) :
    OrchestrationState :=
  { st with
    changes := st.changes.insert requested.snapshot.id (insertedChange db requested)
    changeKeys := st.changeKeys.insert requested.idempotencyKey
      ⟨requested.fingerprint, requested.snapshot.id⟩ }

/-- **What a creation of a change does**: it fails, or returns the change under its key, or
inserts a change whose id and key no row has. -/
theorem createChange_cases (db : Database) (st : OrchestrationState) (ctx : Context)
    (requested : PersistedChange) :
    (∃ e, st.createChange db ctx requested = (st, .error e)) ∨
    (∃ id persisted, st.loadChange id = some persisted ∧
      st.createChange db ctx requested = (st, .ok (persisted, false))) ∨
    requested.snapshot.id ∉ st.changes ∧
      (st.changes.findRow fun row => row.idempotencyKey == requested.idempotencyKey) = none ∧
      st.createChange db ctx requested = (st.withInserted db requested, .ok (requested, true)) := by
  unfold createChange
  split
  · exact .inl ⟨_, rfl⟩
  · unfold transaction
    split
    · exact .inl ⟨_, rfl⟩
    · unfold createChangeChecked
      split
      · next existing found =>
          split
          · exact .inl ⟨_, rfl⟩
          · split
            · exact .inl ⟨_, rfl⟩
            · next persisted loaded => exact .inr (.inl ⟨_, persisted, loaded, rfl⟩)
      · split
        · exact .inl ⟨_, rfl⟩
        · next unused =>
            rw [not_or, not_or, Option.not_isSome_iff_eq_none] at unused
            split
            · exact .inl ⟨_, rfl⟩
            · split
              · exact .inl ⟨_, rfl⟩
              · exact .inr (.inr ⟨unused.1, unused.2.1, rfl⟩)

/-- The creation of a revision leaves the changes alone. -/
theorem createRevision_changes (db : Database) (st : OrchestrationState)
    (ctx : Context) (random createdBy key fingerprint : String) (content : RawMessage)
    (now : Time) :
    let after := (st.createRevision db ctx random createdBy key fingerprint content now).1
    after.changes = st.changes ∧ after.approvals = st.approvals := by
  unfold createRevision
  split
  · exact ⟨rfl, rfl⟩
  · split
    · exact ⟨rfl, rfl⟩
    · unfold transaction
      split
      · exact ⟨rfl, rfl⟩
      · unfold createRevisionChecked
        split
        · split <;> exact ⟨rfl, rfl⟩
        · split
          · exact ⟨rfl, rfl⟩
          · split
            · exact ⟨rfl, rfl⟩
            · dsimp only
              split
              · exact ⟨rfl, rfl⟩
              · split <;> exact ⟨rfl, rfl⟩

end OrchestrationState

/-! ## Rows stay what they are -/

/-- The row is a later one of the same change. -/
structure ChangeRow.Advances (row row' : ChangeRow) : Prop where
  action : row'.action = row.action
  requester : row'.requester = row.requester
  revisionID : row'.revisionID = row.revisionID
  decision : row'.decision = row.decision
  input : row'.input = row.input
  idempotencyKey : row'.idempotencyKey = row.idempotencyKey

theorem ChangeRow.Advances.refl (row : ChangeRow) : row.Advances row :=
  ⟨rfl, rfl, rfl, rfl, rfl, rfl⟩

theorem ChangeRow.Advances.trans {first second third : ChangeRow}
    (earlier : first.Advances second) (later : second.Advances third) : first.Advances third where
  action := later.action.trans earlier.action
  requester := later.requester.trans earlier.requester
  revisionID := later.revisionID.trans earlier.revisionID
  decision := later.decision.trans earlier.decision
  input := later.input.trans earlier.input
  idempotencyKey := later.idempotencyKey.trans earlier.idempotencyKey

/-- The stored text is the input, or what `jsonb` makes of it. -/
def Database.Stores (db : Database) (stored input : Bytes) : Prop :=
  stored = input ∨ stored = db.jsonbText input

/-- The row holds what the record of the server says of its change. -/
structure ChangeRow.Of (db : Database) (row : ChangeRow) (record : ChangeRecord) : Prop where
  action : row.action = record.machine.action
  input : db.Stores row.input record.input
  idempotencyKey : row.idempotencyKey = record.idempotencyKey

variable {db : Database}

theorem ChangeRow.Of.advance {row row' : ChangeRow} {record : ChangeRecord}
    (own : row.Of db record) (advances : row.Advances row') : row'.Of db record where
  action := advances.action.trans own.action
  input := advances.input ▸ own.input
  idempotencyKey := advances.idempotencyKey.trans own.idempotencyKey

/-- The job was made for the change: it carries its key, and the fingerprint of its action
and of an input that it stores. -/
structure JobRow.MadeFor (db : Database) (job : JobRow) (change : ChangeRow) : Prop where
  idempotencyKey : job.idempotencyKey = "change:" ++ change.idempotencyKey
  maxAttempts : job.maxAttempts = 3
  request : ∃ request : CreateRequest, request.changeID = job.changeID ∧
    request.actionName = change.action ∧ db.Stores change.input request.input ∧
    job.inputFingerprint = jobFingerprint request

theorem JobRow.MadeFor.advance {job job' : JobRow} {change change' : ChangeRow}
    (made : job.MadeFor db change) (later : job.Advances job')
    (advances : change.Advances change') :
    job'.MadeFor db change' where
  idempotencyKey := by
    rw [later.idempotencyKey, advances.idempotencyKey]
    exact made.idempotencyKey
  maxAttempts := later.maxAttempts.trans made.maxAttempts
  request := by
    rw [later.changeID, later.inputFingerprint, advances.action, advances.input]
    exact made.request

namespace Store

variable {db : Database} {strict : Prop}

/-- Every row of the one store is a later row in the other. -/
structure Grows (st st' : Store) : Prop where
  changes : ∀ id row, st.state.changes.lookup id = some row →
    ∃ row', st'.state.changes.lookup id = some row' ∧ row.Advances row'
  jobs : st.jobs.Advances st'.jobs

theorem Grows.refl (st : Store) : st.Grows st :=
  ⟨fun _ row found => ⟨row, found, .refl row⟩, .refl st.jobs⟩

theorem Grows.trans {first second third : Store} (earlier : first.Grows second)
    (later : second.Grows third) : first.Grows third where
  changes id row found := by
    obtain ⟨row', found', advances⟩ := earlier.changes id row found
    obtain ⟨row'', found'', advances'⟩ := later.changes id row' found'
    exact ⟨row'', found'', advances.trans advances'⟩
  jobs := earlier.jobs.trans later.jobs

/-- The job exists and belongs to the change. -/
def JobOf (st : Store) (jobID changeID : String) : Prop :=
  ∃ row, st.jobs.rows.lookup jobID = some row ∧ row.changeID = changeID

variable {st : Store} {record : ChangeRecord}

theorem JobOf.grow {st' : Store} {jobID changeID : String} (job : st.JobOf jobID changeID)
    (grows : st.Grows st') : st'.JobOf jobID changeID := by
  obtain ⟨row, found, belongs⟩ := job
  obtain ⟨row', found', advances⟩ := grows.jobs jobID row found
  exact ⟨row', found', advances.changeID.trans belongs⟩

/-- The change is stored under its key, and its job belongs to it. -/
structure Knows (st : Store) (db : Database) (record : ChangeRecord) : Prop where
  stored : ∃ row, st.state.changes.lookup record.machine.id = some row ∧ row.Of db record
  job : record.jobID ≠ "" → st.JobOf record.jobID record.machine.id

theorem Knows.grow {st' : Store} (knows : st.Knows db record) (grows : st.Grows st') :
    st'.Knows db record := by
  obtain ⟨row, found, own⟩ := knows.stored
  obtain ⟨row', found', advances⟩ := grows.changes _ row found
  exact ⟨⟨row', found', own.advance advances⟩, fun bound => (knows.job bound).grow grows⟩

theorem Knows.queued (knows : st.Knows db record) (now : Time) :
    st.Knows db (record.queued now) := by
  obtain ⟨row, found, own⟩ := knows.stored
  exact ⟨⟨row, found, own.action, own.input, own.idempotencyKey⟩, knows.job⟩

theorem Knows.bound (knows : st.Knows db record) {jobID : String}
    (job : jobID ≠ "" → st.JobOf jobID record.machine.id) : st.Knows db (record.bound jobID) := by
  obtain ⟨row, found, own⟩ := knows.stored
  exact ⟨⟨row, found, own.action, own.input, own.idempotencyKey⟩, job⟩

/-- **The two tables agree**, and, if this is asked for, a change past its approval names a
job. -/
structure Sound (st : Store) (db : Database) (strict : Prop) : Prop where
  changeID : ∀ id row, st.state.changes.lookup id = some row → row.id = id
  changeKey : ∀ id id' row row', st.state.changes.lookup id = some row →
    st.state.changes.lookup id' = some row' → row.idempotencyKey = row'.idempotencyKey → id = id'
  jobID : ∀ id row, st.jobs.rows.lookup id = some row → row.id = id ∧ id ≠ ""
  jobKey : ∀ id id' row row', st.jobs.rows.lookup id = some row →
    st.jobs.rows.lookup id' = some row' → row.idempotencyKey = row'.idempotencyKey → id = id'
  jobChange : ∀ id row, st.jobs.rows.lookup id = some row →
    ∃ change, st.state.changes.lookup row.changeID = some change ∧ row.MadeFor db change
  approved : ∀ id, id ∈ st.state.approvals → id ∈ st.state.changes
  bound : ∀ id row, st.state.changes.lookup id = some row →
    (row.jobID ≠ "" → st.JobOf row.jobID id) ∧
      (strict → row.state.active = true → row.jobID ≠ "")

theorem sound_new : Store.new.Sound db strict := by
  constructor <;> intros <;> contradiction

/-! ## Statements on jobs -/

/-- Other rows of the same jobs. -/
theorem Sound.withJobs (sound : st.Sound db strict) {jobs : JobRepository}
    (advances : st.jobs.Advances jobs)
    (origin : ∀ id row', jobs.rows.lookup id = some row' →
      ∃ row, st.jobs.rows.lookup id = some row ∧ row.Advances row') :
    Sound ⟨st.state, jobs⟩ db strict where
  changeID := sound.changeID
  changeKey := sound.changeKey
  jobID id row' found' := by
    obtain ⟨row, found, advances⟩ := origin id row' found'
    rw [advances.id]
    exact sound.jobID id row found
  jobKey first second x' y' foundX' foundY' same := by
    obtain ⟨x, foundX, advancesX⟩ := origin first x' foundX'
    obtain ⟨y, foundY, advancesY⟩ := origin second y' foundY'
    rw [advancesX.idempotencyKey, advancesY.idempotencyKey] at same
    exact sound.jobKey first second x y foundX foundY same
  jobChange id row' found' := by
    obtain ⟨row, found, advances⟩ := origin id row' found'
    obtain ⟨change, stored, made⟩ := sound.jobChange id row found
    rw [advances.changeID]
    exact ⟨change, stored, made.advance advances (.refl change)⟩
  approved := sound.approved
  bound id row found := by
    obtain ⟨job, named⟩ := sound.bound id row found
    exact ⟨fun bound => (job bound).grow ⟨(Grows.refl st).changes, advances⟩, named⟩

theorem work_grows (db : Database) (st : Store) (call : WorkerCall) : st.Grows (st.work db call) :=
  ⟨(Grows.refl st).changes, JobRepository.step_advances db st.jobs call.random call.op⟩

theorem Sound.work (sound : st.Sound db strict) (call : WorkerCall) :
    (st.work db call).Sound db strict :=
  sound.withJobs (JobRepository.step_advances db st.jobs call.random call.op)
    fun _ _ found => JobRepository.step_origin call.works found

/-- The job a change asks for is new, or the one already made for it. -/
theorem createJob_keeps (sound : st.Sound db strict) (knows : st.Knows db record)
    (hosted : Database) (ctx : Context) (draw : EnqueueDraw) :
    let result := st.jobs.create hosted ctx (jobRequest record draw)
    let st' : Store := ⟨st.state, result.1⟩
    st'.Sound db strict ∧ st.Grows st' ∧
      ∀ job isNew, result.2 = .ok (job, isNew) →
        job.id ≠ "" ∧ st'.JobOf job.id record.machine.id := by
  obtain ⟨change, stored, own⟩ := knows.stored
  have carries : (jobRequest record draw).idempotencyKey = "change:" ++ change.idempotencyKey := by
    rw [own.idempotencyKey]
    rfl
  rcases JobRepository.create_cases hosted st.jobs ctx (jobRequest record draw) with
    ⟨e, failed⟩ | ⟨row, found, -, replayed⟩ | ⟨named, unused, fresh, inserted⟩
  · rw [failed]
    refine ⟨sound, .refl st, ?_⟩
    rintro job isNew ⟨⟩
  · rw [replayed]
    refine ⟨sound, .refl st, ?_⟩
    rintro job isNew ⟨⟩
    obtain ⟨same, jobID, found⟩ := Table.findRow_eq_some found
    obtain ⟨named, some⟩ := sound.jobID jobID row found
    obtain ⟨change', stored', made⟩ := sound.jobChange jobID row found
    rw [decide_eq_true_iff, made.idempotencyKey, carries, String.append_right_inj] at same
    have belongs : row.changeID = record.machine.id :=
      sound.changeKey _ _ change' change stored' stored same
    have named : (scanJob row).id = jobID := named
    rw [named]
    exact ⟨some, row, found, belongs⟩
  · rw [inserted]
    have grows : st.Grows ⟨st.state, ⟨st.jobs.rows.insert (jobRequest record draw).id
        (insertedRow hosted (jobRequest record draw))⟩⟩ := by
      refine ⟨(Grows.refl st).changes, fun jobID row found => ⟨row, ?_, .refl row⟩⟩
      have other : jobID ≠ (jobRequest record draw).id :=
        fun same => fresh (same ▸ Table.mem_of_lookup found)
      exact (AList.lookup_insert_ne other).trans found
    have unusedKey : ∀ jobID row, st.jobs.rows.lookup jobID = some row →
        row.idempotencyKey ≠ (jobRequest record draw).idempotencyKey := fun jobID row found =>
      of_decide_eq_false (Table.findRow_eq_none unused found)
    refine ⟨⟨sound.changeID, sound.changeKey, ?_, ?_, ?_, sound.approved, ?_⟩, grows, ?_⟩
    · intro jobID row found
      rw [Table.lookup_insert_ite] at found
      split at found
      · next same =>
          cases found
          exact ⟨same.symm, same ▸ named⟩
      · exact sound.jobID jobID row found
    · intro first second x y foundX foundY same
      rw [Table.lookup_insert_ite] at foundX foundY
      split at foundX <;> split at foundY
      · next isFirst isSecond => exact isFirst.trans isSecond.symm
      · cases foundX
        exact absurd same.symm (unusedKey second y foundY)
      · cases foundY
        exact absurd same (unusedKey first x foundX)
      · exact sound.jobKey first second x y foundX foundY same
    · intro jobID row found
      rw [Table.lookup_insert_ite] at found
      split at found
      · cases found
        exact ⟨change, stored, carries, rfl, jobRequest record draw, rfl, own.action.symm,
          own.input, rfl⟩
      · exact sound.jobChange jobID row found
    · intro changeID row found
      obtain ⟨job, isNamed⟩ := sound.bound changeID row found
      exact ⟨fun bound => (job bound).grow grows, isNamed⟩
    · rintro job isNew ⟨⟩
      exact ⟨named, _, AList.lookup_insert _, rfl⟩

/-! ## Statements on changes keep the bindings -/

/-- The record may be written: the job it names is its own, and, if this is asked for, it
names one once it is past its approval. -/
structure Writes (st : Store) (db : Database) (strict : Prop) (record : ChangeRecord) : Prop where
  knows : st.Knows db record
  named : strict → record.machine.state.active = true → record.jobID ≠ ""

theorem Writes.grow {st' : Store} (writes : st.Writes db strict record) (grows : st.Grows st') :
    st'.Writes db strict record :=
  ⟨writes.knows.grow grows, writes.named⟩

theorem updateChange_keeps (sound : st.Sound db strict) (writes : st.Writes db strict record)
    (ctx : Context) (fingerprint : String) :
    let st' : Store :=
      ⟨(st.state.updateChange ctx (persistedChange record fingerprint)).1, st.jobs⟩
    st'.Sound db strict ∧ st.Grows st' := by
  rcases st.state.updateChange_cases ctx (persistedChange record fingerprint) with
    ⟨e, failed⟩ | ⟨row, stored, written⟩
  · rw [failed]
    exact ⟨sound, .refl st⟩
  · rw [written]
    have advances : ∀ id x, st.state.changes.lookup id = some x →
        ∃ x', (st.state.withUpdated row (persistedChange record fingerprint)).changes.lookup id =
          some x' ∧ x.Advances x' := by
      intro id x found
      by_cases same : id = record.machine.id
      · subst same
        cases stored.symm.trans found
        exact ⟨_, AList.lookup_insert _, ⟨rfl, rfl, rfl, rfl, rfl, rfl⟩⟩
      · exact ⟨x, (AList.lookup_insert_ne same).trans found, .refl x⟩
    -- every row is a row of before, except for the state, version, time and job of the one
    have origin : ∀ id x', (st.state.withUpdated row
        (persistedChange record fingerprint)).changes.lookup id = some x' →
        ∃ x, st.state.changes.lookup id = some x ∧ x'.id = x.id ∧
          x'.idempotencyKey = x.idempotencyKey ∧
          (x' = x ∨ id = record.machine.id ∧ x'.jobID = record.jobID ∧
            x'.state = record.machine.state) := by
      intro id x' found
      rw [OrchestrationState.withUpdated, Table.lookup_insert_ite] at found
      split at found
      · next same =>
          cases found
          exact ⟨row, same ▸ stored, rfl, rfl, .inr ⟨same, rfl, rfl⟩⟩
      · exact ⟨x', found, rfl, rfl, .inl rfl⟩
    refine ⟨⟨?_, ?_, sound.jobID, sound.jobKey, ?_, ?_, ?_⟩, advances, .refl st.jobs⟩
    · intro id x' found
      obtain ⟨x, before, own, -⟩ := origin id x' found
      exact own.trans (sound.changeID id x before)
    · intro first second x' y' foundX foundY same
      obtain ⟨x, beforeX, -, keyX, -⟩ := origin first x' foundX
      obtain ⟨y, beforeY, -, keyY, -⟩ := origin second y' foundY
      exact sound.changeKey first second x y beforeX beforeY (keyX ▸ keyY ▸ same)
    · intro jobID job found
      obtain ⟨x, before, made⟩ := sound.jobChange jobID job found
      obtain ⟨x', after, kept⟩ := advances _ x before
      exact ⟨x', after, made.advance (.refl job) kept⟩
    · intro id member
      rcases (AList.mem_insert _).mp member with rfl | member
      · exact (AList.mem_insert _).mpr (.inl rfl)
      · exact (AList.mem_insert _).mpr (.inr (sound.approved id member))
    · intro id x' found
      obtain ⟨x, before, -, -, rfl | ⟨rfl, job, state⟩⟩ := origin id x' found
      · exact sound.bound id x' before
      · rw [job, state]
        exact ⟨writes.knows.job, writes.named⟩

theorem createChange_keeps (sound : st.Sound db strict) {fresh : ChangeRecord}
    (unbound : fresh.jobID = "") (inactive : fresh.machine.state.active = false) (ctx : Context)
    (fingerprint : String) :
    let result := st.state.createChange db ctx (persistedChange fresh fingerprint)
    let st' : Store := ⟨result.1, st.jobs⟩
    st'.Sound db strict ∧ st.Grows st' ∧
      (∀ persisted, result.2 = .ok (persisted, true) → st'.Knows db fresh) ∧
      ∀ persisted, result.2 = .ok (persisted, false) →
        ∃ id, st'.state.loadChange id = some persisted := by
  rcases st.state.createChange_cases db ctx (persistedChange fresh fingerprint) with
    ⟨e, failed⟩ | ⟨id, persisted, loaded, returned⟩ | ⟨newID, newKey, inserted⟩
  · rw [failed]
    refine ⟨sound, .refl st, ?_, ?_⟩ <;> rintro persisted ⟨⟩
  · rw [returned]
    refine ⟨sound, .refl st, ?_, ?_⟩ <;> rintro persisted' ⟨⟩
    exact ⟨id, loaded⟩
  · rw [inserted]
    have grows : st.Grows ⟨st.state.withInserted db (persistedChange fresh fingerprint),
        st.jobs⟩ := by
      refine ⟨fun id row found => ⟨row, ?_, .refl row⟩, .refl st.jobs⟩
      have other : id ≠ fresh.machine.id := fun same => newID (same ▸ Table.mem_of_lookup found)
      exact (AList.lookup_insert_ne other).trans found
    have unusedKey : ∀ id row, st.state.changes.lookup id = some row →
        row.idempotencyKey ≠ fresh.idempotencyKey := by
      intro id row found same
      have unused := Table.findRow_eq_none newKey found
      rw [beq_eq_false_iff_ne] at unused
      exact unused same
    refine ⟨⟨?_, ?_, sound.jobID, sound.jobKey, ?_, ?_, ?_⟩, grows, ?_, ?_⟩
    · intro id row found
      rw [OrchestrationState.withInserted, Table.lookup_insert_ite] at found
      split at found
      · next same =>
          cases found
          exact same.symm
      · exact sound.changeID id row found
    · intro first second x y foundX foundY same
      rw [OrchestrationState.withInserted, Table.lookup_insert_ite] at foundX foundY
      split at foundX <;> split at foundY
      · next isFirst isSecond => exact isFirst.trans isSecond.symm
      · cases foundX
        exact absurd same.symm (unusedKey second y foundY)
      · cases foundY
        exact absurd same (unusedKey first x foundX)
      · exact sound.changeKey first second x y foundX foundY same
    · intro jobID job found
      obtain ⟨change, stored, made⟩ := sound.jobChange jobID job found
      obtain ⟨change', stored', kept⟩ := grows.changes _ change stored
      exact ⟨change', stored', made.advance (.refl job) kept⟩
    · intro id member
      exact (AList.mem_insert _).mpr (.inr (sound.approved id member))
    · intro id row found
      rw [OrchestrationState.withInserted, Table.lookup_insert_ite] at found
      split at found
      · cases found
        refine ⟨fun bound => absurd unbound bound, fun _ active => ?_⟩
        exact absurd active (by rw [insertedChange, persistedChange, inactive]; decide)
      · exact sound.bound id row found
    · intro _ _
      exact ⟨⟨_, AList.lookup_insert _, rfl, .inr rfl, rfl⟩, fun bound => absurd unbound bound⟩
    · rintro persisted ⟨⟩

theorem createRevision_keeps (sound : st.Sound db strict) {state : OrchestrationState}
    (same : state.changes = st.state.changes ∧ state.approvals = st.state.approvals) :
    Sound ⟨state, st.jobs⟩ db strict ∧ st.Grows ⟨state, st.jobs⟩ := by
  obtain ⟨revisions, revisionKeys, _, changeKeys, _⟩ := state
  obtain ⟨rfl, rfl⟩ := same
  exact ⟨⟨sound.changeID, sound.changeKey, sound.jobID, sound.jobKey, sound.jobChange,
    sound.approved, sound.bound⟩, (Grows.refl st).changes, .refl st.jobs⟩

end Store

/-! ## Calls over the connection -/

variable {strict : Prop}

theorem Store.work_keeps {st : Store} (sound : st.Sound db strict) (calls : List WorkerCall) :
    (calls.foldl (Store.work db) st).Sound db strict ∧
      st.Grows (calls.foldl (Store.work db) st) := by
  induction calls generalizing st with
  | nil => exact ⟨sound, .refl st⟩
  | cons call calls ih =>
      obtain ⟨kept, grows⟩ := ih (sound.work call)
      exact ⟨kept, (st.work_grows db call).trans grows⟩

/-- **What a call meets.** The store it finds is a later one. It leaves that store, or what
its statements make of it, and answers what they answer or an error. -/
theorem Link.call_cases {α : Type} (db : Database) {l : Link} (sound : l.store.Sound db strict)
    (run : String → Store → Store × Except JobError α) :
    ∃ st random, st.Sound db strict ∧ l.store.Grows st ∧
      ((l.call db run).1.store = st ∧ (∃ e, (l.call db run).2 = .error e) ∨
        (l.call db run).1.store = (run random st).1 ∧
          ((l.call db run).2 = (run random st).2 ∨ ∃ e, (l.call db run).2 = .error e)) := by
  obtain ⟨store, script⟩ := l
  cases script with
  | nil => exact ⟨store, "", sound, .refl store, .inr ⟨rfl, .inl rfl⟩⟩
  | cons input rest =>
      obtain ⟨meanwhile, fault, random⟩ := input
      obtain ⟨kept, grows⟩ := Store.work_keeps sound meanwhile
      refine ⟨meanwhile.foldl (Store.work db) store, random, kept, grows, ?_⟩
      cases fault with
      | none => exact .inr ⟨rfl, .inl rfl⟩
      | some fault =>
          cases fault with
          | lost e => exact .inl ⟨rfl, e, rfl⟩
          | unreported e => exact .inr ⟨rfl, .inr ⟨e, rfl⟩⟩

/-- A call whose statements keep the bindings keeps them. -/
theorem Link.call_keeps {α : Type} (db : Database) {l : Link} (sound : l.store.Sound db strict)
    {run : String → Store → Store × Except JobError α}
    (keeps : ∀ st random, st.Sound db strict → l.store.Grows st →
      (run random st).1.Sound db strict ∧ st.Grows (run random st).1) :
    (l.call db run).1.store.Sound db strict ∧ l.store.Grows (l.call db run).1.store := by
  obtain ⟨st, random, kept, grows, ⟨left, -⟩ | ⟨left, -⟩⟩ := call_cases db sound run
  · rw [left]
    exact ⟨kept, grows⟩
  · obtain ⟨kept', grows'⟩ := keeps st random kept grows
    rw [left]
    exact ⟨kept', grows.trans grows'⟩

/-- A call that succeeds answers what its statements answer. -/
theorem Link.call_answers {α : Type} (db : Database) {l : Link} (sound : l.store.Sound db strict)
    {run : String → Store → Store × Except JobError α} {x : α}
    (ok : (l.call db run).2 = .ok x) (answered : Store → Prop)
    (answers : ∀ st random, st.Sound db strict → l.store.Grows st → (run random st).2 = .ok x →
      answered (run random st).1) : answered (l.call db run).1.store := by
  obtain ⟨st, random, kept, grows, ⟨-, e, failed⟩ | ⟨left, answer | ⟨e, failed⟩⟩⟩ :=
    call_cases db sound run
  · cases failed.symm.trans ok
  · rw [left]
    exact answers st random kept grows (answer.symm.trans ok)
  · cases failed.symm.trans ok

section Calls

variable (db : Database) {l : Link}

theorem backend_updateChange (sound : l.store.Sound db strict) {record : ChangeRecord}
    (writes : l.store.Writes db strict record) (ctx : Context) (fingerprint : String) :
    let result := (backend db).updateChange l ctx (persistedChange record fingerprint)
    result.1.store.Sound db strict ∧ l.store.Grows result.1.store :=
  Link.call_keeps db sound fun _ _ sound grows =>
    Store.updateChange_keeps sound (writes.grow grows) ctx fingerprint

theorem backend_createChange (sound : l.store.Sound db strict) {fresh : ChangeRecord}
    (unbound : fresh.jobID = "") (inactive : fresh.machine.state.active = false) (ctx : Context)
    (fingerprint : String) :
    let result := (backend db).createChange l ctx (persistedChange fresh fingerprint)
    (result.1.store.Sound db strict ∧ l.store.Grows result.1.store) ∧
      (∀ persisted, result.2 = .ok (persisted, true) →
        result.1.store.Knows db fresh) ∧
      ∀ persisted, result.2 = .ok (persisted, false) →
        ∃ id, result.1.store.state.loadChange id = some persisted := by
  have keeps := fun (st : Store) (sound : st.Sound db strict) =>
    Store.createChange_keeps sound unbound inactive ctx fingerprint
  refine ⟨Link.call_keeps db sound fun st _ sound _ => ?_, fun persisted ok => ?_,
    fun persisted ok => ?_⟩
  · exact ⟨(keeps st sound).1, (keeps st sound).2.1⟩
  · exact Link.call_answers db sound ok (fun st => st.Knows db fresh)
      fun st _ sound _ ok => (keeps st sound).2.2.1 persisted ok
  · exact Link.call_answers db sound ok (fun st => ∃ id, st.state.loadChange id = some persisted)
      fun st _ sound _ ok => (keeps st sound).2.2.2 persisted ok

theorem backend_createJob (sound : l.store.Sound db strict) {record : ChangeRecord}
    (knows : l.store.Knows db record) (ctx : Context) (draw : EnqueueDraw) :
    let result := (backend db).createJob l ctx (jobRequest record draw)
    (result.1.store.Sound db strict ∧ l.store.Grows result.1.store) ∧
      ∀ job isNew, result.2 = .ok (job, isNew) →
        job.id ≠ "" ∧ result.1.store.JobOf job.id record.machine.id := by
  have keeps := fun (st : Store) (sound : st.Sound db strict) (grows : l.store.Grows st) =>
    Store.createJob_keeps sound (knows.grow grows) (db.over st.state.changes) ctx draw
  refine ⟨Link.call_keeps db sound fun st _ sound grows => ?_, fun job isNew ok => ?_⟩
  · exact ⟨(keeps st sound grows).1, (keeps st sound grows).2.1⟩
  · exact Link.call_answers db sound ok
      (fun st => job.id ≠ "" ∧ st.JobOf job.id record.machine.id)
      fun st _ sound grows ok => (keeps st sound grows).2.2 job isNew ok

theorem backend_createRevision (sound : l.store.Sound db strict) (ctx : Context)
    (createdBy key fingerprint : String) (content : RawMessage) (now : Time) :
    let result := (backend db).createRevision l ctx createdBy key fingerprint content now
    result.1.store.Sound db strict ∧ l.store.Grows result.1.store :=
  Link.call_keeps db sound fun st random sound _ =>
    Store.createRevision_keeps sound (st.state.createRevision_changes db ctx random createdBy
      key fingerprint content now)

theorem backend_requestCancel (sound : l.store.Sound db strict) (ctx : Context) (id : String)
    (now : Time) :
    let result := (backend db).requestCancel l ctx id now
    result.1.store.Sound db strict ∧ l.store.Grows result.1.store :=
  Link.call_keeps db sound fun st _ sound _ =>
    ⟨sound.work ⟨.requestCancel ctx id now, "", rfl⟩,
      st.work_grows db ⟨.requestCancel ctx id now, "", rfl⟩⟩

theorem backend_getJob (sound : l.store.Sound db strict) (ctx : Context) (id : String) :
    let result := (backend db).getJob l ctx id
    result.1.store.Sound db strict ∧ l.store.Grows result.1.store :=
  Link.call_keeps db sound fun st _ sound _ => ⟨sound, .refl st⟩

theorem backend_load (sound : l.store.Sound db strict) (ctx : Context) :
    let result := (backend db).load l ctx
    (result.1.store.Sound db strict ∧ l.store.Grows result.1.store) ∧
      ∀ loaded, result.2 = .ok loaded → result.1.store.state.load ctx = .ok loaded := by
  refine ⟨Link.call_keeps db sound fun st _ sound _ => ⟨sound, .refl st⟩, fun loaded ok => ?_⟩
  exact Link.call_answers db sound ok (fun st => st.state.load ctx = .ok loaded)
    fun _ _ _ _ ok => ok

end Calls

end ControlCenter.Postgres
