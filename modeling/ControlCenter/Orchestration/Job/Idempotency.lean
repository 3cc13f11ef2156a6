import ControlCenter.Library.Separator
import ControlCenter.Orchestration.Job.RetryChains

/-!
# Creation keyed by content

`Create` of `internal/orchestration/job/memory.go` answers a second request with a known
idempotency key by comparing a fingerprint: the hash of the change, the action and the input,
joined by zero bytes. The record of a key is written once and stays (`Recorded.next`), so the
second request is answered with the first job exactly when the fingerprints and the numbers of
attempts agree (`create_recorded`).

A JSON input holds no zero byte, so the input can be read back from the joined text. The change
and the action cannot when both may hold zero bytes: two requests for different changes then
share a fingerprint (`create_replays_other_change`). The second request is answered by its
content exactly when it does not share the joined text, the input and the attempts of the first
one for another change or action (`create_keyed_by_content`).
-/

set_option autoImplicit false

namespace ControlCenter.Orchestration

open Library

/-- The requests ask for the same change, action, input and number of attempts. -/
def CreateRequest.SameContent (request request' : CreateRequest) : Prop :=
  request.changeID = request'.changeID ∧ request.actionName = request'.actionName ∧
    request.input = request'.input ∧ request.maxAttempts = request'.maxAttempts

/-- The texts of the change and of the action, joined as the fingerprint joins them. -/
def CreateRequest.names (request : CreateRequest) : Bytes :=
  utf8 request.changeID ++ [0] ++ utf8 request.actionName

/-- Requests that agree in the joined names, the input and the attempts agree in the names. -/
def CreateRequest.Separable (request request' : CreateRequest) : Prop :=
  request.names = request'.names → request.input = request'.input →
    request.maxAttempts = request'.maxAttempts →
    request.changeID = request'.changeID ∧ request.actionName = request'.actionName

/-! ## The joined text -/

/-- Requests are separable when the changes hold no zero byte, or the actions hold none. -/
theorem CreateRequest.Separable.of_free {request request' : CreateRequest}
    (free : Library.Separable 0 (utf8 request.changeID) (utf8 request.actionName)
      (utf8 request'.changeID) (utf8 request'.actionName)) : request.Separable request' := by
  intro names _ _
  obtain ⟨changes, actions⟩ := free.inj names
  exact ⟨utf8_injective changes, utf8_injective actions⟩

/-- **The joined text determines the joined names and the input** of requests with JSON
inputs. -/
theorem fingerprintPreimage_eq_iff {request request' : CreateRequest}
    (input : Json.valid request.input = true) (input' : Json.valid request'.input = true) :
    fingerprintPreimage request = fingerprintPreimage request' ↔
      request.names = request'.names ∧ request.input = request'.input := by
  constructor
  · exact append_separator_inj (Json.zero_notMem_of_valid input)
      (Json.zero_notMem_of_valid input')
  · rintro ⟨names, inputs⟩
    unfold fingerprintPreimage
    rw [inputs]
    exact congrArg (fun joined => joined ++ [0] ++ request'.input) names

theorem checkCreate_input {request : CreateRequest}
    (checked : MemoryRepository.checkCreate request = .ok ()) :
    Json.valid request.input = true := by
  unfold MemoryRepository.checkCreate at checked
  split at checked
  · cases checked
  · split at checked
    · cases checked
    · next valid =>
        rw [not_or, Bool.not_eq_false] at valid
        exact valid.2

/-! ## The record of a key -/

/-- The key is recorded with a fingerprint for a stored job with some number of attempts. -/
structure Recorded (r : MemoryRepository) (key id print : String) (maxAttempts : Int) :
    Prop where
  record : r.idempotency.lookup key = some ⟨id, print⟩
  job : ∃ job, r.jobs.lookup id = some job ∧ job.maxAttempts = maxAttempts

/-- The index of keys only grows. -/
theorem storeStep_keeps_record {r r' : MemoryRepository} (keyed : r.Keyed) {op : Op}
    {reply : Reply} (step : StoreStep r op reply r') {key : String} {record : IdempotencyRecord}
    (known : r.idempotency.lookup key = some record) :
    r'.idempotency.lookup key = some record := by
  have grown : ∀ request : CreateRequest, request.idempotencyKey ∉ r.idempotency →
      (r.insertNew request).idempotency.lookup key = some record := by
    intro request freshKey
    have other : key ≠ request.idempotencyKey := by
      rintro rfl
      exact freshKey (Table.mem_of_lookup known)
    rw [MemoryRepository.insertNew, Table.lookup_insert_ite, if_neg other, known]
  cases step with
  | job =>
      have shape := step_shape keyed ‹JobOp String›
      generalize r.step ‹JobOp String› = result at shape ⊢
      obtain ⟨r', reply⟩ := result
      cases shape with
      | refused | replayed _ | finished _ _ | walked _ _ | wrote _ _ => exact known
      | created _ _ freshKey => exact grown _ freshKey
  | refused _ => exact known
  | retried _ _ _ freshKey => exact grown _ freshKey

theorem Recorded.next {r : MemoryManualRetryRepository} (sound : r.jobs.Sound)
    {key id print : String} {maxAttempts : Int}
    (recorded : Recorded r.jobs key id print maxAttempts) (op : Op) :
    Recorded (memoryMachine.next r op).jobs key id print maxAttempts := by
  refine ⟨storeStep_keeps_record sound.keyed (machine_storeStep r op) recorded.record, ?_⟩
  obtain ⟨job, found, attempts⟩ := recorded.job
  obtain ⟨job', found', origin, _⟩ := r.keepsJobs_next sound op id job found
  exact ⟨job', found', origin.maxAttempts.trans attempts⟩

theorem Recorded.exec {r : MemoryManualRetryRepository} (sound : r.jobs.Sound)
    {key id print : String} {maxAttempts : Int}
    (recorded : Recorded r.jobs key id print maxAttempts) (ops : List Op) :
    Recorded (memoryMachine.exec r ops).jobs key id print maxAttempts := by
  have keeps : ∀ (r : MemoryManualRetryRepository) (op : Op),
      r.jobs.Sound ∧ Recorded r.jobs key id print maxAttempts →
      (memoryMachine.next r op).jobs.Sound ∧
        Recorded (memoryMachine.next r op).jobs key id print maxAttempts :=
    fun r op ⟨sound, recorded⟩ => ⟨sound.next op, recorded.next sound op⟩
  exact (memoryMachine.exec_keeps keeps ⟨sound, recorded⟩ ops).2

/-- A request that was answered with a job is recorded for it. -/
theorem recorded_of_create {r r' : MemoryRepository} (sound : r.Sound) {ctx : Context}
    {request : CreateRequest} {job : Job} {wasCreated : Bool}
    (answered : r.create ctx request = (r', .ok (job, wasCreated))) :
    MemoryRepository.checkCreate request = .ok () ∧
      Recorded r' request.idempotencyKey job.id (fingerprint request) request.maxAttempts := by
  unfold MemoryRepository.create at answered
  split at answered
  · cases answered
  split at answered
  · cases answered
  next checked =>
    refine ⟨checked, ?_⟩
    unfold MemoryRepository.createChecked at answered
    split at answered
    · next record known =>
        split at answered
        · cases answered
        · next existing found =>
            split at answered
            · cases answered
            · next same =>
                cases answered
                rw [not_or, not_not, not_not] at same
                have own := sound.keyed _ _ found
                refine ⟨?_, _, own ▸ found, same.2⟩
                rw [known, ← same.1, own]
    · split at answered
      · cases answered
      · cases answered
        refine ⟨?_, request.job, ?_, rfl⟩
        · exact AList.lookup_insert _
        · exact AList.lookup_insert _

/-- **A request with a recorded key** that passes the checks is answered with the job of the
record or with a conflict, and changes nothing. -/
theorem create_recorded {r : MemoryRepository} {id print : String} {maxAttempts : Int}
    {ctx : Context} {request : CreateRequest}
    (recorded : Recorded r request.idempotencyKey id print maxAttempts)
    (accepted : (JobOp.create ctx request : JobOp String).ArgumentsAccepted) :
    (print = fingerprint request ∧ maxAttempts = request.maxAttempts →
      ∃ job, r.jobs.lookup id = some job ∧ r.create ctx request = (r, .ok (job, false))) ∧
    (¬ (print = fingerprint request ∧ maxAttempts = request.maxAttempts) →
      r.create ctx request = (r, .error .idempotencyConflict)) := by
  obtain ⟨job, found, attempts⟩ := recorded.job
  have served : r.create ctx request = r.createChecked request := by
    rw [MemoryRepository.create, accepted.1]
    simp only [accepted.2]
  rw [served, MemoryRepository.createChecked, recorded.record]
  simp only [found, attempts]
  constructor
  · rintro ⟨rfl, rfl⟩
    exact ⟨job, rfl, if_neg (by simp)⟩
  · intro different
    exact if_pos (not_and_or.mp different)

/-- No two stored jobs share a key. -/
theorem MemoryRepository.Sound.key_unique {r : MemoryRepository} (sound : r.Sound)
    {id id' : String} {job job' : Job} (found : r.jobs.lookup id = some job)
    (found' : r.jobs.lookup id' = some job') (same : job.idempotencyKey = job'.idempotencyKey) :
    id = id' := by
  obtain ⟨record, known, own⟩ := sound.indexed id job found
  obtain ⟨record', known', own'⟩ := sound.indexed id' job' found'
  rw [same, known'] at known
  cases known
  exact own.symm.trans own'

/-- Fingerprints agree when the joined names and the inputs do. -/
theorem fingerprint_eq_iff {request request' : CreateRequest}
    (checked : MemoryRepository.checkCreate request = .ok ())
    (checked' : MemoryRepository.checkCreate request' = .ok ())
    (free : CollisionFree {fingerprintPreimage request, fingerprintPreimage request'}) :
    fingerprint request = fingerprint request' ↔
      request.names = request'.names ∧ request.input = request'.input := by
  rw [← fingerprintPreimage_eq_iff (checkCreate_input checked) (checkCreate_input checked')]
  refine ⟨?_, congrArg sha256Hex⟩
  exact free.eq_of_sha256Hex_eq (Set.mem_insert _ _)
    (Set.mem_insert_of_mem _ (Set.mem_singleton _))

/-- The later request changes nothing. It is answered with the job when it passes the checks
and the contents agree, and with a conflict when it passes them and they do not. -/
structure AnsweredByContent (r : MemoryManualRetryRepository) (jobID : String) (ctx : Context)
    (request request' : CreateRequest) : Prop where
  kept : (r.jobs.create ctx request').1 = r.jobs
  replayed : (∃ job, r.job jobID = some job ∧ (r.jobs.create ctx request').2 = .ok (job, false)) ↔
    (JobOp.create ctx request' : JobOp String).ArgumentsAccepted ∧ request.SameContent request'
  refused : (JobOp.create ctx request' : JobOp String).ArgumentsAccepted →
    ¬ request.SameContent request' →
    (r.jobs.create ctx request').2 = .error .idempotencyConflict

/-- A request that was answered with a job is recorded for it in every later state. -/
theorem recorded_later {r : MemoryManualRetryRepository} (sound : r.jobs.Sound) {ctx : Context}
    {request : CreateRequest} {job : Job} {wasCreated : Bool}
    (answered : memoryMachine.answer r (.job (.create ctx request)) = .created job wasCreated)
    (between : List Op) :
    MemoryRepository.checkCreate request = .ok () ∧
      Recorded (memoryMachine.exec (memoryMachine.next r (.job (.create ctx request)))
        between).jobs request.idempotencyKey job.id (fingerprint request) request.maxAttempts := by
  have first : r.jobs.create ctx request =
      ((r.jobs.create ctx request).1, .ok (job, wasCreated)) := by
    have reply : Reply.ofCreate (r.jobs.create ctx request).2 = .created job wasCreated := answered
    refine Prod.ext rfl ?_
    cases result : (r.jobs.create ctx request).2 with
    | error e =>
        rw [result] at reply
        cases reply
    | ok value =>
        rw [result] at reply
        cases reply
        rfl
  obtain ⟨checked, recorded⟩ := recorded_of_create sound first
  have stored : (memoryMachine.next r (.job (.create ctx request))).jobs =
      (r.jobs.create ctx request).1 := rfl
  rw [← stored] at recorded
  exact ⟨checked, recorded.exec (sound.next (.job (.create ctx request))) between⟩

section Answers

variable {r : MemoryManualRetryRepository} {jobID : String} {ctx : Context}
  {request request' : CreateRequest}

/-- A replay is the right answer for the content of the first request only. -/
theorem answeredByContent_replayed {job : Job} (found : r.job jobID = some job)
    (accepted : (JobOp.create ctx request' : JobOp String).ArgumentsAccepted)
    (second : r.jobs.create ctx request' = (r.jobs, .ok (job, false))) :
    AnsweredByContent r jobID ctx request request' ↔ request.SameContent request' := by
  constructor
  · intro answered
    exact (answered.replayed.mp ⟨job, found, by rw [second]⟩).2
  · intro same
    exact ⟨by rw [second], iff_of_true ⟨job, found, by rw [second]⟩ ⟨accepted, same⟩,
      fun _ different => absurd same different⟩

/-- A conflict is the right answer for other content. -/
theorem answeredByContent_conflict (differs : ¬ request.SameContent request')
    (second : r.jobs.create ctx request' = (r.jobs, .error .idempotencyConflict)) :
    AnsweredByContent r jobID ctx request request' := by
  refine ⟨by rw [second], iff_of_false ?_ fun both => differs both.2, fun _ _ => by rw [second]⟩
  rintro ⟨job, _, answer⟩
  rw [second] at answer
  cases answer

/-- A request that fails the checks gets their error. -/
theorem answeredByContent_refused
    (refused : ¬ (JobOp.create ctx request' : JobOp String).ArgumentsAccepted) :
    AnsweredByContent r jobID ctx request request' := by
  obtain ⟨e, second⟩ := step_refused r.jobs refused
  have failed : Reply.ofCreate (r.jobs.create ctx request').2 = .error e :=
    congrArg Prod.snd second
  refine ⟨congrArg Prod.fst second, iff_of_false ?_ fun both => refused both.1,
    fun accepted => absurd accepted refused⟩
  rintro ⟨job, _, answer⟩
  rw [answer] at failed
  cases failed

end Answers

/-- **Creation is keyed by content exactly for separable requests.** In every run, after a
request was answered with a job, a later request with the same key changes nothing. It is
answered by its content exactly when it fails the checks or is separable from the first one.
No two stored jobs ever share a key. -/
theorem create_keyed_by_content {r : MemoryManualRetryRepository} (reachable : MemoryReachable r) :
    (∀ (id id' : String) (job job' : Job), r.job id = some job → r.job id' = some job' →
      job.idempotencyKey = job'.idempotencyKey → id = id') ∧
    ∀ (ctx ctx' : Context) (request request' : CreateRequest) (job : Job) (wasCreated : Bool)
      (between : List Op),
      memoryMachine.answer r (.job (.create ctx request)) = .created job wasCreated →
      request'.idempotencyKey = request.idempotencyKey →
      CollisionFree {fingerprintPreimage request, fingerprintPreimage request'} →
      ∀ r', r' = memoryMachine.exec (memoryMachine.next r (.job (.create ctx request))) between →
        (r'.jobs.create ctx' request').1 = r'.jobs ∧
        (AnsweredByContent r' job.id ctx' request request' ↔
          ((JobOp.create ctx' request' : JobOp String).ArgumentsAccepted →
            request.Separable request')) := by
  obtain ⟨ops, rfl⟩ := reachable
  have sound := exec_sound ops
  refine ⟨fun _ _ _ _ found found' same => sound.key_unique found found' same, ?_⟩
  intro ctx ctx' request request' job wasCreated between answered sameKey free r' isLater
  obtain ⟨checked, recorded⟩ := recorded_later sound answered between
  rw [← isLater, ← sameKey] at recorded
  by_cases accepted : (JobOp.create ctx' request' : JobOp String).ArgumentsAccepted
  · obtain ⟨replayed, refused⟩ := create_recorded recorded accepted
    rw [fingerprint_eq_iff checked accepted.2 free] at replayed refused
    by_cases joined : (request.names = request'.names ∧ request.input = request'.input) ∧
        request.maxAttempts = request'.maxAttempts
    · obtain ⟨job', found, second⟩ := replayed joined
      refine ⟨by rw [second], (answeredByContent_replayed found accepted second).trans ?_⟩
      obtain ⟨⟨names, inputs⟩, attempts⟩ := joined
      refine ⟨fun same _ _ _ _ => ⟨same.1, same.2.1⟩, fun separable => ?_⟩
      obtain ⟨changes, actions⟩ := separable accepted names inputs attempts
      exact ⟨changes, actions, inputs, attempts⟩
    · have differs : ¬ request.SameContent request' := by
        rintro ⟨changes, actions, inputs, attempts⟩
        refine joined ⟨⟨?_, inputs⟩, attempts⟩
        rw [CreateRequest.names, CreateRequest.names, changes, actions]
      have second := refused joined
      refine ⟨by rw [second], iff_of_true (answeredByContent_conflict differs second) ?_⟩
      exact fun _ names inputs attempts => absurd ⟨⟨names, inputs⟩, attempts⟩ joined
  · have answered : AnsweredByContent r' job.id ctx' request request' :=
      answeredByContent_refused accepted
    exact ⟨answered.kept, iff_of_true answered fun both => absurd both accepted⟩

/-! ## A change in the place of another -/

def sampleCreate (id changeID actionName : String) : CreateRequest where
  id := id
  changeID := changeID
  actionName := actionName
  input := utf8 "1"
  idempotencyKey := "key"
  maxAttempts := 3
  now := 1

theorem sampleCreate_created {id changeID actionName : String}
    (checked : MemoryRepository.checkCreate (sampleCreate id changeID actionName) = .ok ()) :
    MemoryRepository.new.create .background (sampleCreate id changeID actionName) =
      (MemoryRepository.new.insertNew (sampleCreate id changeID actionName),
        .ok ((sampleCreate id changeID actionName).job, true)) := by
  simp only [MemoryRepository.create, Context.background, checked,
    MemoryRepository.createChecked]
  rfl

theorem sampleCreate_answered {id changeID actionName : String}
    (checked : MemoryRepository.checkCreate (sampleCreate id changeID actionName) = .ok ()) :
    memoryMachine.answer .new (.job (.create .background (sampleCreate id changeID actionName))) =
      .created (sampleCreate id changeID actionName).job true :=
  congrArg Reply.ofCreate (congrArg Prod.snd (sampleCreate_created checked))

/-- The same request twice is answered with one job. -/
theorem create_keyed_by_content_repeated :
    (sampleCreate "job-1" "change" "action").SameContent (sampleCreate "job-2" "change" "action") ∧
      ∃ r, MemoryReachable r ∧ ∃ job,
        (r.jobs.create .background (sampleCreate "job-2" "change" "action")).2 =
          .ok (job, false) := by
  have same : (sampleCreate "job-1" "change" "action").SameContent
      (sampleCreate "job-2" "change" "action") := ⟨rfl, rfl, rfl, rfl⟩
  have accepted : (JobOp.create .background (sampleCreate "job-2" "change" "action") :
      JobOp String).ArgumentsAccepted := ⟨rfl, by decide +kernel⟩
  have second := (create_keyed_by_content (Machine.reachable_init _)).2 .background .background _
    (sampleCreate "job-2" "change" "action") _ _ [] (sampleCreate_answered (by decide +kernel)) rfl
    (Set.Subsingleton.injOn (by
      rintro _ (rfl | rfl) _ (rfl | rfl) <;> rfl) _) _ rfl
  obtain ⟨job, _, replayed⟩ := (second.2.mpr fun _ =>
    .of_free (.inl (by decide +kernel))).replayed.mpr ⟨accepted, same⟩
  refine ⟨same, _, ?_, job, replayed⟩
  exact ((Machine.reachable_init _).next _).exec []

/-- Sample requests with one joined text are answered with one job. -/
theorem sampleCreate_replayed {id changeID actionName id' changeID' actionName' : String}
    (checked : MemoryRepository.checkCreate (sampleCreate id changeID actionName) = .ok ())
    (checked' : MemoryRepository.checkCreate (sampleCreate id' changeID' actionName') = .ok ())
    (preimages : fingerprintPreimage (sampleCreate id changeID actionName) =
      fingerprintPreimage (sampleCreate id' changeID' actionName')) :
    (MemoryRepository.new.insertNew (sampleCreate id changeID actionName)).create .background
        (sampleCreate id' changeID' actionName') =
      (MemoryRepository.new.insertNew (sampleCreate id changeID actionName),
        .ok ((sampleCreate id changeID actionName).job, false)) := by
  have recorded :=
    (recorded_of_create MemoryRepository.Sound.new (sampleCreate_created checked)).2
  have accepted : (JobOp.create .background (sampleCreate id' changeID' actionName') :
      JobOp String).ArgumentsAccepted := ⟨rfl, checked'⟩
  obtain ⟨job, found, replayed⟩ :=
    (@create_recorded _ _ _ _ _ (sampleCreate id' changeID' actionName') recorded accepted).1
      ⟨congrArg sha256Hex preimages, rfl⟩
  cases (AList.lookup_insert _).symm.trans found
  exact replayed

/-- The change "a" with the action "b\x00c" and the change "a\x00b" with the action "c" have one
fingerprint: the second request is answered with the job of the first. -/
theorem create_replays_other_change :
    (sampleCreate "job-1" "a" "b\x00c").changeID ≠ (sampleCreate "job-2" "a\x00b" "c").changeID ∧
      MemoryRepository.new.create .background (sampleCreate "job-1" "a" "b\x00c") =
        (MemoryRepository.new.insertNew (sampleCreate "job-1" "a" "b\x00c"),
          .ok ((sampleCreate "job-1" "a" "b\x00c").job, true)) ∧
      (MemoryRepository.new.insertNew (sampleCreate "job-1" "a" "b\x00c")).create .background
          (sampleCreate "job-2" "a\x00b" "c") =
        (MemoryRepository.new.insertNew (sampleCreate "job-1" "a" "b\x00c"),
          .ok ((sampleCreate "job-1" "a" "b\x00c").job, false)) :=
  ⟨by decide, sampleCreate_created (by decide +kernel),
    sampleCreate_replayed (by decide +kernel) (by decide +kernel) (by decide +kernel)⟩

end ControlCenter.Orchestration
