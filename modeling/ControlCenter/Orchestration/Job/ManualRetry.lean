import ControlCenter.Orchestration.Job.Memory

/-!
# Manual retries

`ManualRetryRequest` and its validation of `manual_retry.go`, and the repository that
layers retry lineages over the jobs, of `manual_retry_memory.go`. A retry creates a
fresh queued job from one failed job, under the mutex of the job repository.
-/

set_option autoImplicit false

namespace ControlCenter.Orchestration

open Library

structure ManualRetryRequest where
  sourceJobID : String
  expectedSourceVersion : UInt64
  retryJobID : String
  retryIdempotencyKey : String
  reviewedAdmissionID : String
  revalidationAdmissionID : String
  revisionID : String
  revisionDigest : String
  policyID : String
  policyDigest : String
  retryHistoryDigest : String
  approvalEvidenceDigest : String
  requestedAt : Time
  deriving DecidableEq

structure ManualRetryLineage where
  rootJobID : String
  sourceJobID : String
  sourceJobVersion : UInt64
  retryJobID : String
  retryIdempotencyKey : String
  reviewedAdmissionID : String
  revalidationAdmissionID : String
  revisionID : String
  revisionDigest : String
  policyID : String
  policyDigest : String
  retryHistoryDigest : String
  approvalEvidenceDigest : String
  requestedAt : Time
  deriving DecidableEq

def maxManualRetryIdentifierLength : Nat := 255

/-- A named field is canonical and not too long, in bytes. -/
def validateManualRetryIdentifier (name value : String) : Except JobError Unit :=
  if trimSpace value = "" ∨ trimSpace value ≠ value ∨
      maxManualRetryIdentifierLength < value.utf8ByteSize then
    .error (.message ("canonical " ++ name ++ " is required"))
  else .ok ()

def isLowerHex (c : Char) : Bool := ('0' ≤ c && c ≤ '9') || ('a' ≤ c && c ≤ 'f')

def validManualRetryDigest (value : String) : Bool :=
  value.utf8ByteSize == 71 && "sha256:".toList.isPrefixOf value.toList &&
    (value.toList.drop 7).all isLowerHex

/-- A named field is a digest. -/
def validateManualRetryDigest (name value : String) : Except JobError Unit :=
  if validManualRetryDigest value = false then
    .error (.message ("canonical " ++ name ++ " is required"))
  else .ok ()

/-- The first error of a list of named fields. -/
def checkFields (check : String → String → Except JobError Unit) :
    List (String × String) → Except JobError Unit
  | [] => .ok ()
  | (name, value) :: rest =>
      match check name value with
      | .error e => .error e
      | .ok () => checkFields check rest

namespace ManualRetryRequest

def identifiers (request : ManualRetryRequest) : List (String × String) := [
  ("source job id", request.sourceJobID),
  ("retry job id", request.retryJobID),
  ("retry idempotency key", request.retryIdempotencyKey),
  ("revision id", request.revisionID),
  ("policy id", request.policyID)]

def digests (request : ManualRetryRequest) : List (String × String) := [
  ("reviewed admission id", request.reviewedAdmissionID),
  ("revalidation admission id", request.revalidationAdmissionID),
  ("revision digest", request.revisionDigest),
  ("policy digest", request.policyDigest),
  ("retry history digest", request.retryHistoryDigest)]

end ManualRetryRequest

def validateManualRetryRequest (request : ManualRetryRequest) : Except JobError Unit :=
  match checkFields validateManualRetryIdentifier request.identifiers with
  | .error e => .error e
  | .ok () =>
      if request.expectedSourceVersion = 0 then
        .error (.message "expected source job version is required")
      else if request.sourceJobID = request.retryJobID then
        .error (.message "retry job must have a fresh job id")
      else
        match checkFields validateManualRetryDigest request.digests with
        | .error e => .error e
        | .ok () =>
            if request.approvalEvidenceDigest ≠ "" ∧
                validManualRetryDigest request.approvalEvidenceDigest = false then
              .error (.message "canonical approval evidence digest is required")
            else if Time.isZero request.requestedAt = true then
              .error (.message "manual retry request time is required")
            else .ok ()

/-- The reviewed fields of a request, each ended by a zero byte. -/
def manualRetryPreimage (request : ManualRetryRequest) : Bytes :=
  [request.sourceJobID, decimal request.expectedSourceVersion, request.retryJobID,
    request.retryIdempotencyKey, request.reviewedAdmissionID, request.revisionID,
    request.revisionDigest, request.policyID, request.policyDigest, request.retryHistoryDigest,
    request.approvalEvidenceDigest].flatMap fun value => utf8 value ++ [0]

def manualRetryRequestFingerprint (request : ManualRetryRequest) : Except JobError String :=
  match validateManualRetryRequest request with
  | .error e => .error e
  | .ok () => .ok (sha256Hex (manualRetryPreimage request))

structure MemoryManualRetryRecord where
  fingerprint : String
  lineage : ManualRetryLineage
  deriving DecidableEq

structure MemoryManualRetryRepository where
  jobs : MemoryRepository
  byAdmission : Table MemoryManualRetryRecord
  byRetryJob : Table ManualRetryLineage
  bySource : Table ManualRetryLineage

def manualRetrySourceKey (jobID : String) (version : UInt64) : String :=
  jobID ++ "\x00" ++ decimal version

/-- The creation request of the retry of `source`. -/
def ManualRetryRequest.createRequest (request : ManualRetryRequest) (source : Job) :
    CreateRequest where
  id := request.retryJobID
  changeID := source.changeID
  actionName := source.actionName
  input := source.input
  idempotencyKey := request.retryIdempotencyKey
  maxAttempts := source.maxAttempts
  now := request.requestedAt

def ManualRetryRequest.lineage (request : ManualRetryRequest) (source : Job)
    (rootJobID : String) : ManualRetryLineage where
  rootJobID := rootJobID
  sourceJobID := source.id
  sourceJobVersion := source.version
  retryJobID := request.retryJobID
  retryIdempotencyKey := request.retryIdempotencyKey
  reviewedAdmissionID := request.reviewedAdmissionID
  revalidationAdmissionID := request.revalidationAdmissionID
  revisionID := request.revisionID
  revisionDigest := request.revisionDigest
  policyID := request.policyID
  policyDigest := request.policyDigest
  retryHistoryDigest := request.retryHistoryDigest
  approvalEvidenceDigest := request.approvalEvidenceDigest
  requestedAt := request.requestedAt

namespace MemoryManualRetryRepository

def new : MemoryManualRetryRepository := ⟨.new, ∅, ∅, ∅⟩

/-- The retry of a source is itself a retry of the root of that source. -/
def rootJobID (r : MemoryManualRetryRepository) (source : Job) : String :=
  match r.byRetryJob.lookup source.id with
  | some parent => parent.rootJobID
  | none => source.id

/-- The writes of an accepted manual retry. -/
def recordRetry (r : MemoryManualRetryRepository) (request : ManualRetryRequest) (source : Job)
    (fingerprintValue : String) : MemoryManualRetryRepository :=
  let retryRequest := request.createRequest source
  let lineage := request.lineage source (r.rootJobID source)
  { jobs :=
      { jobs := r.jobs.jobs.insert retryRequest.id retryRequest.job
        idempotency := r.jobs.idempotency.insert retryRequest.idempotencyKey
          ⟨retryRequest.id, fingerprint retryRequest⟩ }
    byAdmission := r.byAdmission.insert request.reviewedAdmissionID ⟨fingerprintValue, lineage⟩
    byRetryJob := r.byRetryJob.insert retryRequest.id lineage
    bySource := r.bySource.insert (manualRetrySourceKey source.id source.version) lineage }

/-- What stands in the way of a retry of `source`. -/
def checkSource (r : MemoryManualRetryRepository) (request : ManualRetryRequest) (source : Job) :
    Except JobError Unit :=
  if source.version ≠ request.expectedSourceVersion then .error .versionConflict
  else if source.status ≠ .failed ∨ source.attempt < source.maxAttempts ∨ source.lease.isSome then
    .error .manualRetrySourceNotFailed
  else if manualRetrySourceKey source.id source.version ∈ r.bySource then
    .error .manualRetrySourceAlreadyRetried
  else if request.retryJobID ∈ r.jobs.jobs then
    .error (.message ("retry job id already exists: " ++ request.retryJobID))
  else if request.retryIdempotencyKey ∈ r.jobs.idempotency then .error .idempotencyConflict
  else .ok ()

def createManualRetry (r : MemoryManualRetryRepository) (ctx : Context)
    (request : ManualRetryRequest) :
    MemoryManualRetryRepository × Except JobError (Job × ManualRetryLineage × Bool) :=
  match ctx.err with
  | some cause => (r, .error (.context cause))
  | none =>
      match manualRetryRequestFingerprint request with
      | .error e => (r, .error e)
      | .ok fingerprintValue =>
          match r.byAdmission.lookup request.reviewedAdmissionID with
          | some existing =>
              if existing.fingerprint ≠ fingerprintValue then
                (r, .error .manualRetryAdmissionConflict)
              else
                match r.jobs.jobs.lookup existing.lineage.retryJobID with
                | none =>
                    (r, .error (.message ("manual retry lineage references missing retry job " ++
                      quoted existing.lineage.retryJobID)))
                | some retry => (r, .ok (retry, existing.lineage, false))
          | none =>
              match r.jobs.jobs.lookup request.sourceJobID with
              | none => (r, .error .notFound)
              | some source =>
                  match r.checkSource request source with
                  | .error e => (r, .error e)
                  | .ok () =>
                      (r.recordRetry request source fingerprintValue,
                        .ok ((request.createRequest source).job,
                          request.lineage source (r.rootJobID source), true))

end MemoryManualRetryRepository

end ControlCenter.Orchestration
