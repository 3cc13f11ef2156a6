import ControlCenter.Library.Marshal
import ControlCenter.Orchestration.Job.Timeline

/-!
# The history of manual retries

`manual_retry_history.go` rebuilds the chain of retries under a root from the lineage
records a repository holds, checks that the records are one connected chain, and hashes
the entries in order. The readers of the in-memory repository are those of
`manual_retry_memory.go` and `manual_retry_lookup_memory.go`.
-/

set_option autoImplicit false

namespace ControlCenter.Orchestration

open Library

/-! ## The readers -/

def manualRetryLineageNotFound : JobError := .message "manual retry lineage not found"

/-- The order in which lineage records are listed. -/
def ManualRetryLineage.precedes (a b : ManualRetryLineage) : Prop :=
  a.requestedAt < b.requestedAt ∨ a.requestedAt = b.requestedAt ∧ a.retryJobID ≤ b.retryJobID

instance : DecidableRel ManualRetryLineage.precedes := fun _ _ =>
  inferInstanceAs (Decidable (_ ∨ _))

namespace MemoryManualRetryRepository

def getManualRetryLineageByRetryJob (r : MemoryManualRetryRepository) (ctx : Context)
    (retryJobID : String) : Except JobError ManualRetryLineage :=
  match ctx.err with
  | some cause => .error (.context cause)
  | none =>
      match r.byRetryJob.lookup retryJobID with
      | none => .error manualRetryLineageNotFound
      | some found => .ok found

/-- The lineage records under a root, in no order. -/
def lineageOf (r : MemoryManualRetryRepository) (rootJobID : String) : List ManualRetryLineage :=
  (r.byAdmission.entries.map fun entry => entry.2.lineage).filter fun lineage =>
    lineage.rootJobID = rootJobID

def listManualRetryLineage (r : MemoryManualRetryRepository) (ctx : Context) (rootJobID : String) :
    Except JobError (List ManualRetryLineage) :=
  match ctx.err with
  | some cause => .error (.context cause)
  | none =>
      match validateManualRetryIdentifier "root job id" rootJobID with
      | .error e => .error e
      | .ok () => .ok ((r.lineageOf rootJobID).insertionSort ManualRetryLineage.precedes)

end MemoryManualRetryRepository

/-! ## The evidence -/

def manualRetryHistoryContractVersion : String := "job.manual-retry-history/v1"

def maxManualRetryHistoryEntries : Nat := 64

structure ManualRetryHistoryEvidence where
  contractVersion : String
  rootJobID : String
  sourceJobID : String
  sourceJobVersion : UInt64
  usedManualRetries : UInt32
  sourceAlreadyRetried : Bool
  digest : String
  observedAt : Time
  deriving DecidableEq

def invalidManualRetryHistory (text : String) : JobError :=
  .message ("invalid manual retry history: " ++ text)

/-- One entry of the history, as it is hashed. -/
def manualRetryHistoryEntry (item : ManualRetryLineage) : Option Json :=
  (Json.time item.requestedAt).map fun requestedAt => .record ([
    ("source_job_id", .string item.sourceJobID),
    ("source_job_version", .nat item.sourceJobVersion.toNat),
    ("retry_job_id", .string item.retryJobID),
    ("reviewed_admission_id", .string item.reviewedAdmissionID),
    ("revalidation_admission_id", .string item.revalidationAdmissionID),
    ("revision_id", .string item.revisionID),
    ("revision_digest", .string item.revisionDigest),
    ("policy_id", .string item.policyID),
    ("policy_digest", .string item.policyDigest),
    ("retry_history_digest", .string item.retryHistoryDigest)] ++
    Json.omitEmpty "approval_evidence_digest" item.approvalEvidenceDigest ++
    [("requested_at", requestedAt)])

def manualRetryHistoryPayload (rootJobID : String) (entries : List ManualRetryLineage) :
    Option Json :=
  (entries.mapM manualRetryHistoryEntry).map fun entries => .record [
    ("contract_version", .string manualRetryHistoryContractVersion),
    ("root_job_id", .string rootJobID),
    ("entries", .arr entries)]

/-- The records by their sources. An incomplete record and a second record of one source
are refused. -/
def indexBySource (rootJobID : String) : List ManualRetryLineage → Table ManualRetryLineage →
    Except JobError (Table ManualRetryLineage)
  | [], bySource => .ok bySource
  | item :: rest, bySource =>
      if item.rootJobID ≠ rootJobID ∨ item.sourceJobID = "" ∨ item.retryJobID = "" ∨
          item.sourceJobVersion = 0 ∨ Time.isZero item.requestedAt = true then
        .error (invalidManualRetryHistory "incomplete retry lineage entry")
      else if item.sourceJobID ∈ bySource then
        .error (invalidManualRetryHistory
          ("retry lineage forks at source Job " ++ quoted item.sourceJobID))
      else indexBySource rootJobID rest (bySource.insert item.sourceJobID item)

/-- Follow the records from a job. A walk longer than the records has met a job twice. -/
def followChain (bySource : Table ManualRetryLineage) :
    Nat → List String → String → Except JobError (List ManualRetryLineage)
  | 0, _, _ => .error (invalidManualRetryHistory "retry lineage cycle detected")
  | fuel + 1, visited, cursor =>
      if cursor ∈ visited then
        .error (invalidManualRetryHistory "retry lineage cycle detected")
      else
        match bySource.lookup cursor with
        | none => .ok []
        | some item =>
            match followChain bySource fuel (cursor :: visited) item.retryJobID with
            | .error e => .error e
            | .ok entries => .ok (item :: entries)

/-- The root of a job, as its parent record names it. -/
def historyRoot (r : MemoryManualRetryRepository) (ctx : Context) (source : Job) :
    Except JobError String :=
  match r.getManualRetryLineageByRetryJob ctx source.id with
  | .ok parent => .ok parent.rootJobID
  | .error e => if e = manualRetryLineageNotFound then .ok source.id else .error e

/-- The evidence of a walk over the records. -/
def historyEvidence (rootJobID : String) (source : Job) (observedAt : Time)
    (lineage : List ManualRetryLineage) : Except JobError ManualRetryHistoryEvidence :=
  match indexBySource rootJobID lineage ∅ with
  | .error e => .error e
  | .ok bySource =>
      match followChain bySource (lineage.length + 1) [] rootJobID with
      | .error e => .error e
      | .ok entries =>
          if entries.length ≠ lineage.length then
            .error (invalidManualRetryHistory "retry lineage contains disconnected entries")
          else
            match manualRetryHistoryPayload rootJobID entries with
            | none =>
                .error (invalidManualRetryHistory ("encode retry history: " ++ Json.timeError))
            | some payload => .ok {
                contractVersion := manualRetryHistoryContractVersion
                rootJobID := rootJobID
                sourceJobID := source.id
                sourceJobVersion := source.version
                usedManualRetries := UInt32.ofNat entries.length
                sourceAlreadyRetried := decide (source.id ∈ bySource)
                digest := sha256Digest payload.bytes
                observedAt := observedAt }

def buildManualRetryHistoryEvidence (r : MemoryManualRetryRepository) (ctx : Context)
    (source : Job) (observedAt : Time) : Except JobError ManualRetryHistoryEvidence :=
  match validateManualRetryIdentifier "source job id" source.id with
  | .error e => .error e
  | .ok () =>
      if source.version = 0 then
        .error (invalidManualRetryHistory "positive source Job version is required")
      else if Time.isZero observedAt = true ∨ Time.isZero source.updatedAt = true ∨
          observedAt < source.updatedAt then
        .error (invalidManualRetryHistory "fresh history observation is required")
      else
        match historyRoot r ctx source with
        | .error e => .error e
        | .ok rootJobID =>
            match validateManualRetryIdentifier "root job id" rootJobID with
            | .error e => .error e
            | .ok () =>
                match r.listManualRetryLineage ctx rootJobID with
                | .error e => .error e
                | .ok lineage =>
                    if maxManualRetryHistoryEntries < lineage.length then
                      .error (invalidManualRetryHistory
                        "retry history exceeds bounded evidence size")
                    else historyEvidence rootJobID source observedAt lineage

end ControlCenter.Orchestration
