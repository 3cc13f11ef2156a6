import ControlCenter.CoreContracts.Metadata

/-!
# Incidents

`internal/incidents/incident.go`: the incident read model and its validator. An incident
carries bounded lists of resources, signals, timeline entries and evidence references, and
the validator checks each list and how the lists, the status and the times fit together.

The validator accepts exactly the incidents that are `Incident.Valid`
(`Incident.validate_ok`). The timeline is the part that mutations extend: it is accepted when
each entry is, the entries are in order of time, and the operator events fit the status
(`passes_timelineChecks`).
-/

set_option autoImplicit false

namespace ControlCenter.Incidents

open Library CoreContracts

def maxTitleLength : Nat := 160

def maxSummaryLength : Nat := 512

def maxReferenceLength : Nat := 255

def maxAffectedResource : Nat := 64

def maxSignals : Nat := 128

def maxTimelineEntries : Nat := 256

def maxEvidenceRefs : Nat := 128

/-! ## The records -/

inductive Severity where
  | info
  | warning
  | critical
  deriving DecidableEq

inductive Status where
  | opened
  | acknowledged
  | resolved
  deriving DecidableEq

def Status.text : Status → String
  | .opened => "open"
  | .acknowledged => "acknowledged"
  | .resolved => "resolved"

inductive TimelineKind where
  | opened
  | signalObserved
  | acknowledged
  | resolved
  | note
  deriving DecidableEq

inductive RedactionState where
  | notApplicable
  | applied
  deriving DecidableEq

structure ResourceRef where
  kind : String
  id : String
  scopeID : String
  deriving DecidableEq

structure EvidenceRef where
  kind : String
  id : String
  sha256 : String
  collected : Time
  redaction : RedactionState
  deriving DecidableEq

structure Signal where
  id : String
  kind : String
  source : String
  observedAt : Time
  summary : String
  evidence : List EvidenceRef
  deriving DecidableEq

structure RunbookRef where
  id : String
  revision : String
  deriving DecidableEq

structure Acknowledgement where
  actorID : String
  occurredAt : Time
  deriving DecidableEq

structure TimelineEntry where
  kind : TimelineKind
  occurredAt : Time
  actorID : String
  summary : String
  evidence : List EvidenceRef
  deriving DecidableEq

structure Incident extends ObjectMetadata where
  severity : Severity
  status : Status
  title : String
  startedAt : Time
  lastObservedAt : Time
  affectedResources : List ResourceRef
  signals : List Signal
  timeline : List TimelineEntry
  runbook : Option RunbookRef
  acknowledgement : Option Acknowledgement
  evidence : List EvidenceRef
  deriving DecidableEq

/-- The errors of the package. -/
inductive IncidentError where
  | invalidIncident (text : String)
  | invalidTimeline (text : String)
  | invalidEvidence (text : String)
  | invalidAcknowledgement (text : String)
  | stateConflict (text : String)
  | evidenceConflict (text : String)
  | noChange
  | contract (e : ContractError)
  deriving DecidableEq

/-- The text of an error. -/
def IncidentError.text : IncidentError → String
  | .invalidIncident text => "invalid incident: " ++ text
  | .invalidTimeline text => "invalid incident timeline: " ++ text
  | .invalidEvidence text => "invalid incident evidence: " ++ text
  | .invalidAcknowledgement text => "invalid incident acknowledgement: " ++ text
  | .stateConflict text => "incident state conflict: " ++ text
  | .evidenceConflict text => "incident evidence conflict: " ++ text
  | .noChange => "incident mutation has no effective change"
  | .contract e => e.text

/-! ## References and texts -/

def isRefChar (c : Char) : Bool :=
  c.isAlphanum || c == '.' || c == '_' || c == ':' || c == '/' || c == '-'

def refPattern (value : String) : Bool := boundedPattern isRefChar value

def validateRef (field value : String) : List (Bool × String) :=
  [(value == "" || trimSpace value != value,
      field ++ " is required and must not have surrounding whitespace"),
    (decide (maxReferenceLength < value.utf8ByteSize) || !refPattern value,
      field ++ " has invalid format")]

/-- The reference passes its tests. -/
def IsRef (value : String) : Prop := Passes (validateRef "" value)

instance (value : String) : Decidable (IsRef value) :=
  inferInstanceAs (Decidable (∀ check ∈ _, _))

@[simp] theorem passes_validateRef {field value : String} :
    Passes (validateRef field value) ↔ IsRef value := by
  simp only [IsRef, validateRef, passes_cons]

/-- A reference that may be empty. -/
theorem passes_optionalRef {ε : Type} {f : String → ε} {field value : String} :
    Passes (if value = "" then [] else relabel f (validateRef field value)) ↔
      (value ≠ "" → IsRef value) := by
  split <;> simp_all

def validateText (field value : String) (maxRunes : Nat) (required : Bool) :
    List (Bool × String) :=
  [(required && trimSpace value == "", field ++ " is required"),
    (trimSpace value != value, field ++ " must not have surrounding whitespace"),
    (decide (maxRunes < value.length),
      field ++ " exceeds " ++ maxRunes.repr ++ " characters or is not valid UTF-8"),
    (value.toList.any fun r => isControl r && r != '\t', field ++ " contains control characters")]

/-- The text passes its tests. -/
def IsText (value : String) (maxRunes : Nat) (required : Bool) : Prop :=
  Passes (validateText "" value maxRunes required)

instance (value : String) (maxRunes : Nat) (required : Bool) :
    Decidable (IsText value maxRunes required) :=
  inferInstanceAs (Decidable (∀ check ∈ _, _))

@[simp] theorem passes_validateText {field value : String} {maxRunes : Nat} {required : Bool} :
    Passes (validateText field value maxRunes required) ↔ IsText value maxRunes required := by
  simp only [IsText, validateText, passes_cons]

/-- A required text is a text. -/
theorem IsText.of_required {value : String} {maxRunes : Nat} (text : IsText value maxRunes true) :
    IsText value maxRunes false := by
  simp only [IsText, validateText, passes_cons] at text ⊢
  exact ⟨rfl, text.2⟩

/-! ## Evidence references -/

/-- Sixty-four lower case hexadecimal digits. -/
def sha256Pattern (value : String) : Bool :=
  value.toList.length == 64 &&
    value.toList.all fun c => ('a' ≤ c && c ≤ 'f') || ('0' ≤ c && c ≤ '9')

/-- What two references may not share. -/
def EvidenceRef.key (ref : EvidenceRef) : String := ref.kind ++ "\x00" ++ ref.id

/-- The loop over the references, with the keys seen. -/
def evidenceChecks : (index : Nat) → (seen : List String) → List EvidenceRef →
    List (Bool × IncidentError)
  | _, _, [] => []
  | index, seen, ref :: rest =>
      let label := "evidence[" ++ index.repr ++ "]"
      relabel (fun text => .invalidEvidence (label ++ ": " ++ text))
          (validateRef "evidence.kind" ref.kind ++ validateRef "evidence.id" ref.id) ++
        relabel .invalidEvidence
          [(Time.isZero ref.collected, label ++ " collected_at is required"),
            (ref.sha256 != "" && !sha256Pattern ref.sha256,
              label ++ " sha256 must be 64 lowercase hex characters"),
            (seen.contains ref.key,
              "duplicate evidence reference " ++ ref.kind ++ "/" ++ ref.id)] ++
        evidenceChecks (index + 1) (ref.key :: seen) rest

def validateEvidenceSet (evidence : List EvidenceRef) : List (Bool × IncidentError) :=
  evidenceChecks 0 [] evidence

/-- The references pass their tests. -/
def EvidenceSet (evidence : List EvidenceRef) : Prop := Passes (validateEvidenceSet evidence)

@[simp] theorem passes_validateEvidenceSet {evidence : List EvidenceRef} :
    Passes (validateEvidenceSet evidence) ↔ EvidenceSet evidence := Iff.rfl

theorem evidenceSet_nil : EvidenceSet [] := passes_nil

/-- A reference passes on its own. -/
def EvidenceRef.Valid (ref : EvidenceRef) : Prop :=
  IsRef ref.kind ∧ IsRef ref.id ∧ ref.collected ≠ 0 ∧
    (ref.sha256 != "" && !sha256Pattern ref.sha256) = false

theorem passes_evidenceChecks {index : Nat} {seen : List String} {evidence : List EvidenceRef} :
    Passes (evidenceChecks index seen evidence) ↔ (∀ ref ∈ evidence, ref.Valid) ∧
      (evidence.map EvidenceRef.key).Nodup ∧ ∀ ref ∈ evidence, ref.key ∉ seen := by
  refine passes_unseen (fun _ _ => rfl) fun index seen ref rest => ?_
  simp only [evidenceChecks, passes_append, passes_relabel, passes_cons, passes_nil, and_true,
    passes_validateRef, Time.isZero, beq_eq_false_iff_ne, List.contains_eq_mem,
    decide_eq_false_iff_not, EvidenceRef.Valid, and_assoc]

/-- **References are accepted when each is and no two share a key.** -/
theorem evidenceSet_iff {evidence : List EvidenceRef} :
    EvidenceSet evidence ↔
      (∀ ref ∈ evidence, ref.Valid) ∧ (evidence.map EvidenceRef.key).Nodup := by
  rw [EvidenceSet, validateEvidenceSet, passes_evidenceChecks]
  simp

/-! ## Resources and signals -/

def ResourceRef.key (resource : ResourceRef) : String :=
  resource.kind ++ "\x00" ++ resource.id ++ "\x00" ++ resource.scopeID

def resourceChecks : (index : Nat) → (seen : List String) → List ResourceRef →
    List (Bool × IncidentError)
  | _, _, [] => []
  | index, seen, resource :: rest =>
      relabel (fun text => .invalidIncident ("affected_resources[" ++ index.repr ++ "]: " ++ text))
          (validateRef "resource.kind" resource.kind ++ validateRef "resource.id" resource.id ++
            validateRef "resource.scope_id" resource.scopeID) ++
        [(seen.contains resource.key, .invalidIncident
          ("duplicate affected resource " ++ resource.kind ++ "/" ++ resource.id))] ++
        resourceChecks (index + 1) (resource.key :: seen) rest

def validateResources (resources : List ResourceRef) : List (Bool × IncidentError) :=
  resourceChecks 0 [] resources

def signalChecks (startedAt lastObservedAt : Time) : (index : Nat) → (seen : List String) →
    List Signal → List (Bool × IncidentError)
  | _, _, [] => []
  | index, seen, signal :: rest =>
      let label := "signals[" ++ index.repr ++ "]"
      let labelled := fun text => IncidentError.invalidIncident (label ++ ": " ++ text)
      relabel labelled (validateRef "signal.id" signal.id) ++
        [(seen.contains signal.id,
          .invalidIncident ("duplicate signal id " ++ quoted signal.id))] ++
        relabel labelled
          (validateRef "signal.kind" signal.kind ++ validateRef "signal.source" signal.source) ++
        [(Time.isZero signal.observedAt || decide (signal.observedAt < startedAt) ||
            decide (lastObservedAt < signal.observedAt),
          .invalidIncident (label ++ " observed_at is outside incident observation window"))] ++
        relabel labelled (validateText "signal.summary" signal.summary maxSummaryLength true) ++
        [(decide (maxEvidenceRefs < signal.evidence.length),
          .invalidEvidence (label ++ " has too many evidence references"))] ++
        relabel (fun e => .invalidEvidence (label ++ ": " ++ IncidentError.text e))
          (validateEvidenceSet signal.evidence) ++
        signalChecks startedAt lastObservedAt (index + 1) (signal.id :: seen) rest

/-- The newest of the instants, none before the start. -/
def newestSignal (startedAt : Time) (signals : List Signal) : Time :=
  signals.foldl (fun latest signal =>
    if latest < signal.observedAt then signal.observedAt else latest) startedAt

def validateSignals (signals : List Signal) (startedAt lastObservedAt : Time) :
    List (Bool × IncidentError) :=
  signalChecks startedAt lastObservedAt 0 [] signals ++
    [(newestSignal startedAt signals != lastObservedAt,
      .invalidIncident "last_observed_at does not match newest signal")]

/-- A signal passes on its own. -/
structure Signal.Valid (startedAt lastObservedAt : Time) (signal : Signal) : Prop where
  id : IsRef signal.id
  kind : IsRef signal.kind
  source : IsRef signal.source
  dated : signal.observedAt ≠ 0 ∧ startedAt ≤ signal.observedAt ∧
    signal.observedAt ≤ lastObservedAt
  summary : IsText signal.summary maxSummaryLength true
  bounded : signal.evidence.length ≤ maxEvidenceRefs
  evidence : EvidenceSet signal.evidence

theorem passes_signalChecks {startedAt lastObservedAt : Time} {index : Nat} {seen : List String}
    {signals : List Signal} :
    Passes (signalChecks startedAt lastObservedAt index seen signals) ↔
      (∀ signal ∈ signals, signal.Valid startedAt lastObservedAt) ∧
        (signals.map Signal.id).Nodup ∧ ∀ signal ∈ signals, signal.id ∉ seen := by
  refine passes_unseen (fun _ _ => rfl) fun index seen signal rest => ?_
  simp only [signalChecks, passes_append, passes_relabel, passes_cons, passes_nil, and_true,
    passes_validateRef, passes_validateText, passes_validateEvidenceSet, Bool.or_eq_false_iff,
    Time.isZero, beq_eq_false_iff_ne, decide_eq_false_iff_not, not_lt, List.contains_eq_mem]
  refine and_congr_left fun _ => ?_
  constructor
  · rintro ⟨⟨⟨⟨⟨⟨id, fresh⟩, kind, source⟩, ⟨set, started⟩, last⟩, summary⟩, bounded⟩, evidence⟩
    exact ⟨⟨id, kind, source, ⟨set, started, last⟩, summary, bounded, evidence⟩, fresh⟩
  · rintro ⟨⟨id, kind, source, ⟨set, started, last⟩, summary, bounded, evidence⟩, fresh⟩
    exact ⟨⟨⟨⟨⟨⟨id, fresh⟩, kind, source⟩, ⟨set, started⟩, last⟩, summary⟩, bounded⟩, evidence⟩

def validateRunbook (runbook : Option RunbookRef) : List (Bool × IncidentError) :=
  match runbook with
  | none => []
  | some runbook =>
      relabel .invalidIncident
        (validateRef "runbook.id" runbook.id ++ validateRef "runbook.revision" runbook.revision)

/-! ## The acknowledgement and the timeline -/

def validateAcknowledgement (status : Status) (acknowledgement : Option Acknowledgement)
    (startedAt updatedAt : Time) : List (Bool × IncidentError) :=
  match status, acknowledgement with
  | .opened, none => []
  | .opened, some _ =>
      [(true, .invalidAcknowledgement "open incident must not carry acknowledgement")]
  | status, none =>
      [(true, .invalidAcknowledgement (status.text ++ " incident requires acknowledgement"))]
  | _, some acknowledgement =>
      relabel .invalidAcknowledgement
        (validateRef "acknowledgement.actor_id" acknowledgement.actorID ++
          [(Time.isZero acknowledgement.occurredAt ||
              decide (acknowledgement.occurredAt < startedAt) ||
              decide (updatedAt < acknowledgement.occurredAt),
            "acknowledgement timestamp is outside incident lifetime")])

/-- What the kind of an entry asks of its actor. -/
def entryKindChecks (acknowledgement : Option Acknowledgement) (entry : TimelineEntry) :
    List (Bool × IncidentError) :=
  match entry.kind with
  | .acknowledged =>
      [(acknowledgement != some ⟨entry.actorID, entry.occurredAt⟩,
        .invalidTimeline "acknowledgement entry does not match acknowledgement state")]
  | .resolved =>
      [(entry.actorID == "", .invalidTimeline "resolved entry requires actor_id")]
  | .opened | .signalObserved =>
      [(entry.actorID != "",
        .invalidTimeline "system observation entry must not carry actor_id")]
  | .note => [(entry.actorID == "", .invalidTimeline "note entry requires actor_id")]

section Timeline

variable (startedAt updatedAt : Time) (acknowledgement : Option Acknowledgement)

/-- The checks of one entry, after an entry at `previous`. -/
def entryChecks (previous : Time) (index : Nat) (entry : TimelineEntry) :
    List (Bool × IncidentError) :=
  let label := "timeline[" ++ index.repr ++ "]"
  [(Time.isZero entry.occurredAt || decide (entry.occurredAt < startedAt) ||
      decide (updatedAt < entry.occurredAt),
      .invalidTimeline (label ++ " timestamp is outside incident lifetime")),
    (!Time.isZero previous && decide (entry.occurredAt < previous),
      .invalidTimeline "entries are not chronological")] ++
    relabel (fun text => .invalidTimeline (label ++ ": " ++ text))
      (validateText "timeline.summary" entry.summary maxSummaryLength false) ++
    [(decide (maxEvidenceRefs < entry.evidence.length),
      .invalidEvidence (label ++ " has too many evidence references"))] ++
    relabel (fun e => .invalidEvidence (label ++ ": " ++ IncidentError.text e))
      (validateEvidenceSet entry.evidence) ++
    entryKindChecks acknowledgement entry ++
    (if entry.actorID = "" then []
      else relabel (fun text => .invalidTimeline (label ++ ": " ++ text))
        (validateRef "timeline.actor_id" entry.actorID))

/-- The loop over the entries, with the instant of the one before. -/
def timelineChecks : (previous : Time) → (index : Nat) → List TimelineEntry →
    List (Bool × IncidentError)
  | _, _, [] => []
  | previous, index, entry :: rest =>
      entryChecks startedAt updatedAt acknowledgement previous index entry ++
        timelineChecks entry.occurredAt (index + 1) rest

/-- An entry passes on its own. -/
structure TimelineEntry.Valid (entry : TimelineEntry) : Prop where
  dated : entry.occurredAt ≠ 0 ∧ startedAt ≤ entry.occurredAt ∧ entry.occurredAt ≤ updatedAt
  summary : IsText entry.summary maxSummaryLength false
  bounded : entry.evidence.length ≤ maxEvidenceRefs
  evidence : EvidenceSet entry.evidence
  kind : Passes (entryKindChecks acknowledgement entry)
  actor : entry.actorID ≠ "" → IsRef entry.actorID

variable {startedAt updatedAt acknowledgement}

theorem passes_entryChecks {previous : Time} {index : Nat} {entry : TimelineEntry} :
    Passes (entryChecks startedAt updatedAt acknowledgement previous index entry) ↔
      entry.Valid startedAt updatedAt acknowledgement ∧
        (previous ≠ 0 → previous ≤ entry.occurredAt) := by
  have ordered : (!(previous == 0) && decide (entry.occurredAt < previous)) = false ↔
      (previous ≠ 0 → previous ≤ entry.occurredAt) := by
    simp [Bool.and_eq_false_imp]
  simp only [entryChecks, passes_append, passes_relabel, passes_cons, passes_nil, and_true,
    passes_optionalRef, passes_validateText, passes_validateEvidenceSet, Bool.or_eq_false_iff,
    Time.isZero, ordered, beq_eq_false_iff_ne, decide_eq_false_iff_not, not_lt]
  constructor
  · rintro ⟨⟨⟨⟨⟨⟨⟨⟨set, started⟩, updated⟩, after⟩, summary⟩, bounded⟩, evidence⟩, kind⟩, actor⟩
    exact ⟨⟨⟨set, started, updated⟩, summary, bounded, evidence, kind, actor⟩, after⟩
  · rintro ⟨⟨⟨set, started, updated⟩, summary, bounded, evidence, kind, actor⟩, after⟩
    exact ⟨⟨⟨⟨⟨⟨⟨⟨set, started⟩, updated⟩, after⟩, summary⟩, bounded⟩, evidence⟩, kind⟩, actor⟩

/-- **A timeline passes when each entry does and the entries are in order of time.** -/
theorem passes_timelineChecks {previous : Time} {index : Nat} {entries : List TimelineEntry} :
    Passes (timelineChecks startedAt updatedAt acknowledgement previous index entries) ↔
      (∀ entry ∈ entries, entry.Valid startedAt updatedAt acknowledgement) ∧
        (entries.map TimelineEntry.occurredAt).Pairwise (· ≤ ·) ∧
        (previous ≠ 0 → ∀ entry ∈ entries, previous ≤ entry.occurredAt) := by
  induction entries generalizing previous index with
  | nil => simp [timelineChecks]
  | cons entry rest ih =>
      simp only [timelineChecks, passes_append, passes_entryChecks, ih, List.map_cons,
        List.pairwise_cons, List.forall_mem_cons, List.forall_mem_map]
      constructor
      · rintro ⟨⟨valid, after⟩, later, sorted, ordered⟩
        exact ⟨⟨valid, later⟩, ⟨ordered valid.dated.1, sorted⟩, fun set => ⟨after set,
          fun other listed => (after set).trans (ordered valid.dated.1 other listed)⟩⟩
      · rintro ⟨⟨valid, later⟩, ⟨ordered, sorted⟩, after⟩
        exact ⟨⟨valid, fun set => (after set).1⟩, later, sorted, fun _ => ordered⟩

end Timeline

/-- The entries of a kind. -/
def countKind (kind : TimelineKind) (entries : List TimelineEntry) : Nat :=
  entries.countP fun entry => entry.kind == kind

/-- The operator events that a status asks for. -/
def statusEventChecks (status : Status) (entries : List TimelineEntry) :
    List (Bool × IncidentError) :=
  let ackCount := countKind .acknowledged entries
  let resolvedCount := countKind .resolved entries
  match status with
  | .opened =>
      [(ackCount != 0 || resolvedCount != 0,
        .invalidTimeline "open incident contains terminal operator events")]
  | .acknowledged =>
      [(ackCount != 1 || resolvedCount != 0, .invalidTimeline
        "acknowledged incident requires exactly one acknowledgement and no resolution")]
  | .resolved =>
      [(ackCount != 1 || resolvedCount != 1 ||
          entries.getLast?.map TimelineEntry.kind != some .resolved,
        .invalidTimeline
          "resolved incident requires one acknowledgement and terminal resolution")]

def validateTimeline (incident : Incident) : List (Bool × IncidentError) :=
  [(incident.timeline.head?.map (fun entry => (entry.kind, entry.occurredAt)) !=
      some (.opened, incident.startedAt),
    .invalidTimeline "first entry must open the incident at started_at")] ++
    timelineChecks incident.startedAt incident.updatedAt incident.acknowledgement 0 0
      incident.timeline ++
    statusEventChecks incident.status incident.timeline

/-! ## The validator -/

/-- A list that may not be empty or too long. -/
def sizeCheck {α : Type} (items : List α) (maximum : Nat) : Bool :=
  items.isEmpty || decide (maximum < items.length)

def Incident.checks (i : Incident) : List (Bool × IncidentError) :=
  relabel (fun e => .invalidIncident (ContractError.text e)) i.toObjectMetadata.checks ++
    relabel .invalidIncident
      (validateText "title" i.title maxTitleLength true ++
        [(Time.isZero i.startedAt || Time.isZero i.lastObservedAt,
            "started_at and last_observed_at are required"),
          (decide (i.lastObservedAt < i.startedAt), "last_observed_at precedes started_at"),
          (decide (i.startedAt < i.createdAt) || decide (i.updatedAt < i.lastObservedAt),
            "observation timestamps exceed object lifetime"),
          (sizeCheck i.affectedResources maxAffectedResource,
            "affected_resources must contain 1..64 entries"),
          (sizeCheck i.signals maxSignals, "signals must contain 1..128 entries")]) ++
    [(sizeCheck i.timeline maxTimelineEntries,
        .invalidTimeline "timeline must contain 1..256 entries"),
      (decide (maxEvidenceRefs < i.evidence.length),
        .invalidEvidence "too many incident evidence references")] ++
    validateResources i.affectedResources ++
    validateEvidenceSet i.evidence ++
    validateSignals i.signals i.startedAt i.lastObservedAt ++
    validateRunbook i.runbook ++
    validateAcknowledgement i.status i.acknowledgement i.startedAt i.updatedAt ++
    validateTimeline i

def Incident.validate (i : Incident) : Except IncidentError Unit := firstFailure i.checks

/-- What no mutation changes of an incident is well formed. -/
structure Incident.Observed (i : Incident) : Prop where
  title : IsText i.title maxTitleLength true
  set : i.startedAt ≠ 0 ∧ i.lastObservedAt ≠ 0
  ordered : i.startedAt ≤ i.lastObservedAt
  created : i.createdAt ≤ i.startedAt
  resources : sizeCheck i.affectedResources maxAffectedResource = false ∧
    Passes (validateResources i.affectedResources)
  signals : sizeCheck i.signals maxSignals = false ∧
    Passes (validateSignals i.signals i.startedAt i.lastObservedAt)

/-- The timeline of an incident fits its times, its acknowledgement and its status. -/
structure Incident.Told (i : Incident) : Prop where
  bounded : i.timeline.length ≤ maxTimelineEntries
  opens : i.timeline.head?.map (fun entry => (entry.kind, entry.occurredAt)) =
    some (.opened, i.startedAt)
  entries : ∀ entry ∈ i.timeline, entry.Valid i.startedAt i.updatedAt i.acknowledgement
  sorted : (i.timeline.map TimelineEntry.occurredAt).Pairwise (· ≤ ·)
  events : Passes (statusEventChecks i.status i.timeline)

/-- A well-formed incident. -/
structure Incident.Valid (i : Incident) : Prop where
  metadata : i.toObjectMetadata.Valid
  observed : i.Observed
  observedBy : i.lastObservedAt ≤ i.updatedAt
  few : i.evidence.length ≤ maxEvidenceRefs
  evidence : EvidenceSet i.evidence
  runbook : Passes (validateRunbook i.runbook)
  acknowledgement :
    Passes (validateAcknowledgement i.status i.acknowledgement i.startedAt i.updatedAt)
  told : i.Told

theorem passes_validateTimeline {i : Incident} :
    sizeCheck i.timeline maxTimelineEntries = false ∧ Passes (validateTimeline i) ↔ i.Told := by
  simp only [validateTimeline, passes_append, passes_cons, passes_nil, and_true,
    passes_timelineChecks, bne_eq_false_iff_eq, sizeCheck, Bool.or_eq_false_iff,
    decide_eq_false_iff_not, not_lt]
  constructor
  · rintro ⟨⟨_, bounded⟩, ⟨opens, entries, sorted, _⟩, events⟩
    exact ⟨bounded, opens, entries, sorted, events⟩
  · rintro ⟨bounded, opens, entries, sorted, events⟩
    refine ⟨⟨?_, bounded⟩, ⟨opens, entries, sorted, fun set => absurd rfl set⟩, events⟩
    cases told : i.timeline with
    | nil => simp [told] at opens
    | cons => rfl

/-- **An incident is accepted when it is well formed.** -/
theorem Incident.validate_ok {i : Incident} : i.validate = .ok () ↔ i.Valid := by
  simp only [validate, checks, firstFailure_passes, passes_append, passes_relabel, passes_cons,
    passes_nil, and_true, ObjectMetadata.passes_checks, passes_validateText,
    passes_validateEvidenceSet, Bool.or_eq_false_iff, Time.isZero, beq_eq_false_iff_ne,
    decide_eq_false_iff_not, not_lt]
  constructor
  · rintro ⟨⟨⟨⟨⟨⟨⟨⟨metadata, title, set, ordered, ⟨created, observedBy⟩, resourceCount,
      signalCount⟩, entryCount, few⟩, resources⟩, evidence⟩, signals⟩, runbook⟩, acknowledgement⟩,
      timeline⟩
    exact ⟨metadata, ⟨title, set, ordered, created, ⟨resourceCount, resources⟩,
      ⟨signalCount, signals⟩⟩, observedBy, few, evidence, runbook, acknowledgement,
      passes_validateTimeline.mp ⟨entryCount, timeline⟩⟩
  · rintro ⟨metadata, ⟨title, set, ordered, created, ⟨resourceCount, resources⟩,
      ⟨signalCount, signals⟩⟩, observedBy, few, evidence, runbook, acknowledgement, told⟩
    obtain ⟨entryCount, timeline⟩ := passes_validateTimeline.mpr told
    exact ⟨⟨⟨⟨⟨⟨⟨⟨metadata, title, set, ordered, ⟨created, observedBy⟩, resourceCount,
      signalCount⟩, entryCount, few⟩, resources⟩, evidence⟩, signals⟩, runbook⟩, acknowledgement⟩,
      timeline⟩

end ControlCenter.Incidents
