import Mathlib.Data.List.Nodup
import ControlCenter.Incidents.Incident
import ControlCenter.Library.Machine

/-!
# The mutations of an incident

`internal/incidents/mutation.go`: the three operator requests prepare a successor of an
incident, acknowledged, resolved or annotated, and validate it as a whole. Nothing is stored
here.

An accepted request makes one of three moves (`prepare_moves`), and each move appends
one entry to the timeline. So over every run the timeline and the evidence only grow, the
status moves forward and the generation counts its moves. The timeline is bounded, so notes
can use up the entries that the acknowledgement and the resolution still need: an unresolved
incident can be resolved exactly while there is room for them (`incident_lifecycle_iff`).
-/

set_option autoImplicit false

namespace ControlCenter.Incidents

open Library CoreContracts

/-! ## The requests -/

structure PreparedMutation where
  precondition : ObjectPrecondition
  next : Incident
  desiredChanged : Bool
  deriving DecidableEq

structure AcknowledgeRequest where
  precondition : ObjectPrecondition
  actorID : String
  occurredAt : Time
  resourceVersion : String
  note : String
  deriving DecidableEq

structure ResolveRequest where
  precondition : ObjectPrecondition
  actorID : String
  occurredAt : Time
  resourceVersion : String
  resolution : String
  evidence : List EvidenceRef
  deriving DecidableEq

structure EvidenceUpdateRequest where
  precondition : ObjectPrecondition
  actorID : String
  occurredAt : Time
  resourceVersion : String
  runbook : Option RunbookRef
  evidence : List EvidenceRef
  note : String
  deriving DecidableEq

/-- An error of `corecontracts` as one of this package. -/
def liftContract (result : Except ContractError Unit) : Except IncidentError Unit :=
  match result with
  | .error e => .error (.contract e)
  | .ok () => .ok ()

@[simp] theorem liftContract_ok {result : Except ContractError Unit} :
    liftContract result = .ok () ↔ result = .ok () := by
  cases result <;> simp [liftContract]

def validateMutationBase (current : Incident) (precondition : ObjectPrecondition)
    (actorID : String) (occurredAt : Time) (resourceVersion : String) :
    Except IncidentError Unit := do
  current.validate
  liftContract (precondition.validateAgainst current.toObjectMetadata)
  firstFailure
    (relabel .invalidAcknowledgement (validateRef "actor_id" actorID) ++
      [(Time.isZero occurredAt, .invalidTimeline "occurred_at is required"),
        (decide (occurredAt < current.updatedAt),
          .stateConflict "occurred_at precedes current updated_at"),
        (resourceVersion == "" || resourceVersion == current.resourceVersion,
          .contract (.invalidTransition "new resource_version is required"))])

def semanticSuccessor (current : Incident) (occurredAt : Time) (resourceVersion : String) :
    Except IncidentError Incident :=
  if current.generation = maxGeneration then
    .error (.contract (.invalidTransition "generation overflow"))
  else
    .ok { current with
      generation := current.generation + 1
      resourceVersion := resourceVersion
      updatedAt := occurredAt }

/-- The successor is validated and returned. -/
def prepared (precondition : ObjectPrecondition) (current next : Incident)
    (desiredChanged : Bool) : Except IncidentError PreparedMutation := do
  next.validate
  liftContract (validateSuccessor current.toObjectMetadata next.toObjectMetadata desiredChanged)
  return ⟨precondition, next, desiredChanged⟩

def prepareAcknowledgement (current : Incident) (request : AcknowledgeRequest) :
    Except IncidentError PreparedMutation := do
  validateMutationBase current request.precondition request.actorID request.occurredAt
    request.resourceVersion
  firstFailure
    ([(current.status != .opened, .stateConflict ("acknowledge requires open incident, current " ++
        "status is " ++ quoted current.status.text))] ++
      relabel .invalidAcknowledgement
        (validateText "acknowledgement.note" request.note maxSummaryLength false))
  let next ← semanticSuccessor current request.occurredAt request.resourceVersion
  prepared request.precondition current
    { next with
      status := .acknowledged
      acknowledgement := some ⟨request.actorID, request.occurredAt⟩
      timeline := next.timeline ++
        [⟨.acknowledged, request.occurredAt, request.actorID, request.note, []⟩] } true

def prepareResolution (current : Incident) (request : ResolveRequest) :
    Except IncidentError PreparedMutation := do
  validateMutationBase current request.precondition request.actorID request.occurredAt
    request.resourceVersion
  firstFailure
    ([(current.status != .acknowledged, .stateConflict ("resolve requires acknowledged " ++
        "incident, current status is " ++ quoted current.status.text))] ++
      relabel .invalidTimeline
        (validateText "resolution" request.resolution maxSummaryLength true) ++
      validateEvidenceSet request.evidence ++
      request.evidence.zipIdx.map fun (ref, index) =>
        (decide (request.occurredAt < ref.collected), .invalidEvidence
          ("resolution evidence[" ++ index.repr ++ "] is collected after occurred_at")))
  let next ← semanticSuccessor current request.occurredAt request.resourceVersion
  prepared request.precondition current
    { next with
      status := .resolved
      timeline := next.timeline ++ [⟨.resolved, request.occurredAt, request.actorID,
        request.resolution, request.evidence⟩] } true

/-! ## Evidence -/

def evidenceEqual (a b : EvidenceRef) : Bool :=
  a.kind == b.kind && a.id == b.id && a.sha256 == b.sha256 && a.collected == b.collected &&
    a.redaction == b.redaction

/-- The two references have one identity. -/
def sameIdentity (a b : EvidenceRef) : Bool := a.kind == b.kind && a.id == b.id

/-- The loop over the requested references, with what is merged and added so far. -/
def mergeLoop (occurredAt : Time) : (index : Nat) → (merged added : List EvidenceRef) →
    List EvidenceRef → Except IncidentError (List EvidenceRef × List EvidenceRef)
  | _, merged, added, [] => .ok (merged, added)
  | index, merged, added, candidate :: rest =>
      if occurredAt < candidate.collected then
        .error (.invalidEvidence
          ("evidence[" ++ index.repr ++ "] is collected after occurred_at"))
      else
        match merged.find? fun current => sameIdentity current candidate with
        | some current =>
            if evidenceEqual current candidate then
              mergeLoop occurredAt (index + 1) merged added rest
            else
              .error (.evidenceConflict ("evidence identity " ++ candidate.kind ++ "/" ++
                candidate.id ++ " already has different metadata"))
        | none =>
            mergeLoop occurredAt (index + 1) (merged ++ [candidate]) (added ++ [candidate]) rest

def mergeEvidence (existing requested : List EvidenceRef) (occurredAt : Time) :
    Except IncidentError (List EvidenceRef × List EvidenceRef) := do
  let (merged, added) ← mergeLoop occurredAt 0 existing [] requested
  if maxEvidenceRefs < merged.length then
    .error (.invalidEvidence "too many incident evidence references")
  else .ok (merged, added)

/-- Both references are absent, or they agree. -/
def runbookEqual (a b : Option RunbookRef) : Bool := a == b

/-- The checks of an update before its evidence is merged. -/
def EvidenceUpdateRequest.checks (request : EvidenceUpdateRequest) (current : Incident) :
    List (Bool × IncidentError) :=
  [(current.status == .resolved, .stateConflict "resolved incident metadata is immutable")] ++
    relabel .invalidTimeline
      (validateText "evidence_update.note" request.note maxSummaryLength true) ++
    validateRunbook request.runbook ++
    validateEvidenceSet request.evidence

def prepareEvidenceUpdate (current : Incident) (request : EvidenceUpdateRequest) :
    Except IncidentError PreparedMutation := do
  validateMutationBase current request.precondition request.actorID request.occurredAt
    request.resourceVersion
  firstFailure (request.checks current)
  let (merged, added) ← mergeEvidence current.evidence request.evidence request.occurredAt
  if (request.runbook.isNone || runbookEqual current.runbook request.runbook) &&
      added.isEmpty then .error .noChange
  else
    prepared request.precondition current
      { current with
        updatedAt := request.occurredAt
        resourceVersion := request.resourceVersion
        runbook := request.runbook.or current.runbook
        evidence := merged
        timeline := current.timeline ++
          [⟨.note, request.occurredAt, request.actorID, request.note, added⟩] } false

/-! ## The machine -/

inductive IncidentOp where
  | acknowledge (request : AcknowledgeRequest)
  | resolve (request : ResolveRequest)
  | updateEvidence (request : EvidenceUpdateRequest)
  deriving DecidableEq

def prepare (current : Incident) : IncidentOp → Except IncidentError PreparedMutation
  | .acknowledge request => prepareAcknowledgement current request
  | .resolve request => prepareResolution current request
  | .updateEvidence request => prepareEvidenceUpdate current request

/-- Every accepted successor becomes the current incident. A refused request changes
nothing. -/
def incidentMachine : Machine Incident IncidentOp (Except IncidentError Unit) where
  step current op :=
    match prepare current op with
    | .error e => (current, .error e)
    | .ok mutation => (mutation.next, .ok ())

/-! ## What the steps of a request accept -/

variable {current : Incident} {mutation : PreparedMutation} {occurredAt : Time}

theorem prepared_ok {precondition : ObjectPrecondition} {next : Incident} {desiredChanged : Bool} :
    prepared precondition current next desiredChanged = .ok mutation ↔
      next.Valid ∧ IsSuccessor current.toObjectMetadata next.toObjectMetadata desiredChanged ∧
        mutation = ⟨precondition, next, desiredChanged⟩ := by
  rw [eq_comm (a := mutation)]
  simp only [prepared, except_check_ok, Incident.validate_ok, liftContract_ok,
    validateSuccessor_ok, pure, Except.pure, Except.ok.injEq]

/-- What every request checks first. -/
structure Based (current : Incident) (precondition : ObjectPrecondition) (actorID : String)
    (occurredAt : Time) (resourceVersion : String) : Prop where
  valid : current.Valid
  precondition : precondition.validateAgainst current.toObjectMetadata = .ok ()
  actor : IsRef actorID
  set : occurredAt ≠ 0
  later : current.updatedAt ≤ occurredAt
  version : resourceVersion ≠ "" ∧ resourceVersion ≠ current.resourceVersion

theorem validateMutationBase_ok {precondition : ObjectPrecondition} {actorID : String}
    {resourceVersion : String} :
    validateMutationBase current precondition actorID occurredAt resourceVersion = .ok () ↔
      Based current precondition actorID occurredAt resourceVersion := by
  simp only [validateMutationBase, except_check_ok, Incident.validate_ok, liftContract_ok,
    firstFailure_passes, passes_append, passes_relabel,
    passes_cons, passes_nil, and_true,
    passes_validateRef, Time.isZero, beq_eq_false_iff_ne, decide_eq_false_iff_not, not_lt,
    Bool.or_eq_false_iff]
  constructor
  · rintro ⟨valid, met, actor, set, later, version⟩
    exact ⟨valid, met, actor, set, later, version⟩
  · rintro ⟨valid, met, actor, set, later, version⟩
    exact ⟨valid, met, actor, set, later, version⟩

theorem semanticSuccessor_ok {next : Incident} {resourceVersion : String} :
    semanticSuccessor current occurredAt resourceVersion = .ok next ↔
      current.generation ≠ maxGeneration ∧ next = { current with
        generation := current.generation + 1
        resourceVersion := resourceVersion
        updatedAt := occurredAt } := by
  unfold semanticSuccessor
  split <;> simp_all [eq_comm]

/-- The acknowledged successor. -/
def AcknowledgeRequest.successor (request : AcknowledgeRequest) (current : Incident) : Incident :=
  { current with
    generation := current.generation + 1
    resourceVersion := request.resourceVersion
    updatedAt := request.occurredAt
    status := .acknowledged
    acknowledgement := some ⟨request.actorID, request.occurredAt⟩
    timeline := current.timeline ++
      [⟨.acknowledged, request.occurredAt, request.actorID, request.note, []⟩] }

/-- The resolved successor. -/
def ResolveRequest.successor (request : ResolveRequest) (current : Incident) : Incident :=
  { current with
    generation := current.generation + 1
    resourceVersion := request.resourceVersion
    updatedAt := request.occurredAt
    status := .resolved
    timeline := current.timeline ++ [⟨.resolved, request.occurredAt, request.actorID,
      request.resolution, request.evidence⟩] }

/-- The annotated successor. -/
def EvidenceUpdateRequest.successor (request : EvidenceUpdateRequest) (current : Incident)
    (merged added : List EvidenceRef) : Incident :=
  { current with
    updatedAt := request.occurredAt
    resourceVersion := request.resourceVersion
    runbook := request.runbook.or current.runbook
    evidence := merged
    timeline := current.timeline ++
      [⟨.note, request.occurredAt, request.actorID, request.note, added⟩] }

theorem prepareAcknowledgement_ok {request : AcknowledgeRequest} :
    prepareAcknowledgement current request = .ok mutation ↔
      Based current request.precondition request.actorID request.occurredAt
          request.resourceVersion ∧
        (current.status = .opened ∧ IsText request.note maxSummaryLength false) ∧
        current.generation ≠ maxGeneration ∧ (request.successor current).Valid ∧
        IsSuccessor current.toObjectMetadata (request.successor current).toObjectMetadata true ∧
        mutation = ⟨request.precondition, request.successor current, true⟩ := by
  simp only [prepareAcknowledgement, except_check_ok, validateMutationBase_ok,
    firstFailure_passes, passes_append, passes_relabel, passes_cons, passes_nil, and_true,
    passes_validateText, bne_eq_false_iff_eq]
  simp only [except_bind_ok, semanticSuccessor_ok, prepared_ok]
  constructor
  · rintro ⟨base, checks, next, ⟨room, rfl⟩, valid, follows, rfl⟩
    exact ⟨base, checks, room, valid, follows, rfl⟩
  · rintro ⟨base, checks, room, valid, follows, rfl⟩
    exact ⟨base, checks, _, ⟨room, rfl⟩, valid, follows, rfl⟩

theorem prepareResolution_ok {request : ResolveRequest} :
    prepareResolution current request = .ok mutation ↔
      Based current request.precondition request.actorID request.occurredAt
          request.resourceVersion ∧
        (current.status = .acknowledged ∧ IsText request.resolution maxSummaryLength true ∧
          EvidenceSet request.evidence ∧
          ∀ ref ∈ request.evidence, ref.collected ≤ request.occurredAt) ∧
        current.generation ≠ maxGeneration ∧ (request.successor current).Valid ∧
        IsSuccessor current.toObjectMetadata (request.successor current).toObjectMetadata true ∧
        mutation = ⟨request.precondition, request.successor current, true⟩ := by
  have collected : Passes (request.evidence.zipIdx.map fun (ref, index) =>
      (decide (request.occurredAt < ref.collected), IncidentError.invalidEvidence
        ("resolution evidence[" ++ index.repr ++ "] is collected after occurred_at"))) ↔
      ∀ ref ∈ request.evidence, ref.collected ≤ request.occurredAt := by
    rw [passes_map]
    conv_rhs => rw [← List.zipIdx_map_fst 0 request.evidence]
    simp only [List.forall_mem_map, decide_eq_false_iff_not, not_lt]
  simp only [prepareResolution, except_check_ok, validateMutationBase_ok,
    firstFailure_passes, passes_append, passes_relabel, passes_cons, passes_nil, and_true,
    passes_validateText, passes_validateEvidenceSet, collected, bne_eq_false_iff_eq]
  simp only [except_bind_ok, semanticSuccessor_ok, prepared_ok]
  constructor
  · rintro ⟨base, ⟨⟨⟨status, text⟩, evidence⟩, collected⟩, next, ⟨room, rfl⟩, valid, follows, rfl⟩
    exact ⟨base, ⟨status, text, evidence, collected⟩, room, valid, follows, rfl⟩
  · rintro ⟨base, ⟨status, text, evidence, collected⟩, room, valid, follows, rfl⟩
    exact ⟨base, ⟨⟨⟨status, text⟩, evidence⟩, collected⟩, _, ⟨room, rfl⟩, valid, follows, rfl⟩

/-- The request changes the runbook or adds evidence. -/
def EvidenceUpdateRequest.Changes (request : EvidenceUpdateRequest) (current : Incident)
    (added : List EvidenceRef) : Prop :=
  (request.runbook ≠ none ∧ current.runbook ≠ request.runbook) ∨ added ≠ []

theorem prepareEvidenceUpdate_ok {request : EvidenceUpdateRequest} :
    prepareEvidenceUpdate current request = .ok mutation ↔
      Based current request.precondition request.actorID request.occurredAt
          request.resourceVersion ∧
        (current.status ≠ .resolved ∧ IsText request.note maxSummaryLength true ∧
          Passes (validateRunbook request.runbook) ∧ EvidenceSet request.evidence) ∧
        ∃ merged added,
          mergeEvidence current.evidence request.evidence request.occurredAt =
            .ok (merged, added) ∧
          request.Changes current added ∧ (request.successor current merged added).Valid ∧
          IsSuccessor current.toObjectMetadata
            (request.successor current merged added).toObjectMetadata false ∧
          mutation = ⟨request.precondition, request.successor current merged added, false⟩ := by
  simp only [prepareEvidenceUpdate, except_check_ok, validateMutationBase_ok,
    EvidenceUpdateRequest.checks, firstFailure_passes, passes_append, passes_relabel, passes_cons,
    passes_nil, and_true,
    passes_validateText, passes_validateEvidenceSet, beq_eq_false_iff_ne]
  simp only [except_bind_ok]
  have changes : ∀ added, ((request.runbook.isNone || runbookEqual current.runbook
      request.runbook) && added.isEmpty) = true ↔ ¬ request.Changes current added := by
    intro added
    rw [EvidenceUpdateRequest.Changes, not_or, not_and_or, not_not, not_not, not_not,
      Bool.and_eq_true, Bool.or_eq_true, Option.isNone_iff_eq_none, List.isEmpty_iff, runbookEqual,
      beq_iff_eq]
  constructor
  · rintro ⟨base, ⟨⟨⟨status, text⟩, runbook⟩, evidence⟩, ⟨merged, added⟩, merges, result⟩
    refine ⟨base, ⟨status, text, runbook, evidence⟩, merged, added, merges, ?_⟩
    dsimp only at result
    split at result
    · cases result
    · next changed =>
        rw [changes, not_not] at changed
        exact ⟨changed, prepared_ok.mp result⟩
  · rintro ⟨base, ⟨status, text, runbook, evidence⟩, merged, added, merges, changed, result⟩
    refine ⟨base, ⟨⟨⟨status, text⟩, runbook⟩, evidence⟩, ⟨merged, added⟩, merges, ?_⟩
    dsimp only
    rw [if_neg (mt (changes added).mp (not_not.mpr changed))]
    exact prepared_ok.mpr result

/-! ## What an accepted request does -/

/-- The incident has one more entry and, at the end, more evidence. -/
structure Grows (current next : Incident) : Prop where
  valid : next.Valid
  timeline : ∃ entry, next.timeline = current.timeline ++ [entry]
  evidence : current.evidence <+: next.evidence

/-- The status and the generation move together. -/
inductive Progress (current next : Incident) : Prop where
  | acknowledged (before : current.status = .opened) (after : next.status = .acknowledged)
      (room : current.generation ≠ maxGeneration)
      (generation : next.generation = current.generation + 1)
  | resolved (before : current.status = .acknowledged) (after : next.status = .resolved)
      (room : current.generation ≠ maxGeneration)
      (generation : next.generation = current.generation + 1)
  | annotated (status : next.status = current.status)
      (generation : next.generation = current.generation)

theorem mergeLoop_prefix {index : Nat} {merged added requested merged' added' : List EvidenceRef}
    (merges : mergeLoop occurredAt index merged added requested = .ok (merged', added')) :
    merged <+: merged' := by
  induction requested generalizing index merged added with
  | nil =>
      cases merges
      exact List.prefix_refl _
  | cons candidate rest ih =>
      unfold mergeLoop at merges
      split at merges
      · cases merges
      · split at merges
        · split at merges
          · exact ih merges
          · cases merges
        · exact (List.prefix_append _ _).trans (ih merges)

theorem mergeEvidence_ok {existing requested merged added : List EvidenceRef}
    (merges : mergeEvidence existing requested occurredAt = .ok (merged, added)) :
    mergeLoop occurredAt 0 existing [] requested = .ok (merged, added) := by
  obtain ⟨⟨merged', added'⟩, loop, bounded⟩ := except_bind_ok.mp merges
  dsimp only at bounded
  split at bounded
  · cases bounded
  · cases bounded
    exact loop

/-- **What an accepted request does.** -/
theorem prepare_moves {current : Incident} {op : IncidentOp} {mutation : PreparedMutation}
    (accepted : prepare current op = .ok mutation) :
    Grows current mutation.next ∧ Progress current mutation.next := by
  cases op with
  | acknowledge request =>
      obtain ⟨_, ⟨status, _⟩, room, valid, _, rfl⟩ := prepareAcknowledgement_ok.mp accepted
      exact ⟨⟨valid, ⟨_, rfl⟩, List.prefix_refl _⟩, .acknowledged status rfl room rfl⟩
  | resolve request =>
      obtain ⟨_, ⟨status, _⟩, room, valid, _, rfl⟩ := prepareResolution_ok.mp accepted
      exact ⟨⟨valid, ⟨_, rfl⟩, List.prefix_refl _⟩, .resolved status rfl room rfl⟩
  | updateEvidence request =>
      obtain ⟨_, _, merged, added, merges, _, valid, _, rfl⟩ :=
        prepareEvidenceUpdate_ok.mp accepted
      exact ⟨⟨valid, ⟨_, rfl⟩, mergeLoop_prefix (mergeEvidence_ok merges)⟩, .annotated rfl rfl⟩

/-- A step leaves the incident as it is, or moves it. -/
theorem next_cases (current : Incident) (op : IncidentOp) :
    incidentMachine.next current op = current ∨
      (Grows current (incidentMachine.next current op) ∧
        Progress current (incidentMachine.next current op)) := by
  have moves := @prepare_moves current op
  unfold Machine.next incidentMachine
  dsimp only
  cases accepted : prepare current op with
  | error e => exact .inl rfl
  | ok mutation => exact .inr (moves accepted)

/-! ## Whole runs -/

/-- How far a status has come. -/
def Status.rank : Status → Nat
  | .opened => 0
  | .acknowledged => 1
  | .resolved => 2

/-- The status changes that remain before the resolution. -/
def Status.remaining : Status → Nat
  | .opened => 2
  | .acknowledged => 1
  | .resolved => 0

/-- The later incident continues the earlier one. The last two fields count what the
resolution of each still needs. -/
structure Continues (earlier later : Incident) : Prop where
  timeline : earlier.timeline <+: later.timeline
  evidence : earlier.evidence <+: later.evidence
  status : earlier.status.rank ≤ later.status.rank
  entries : earlier.timeline.length + earlier.status.remaining ≤
    later.timeline.length + later.status.remaining
  generation : earlier.generation.toNat + earlier.status.remaining =
    later.generation.toNat + later.status.remaining

theorem Continues.refl (i : Incident) : Continues i i :=
  ⟨List.prefix_refl _, List.prefix_refl _, le_refl _, le_refl _, rfl⟩

theorem Continues.trans {a b c : Incident} (first : Continues a b) (second : Continues b c) :
    Continues a c :=
  ⟨first.timeline.trans second.timeline, first.evidence.trans second.evidence,
    first.status.trans second.status, first.entries.trans second.entries,
    first.generation.trans second.generation⟩

theorem toNat_succ_of_ne_max {generation : UInt64} (room : generation ≠ maxGeneration) :
    (generation + 1).toNat = generation.toNat + 1 := by
  have below := generation.toNat_lt
  have other : generation.toNat ≠ 18446744073709551615 := by
    intro same
    exact room (UInt64.toNat_inj.mp same)
  rw [UInt64.toNat_add]
  simp only [UInt64.toNat_one]
  omega

theorem continues_of_move {next : Incident} (grows : Grows current next)
    (progress : Progress current next) : Continues current next := by
  obtain ⟨entry, timeline⟩ := grows.timeline
  have length : next.timeline.length = current.timeline.length + 1 := by simp [timeline]
  have timeline' : current.timeline <+: next.timeline := ⟨[entry], timeline.symm⟩
  cases progress with
  | acknowledged before after room generation | resolved before after room generation =>
      have count := toNat_succ_of_ne_max room
      refine ⟨timeline', grows.evidence, ?_, ?_, ?_⟩
      · simp [before, after, Status.rank]
      · simp only [before, after, length, Status.remaining]
        omega
      · simp only [before, after, generation, count, Status.remaining]
  | annotated status generation =>
      refine ⟨timeline', grows.evidence, ?_, ?_, ?_⟩
      · rw [status]
      · rw [status, length]
        omega
      · rw [status, generation]

theorem next_continues (current : Incident) (op : IncidentOp) :
    Continues current (incidentMachine.next current op) := by
  rcases next_cases current op with same | ⟨grows, progress⟩
  · rw [same]
    exact .refl current
  · exact continues_of_move grows progress

/-- **Every run continues its start.** -/
theorem exec_continues (start : Incident) (ops : List IncidentOp) :
    Continues start (incidentMachine.exec start ops) := by
  induction ops generalizing start with
  | nil => exact .refl start
  | cons op ops ih => exact (next_continues start op).trans (ih _)

theorem exec_valid {start : Incident} (valid : start.Valid) (ops : List IncidentOp) :
    (incidentMachine.exec start ops).Valid := by
  refine Machine.exec_keeps (fun current op holds => ?_) valid ops
  rcases next_cases current op with same | ⟨grows, _⟩
  · rw [same]
    exact holds
  · exact grows.valid

/-- The status moves by one place or not at all. -/
def StatusMoves (before after : Status) : Prop :=
  after = before ∨ (before = .opened ∧ after = .acknowledged) ∨
    (before = .acknowledged ∧ after = .resolved)

theorem next_status (current : Incident) (op : IncidentOp) :
    StatusMoves current.status (incidentMachine.next current op).status := by
  rcases next_cases current op with same | ⟨_, progress⟩
  · exact .inl (by rw [same])
  · cases progress with
    | acknowledged before after _ _ => exact .inr (.inl ⟨before, after⟩)
    | resolved before after _ _ => exact .inr (.inr ⟨before, after⟩)
    | annotated status _ => exact .inl status

/-- The operations of a run that change the status. -/
def statusChanges (start : Incident) (ops : List IncidentOp) : Nat :=
  (incidentMachine.trace start ops).countP fun event =>
    event.before.status != event.after.status

theorem next_generation (current : Incident) (op : IncidentOp) :
    (incidentMachine.next current op).generation.toNat = current.generation.toNat +
      if current.status != (incidentMachine.next current op).status then 1 else 0 := by
  rcases next_cases current op with same | ⟨_, progress⟩
  · rw [same]
    simp
  · cases progress with
    | acknowledged before after room generation | resolved before after room generation =>
        rw [generation, before, after, toNat_succ_of_ne_max room]
        rfl
    | annotated status generation =>
        rw [generation, status]
        simp

/-- The generation counts the status changes. -/
theorem exec_generation (start : Incident) (ops : List IncidentOp) :
    (incidentMachine.exec start ops).generation.toNat =
      start.generation.toNat + statusChanges start ops := by
  induction ops generalizing start with
  | nil => simp [statusChanges]
  | cons op ops ih =>
      have step := next_generation start op
      rw [Machine.exec_cons, ih, step]
      simp only [statusChanges, Machine.trace_cons, List.countP_cons, Machine.event]
      split <;> omega

/-! ## Accepted requests -/

/-- A resource version other than the current one. -/
def freshVersion (current : String) : String := if current = "1" then "2" else "1"

theorem freshVersion_spec (current : String) :
    IsOpaqueVersion (freshVersion current) ∧ freshVersion current ≠ current := by
  unfold freshVersion
  split
  · next same =>
      subst same
      exact ⟨by decide, by decide⟩
  · next other => exact ⟨by decide, fun same => other same.symm⟩

/-- The precondition that names the incident as it is. -/
def exactly (current : Incident) : ObjectPrecondition :=
  ⟨current.objectID, current.resourceVersion, none⟩

theorem based_exactly (valid : current.Valid) {actorID : String} (actor : IsRef actorID) :
    Based current (exactly current) actorID current.updatedAt
      (freshVersion current.resourceVersion) := by
  have fresh := freshVersion_spec current.resourceVersion
  refine ⟨valid, ?_, actor, valid.metadata.updated, le_refl _, fresh.1.nonempty, fresh.2⟩
  exact ObjectPrecondition.validateAgainst_ok.mpr ⟨valid.metadata, rfl, rfl, fun _ => nofun⟩

variable {entry : TimelineEntry} {i : Incident}

/-- An entry of another kind does not depend on the acknowledgement. -/
theorem TimelineEntry.Valid.other {startedAt updatedAt : Time}
    {acknowledgement : Option Acknowledgement}
    (valid : entry.Valid startedAt updatedAt acknowledgement) (other : entry.kind ≠ .acknowledged)
    (acknowledgement' : Option Acknowledgement) :
    entry.Valid startedAt updatedAt acknowledgement' := by
  refine { valid with kind := ?_ }
  have kind := valid.kind
  unfold entryKindChecks at kind ⊢
  cases is : entry.kind with
  | acknowledged => exact absurd is other
  | opened | signalObserved | resolved | note =>
      rw [is] at kind
      exact kind

/-- The timeline with one more entry, at the time of the last update. -/
theorem Incident.Told.append {next : Incident} (told : i.Told)
    (timeline : next.timeline = i.timeline ++ [entry]) (started : next.startedAt = i.startedAt)
    (room : i.timeline.length < maxTimelineEntries) (time : entry.occurredAt = i.updatedAt)
    (entries : ∀ entry ∈ i.timeline,
      entry.Valid next.startedAt next.updatedAt next.acknowledgement)
    (valid : entry.Valid next.startedAt next.updatedAt next.acknowledgement)
    (events : Passes (statusEventChecks next.status next.timeline)) : next.Told := by
  refine ⟨?_, ?_, ?_, ?_, events⟩
  · rw [timeline, List.length_append, List.length_singleton]
    exact room
  · have opens := told.opens
    rw [timeline, started, ← opens]
    cases entered : i.timeline with
    | nil => simp [entered] at opens
    | cons => rfl
  · rw [timeline]
    simp only [List.forall_mem_append, List.forall_mem_singleton]
    exact ⟨entries, valid⟩
  · rw [timeline, List.map_append, List.pairwise_append]
    refine ⟨told.sorted, List.pairwise_singleton _ _, ?_⟩
    simp only [List.map_singleton, List.forall_mem_singleton, List.forall_mem_map, time]
    intro earlier listed
    exact (told.entries earlier listed).dated.2.2

theorem countKind_append (kind : TimelineKind) (entries : List TimelineEntry)
    (entry : TimelineEntry) :
    countKind kind (entries ++ [entry]) =
      countKind kind entries + if entry.kind = kind then 1 else 0 := by
  simp [countKind, List.countP_append, List.countP_singleton]

/-- The operator events of an open incident. -/
theorem Incident.Told.opened (told : i.Told) (status : i.status = .opened) :
    countKind .acknowledged i.timeline = 0 ∧ countKind .resolved i.timeline = 0 := by
  have events := told.events
  rw [status] at events
  simpa [statusEventChecks] using events

/-- The operator events of an acknowledged incident. -/
theorem Incident.Told.acknowledged (told : i.Told) (status : i.status = .acknowledged) :
    countKind .acknowledged i.timeline = 1 ∧ countKind .resolved i.timeline = 0 := by
  have events := told.events
  rw [status] at events
  simpa [statusEventChecks] using events

theorem started_le_updated (valid : i.Valid) : i.startedAt ≤ i.updatedAt :=
  valid.observed.ordered.trans valid.observedBy

/-- The request that acknowledges an incident as it is. -/
def acknowledgeNow (current : Incident) : AcknowledgeRequest :=
  ⟨exactly current, "operator", current.updatedAt, freshVersion current.resourceVersion, ""⟩

/-- The request that resolves an incident as it is. -/
def resolveNow (current : Incident) : ResolveRequest :=
  ⟨exactly current, "operator", current.updatedAt, freshVersion current.resourceVersion, "done",
    []⟩

/-- The envelope of a successor at the time of the last update. -/
theorem metadata_successor (valid : current.Valid) (room : current.generation ≠ maxGeneration)
    (next : ObjectMetadata)
    (same : next = { current.toObjectMetadata with
      generation := current.generation + 1
      resourceVersion := freshVersion current.resourceVersion }) :
    IsSuccessor current.toObjectMetadata next true := by
  have fresh := freshVersion_spec current.resourceVersion
  have positive : current.generation + 1 ≠ 0 := by
    intro zero
    have count := toNat_succ_of_ne_max room
    rw [zero] at count
    simp at count
  subst same
  exact ⟨valid.metadata, { valid.metadata with
      generation := positive
      resourceVersion := fresh.1 }, rfl, rfl, le_refl _, fresh.2, nofun, fun _ => room, rfl⟩

/-- No entry of a kind that is not counted. -/
theorem kind_ne_of_countKind {kind : TimelineKind} {entries : List TimelineEntry}
    (none : countKind kind entries = 0) (listed : entry ∈ entries) : entry.kind ≠ kind := by
  intro same
  have positive : 0 < countKind kind entries :=
    List.countP_pos_iff.mpr ⟨entry, listed, beq_iff_eq.mpr same⟩
  omega

theorem operator_isRef : IsRef "operator" := by decide

section Accepted

variable {current : Incident} (valid : current.Valid)
  (room : current.timeline.length < maxTimelineEntries)
  (generation : current.generation ≠ maxGeneration)

include valid room generation

theorem acknowledgeNow_accepted (status : current.status = .opened) :
    prepareAcknowledgement current (acknowledgeNow current) =
      .ok ⟨exactly current, (acknowledgeNow current).successor current, true⟩ := by
  have empty : IsText "" maxSummaryLength false := by decide
  have follows := metadata_successor valid generation
    ((acknowledgeNow current).successor current).toObjectMetadata rfl
  obtain ⟨acknowledgements, resolutions⟩ := valid.told.opened status
  have started := started_le_updated valid
  refine prepareAcknowledgement_ok.mpr ⟨based_exactly valid operator_isRef, ⟨status, empty⟩,
    generation, ⟨follows.validNext, { valid.observed with }, valid.observedBy, valid.few,
      valid.evidence, valid.runbook, ?_, ?_⟩, follows, rfl⟩
  · simp only [AcknowledgeRequest.successor, acknowledgeNow, validateAcknowledgement,
      passes_relabel, passes_append, passes_validateRef, passes_cons, passes_nil, and_true,
      Time.isZero, Bool.or_eq_false_iff, beq_eq_false_iff_ne]
    exact ⟨operator_isRef, ⟨valid.metadata.updated, decide_eq_false (not_lt.mpr started)⟩,
      decide_eq_false (lt_irrefl _)⟩
  · refine valid.told.append rfl rfl room rfl ?_ ?_ ?_
    · intro entry listed
      exact (valid.told.entries entry listed).other
        (kind_ne_of_countKind acknowledgements listed) _
    · refine ⟨⟨valid.metadata.updated, started, le_refl _⟩, empty, Nat.zero_le _,
        evidenceSet_nil, ?_, fun _ => operator_isRef⟩
      simp [entryKindChecks, acknowledgeNow, AcknowledgeRequest.successor]
    · simp [AcknowledgeRequest.successor, statusEventChecks, countKind_append, acknowledgements,
        resolutions]

theorem resolveNow_accepted (status : current.status = .acknowledged) :
    prepareResolution current (resolveNow current) =
      .ok ⟨exactly current, (resolveNow current).successor current, true⟩ := by
  have text : IsText "done" maxSummaryLength true := by decide
  have follows := metadata_successor valid generation
    ((resolveNow current).successor current).toObjectMetadata rfl
  obtain ⟨acknowledgements, resolutions⟩ := valid.told.acknowledged status
  have acknowledged := valid.acknowledgement
  have started := started_le_updated valid
  refine prepareResolution_ok.mpr ⟨based_exactly valid operator_isRef, ⟨status, text,
    evidenceSet_nil, nofun⟩, generation, ⟨follows.validNext, { valid.observed with },
      valid.observedBy, valid.few, valid.evidence, valid.runbook, ?_, ?_⟩, follows, rfl⟩
  · simp only [ResolveRequest.successor, resolveNow]
    rw [status] at acknowledged
    cases held : current.acknowledgement with
    | none => simp [held, validateAcknowledgement] at acknowledged
    | some acknowledgement =>
        rw [held] at acknowledged
        exact acknowledged
  · refine valid.told.append rfl rfl room rfl valid.told.entries ?_ ?_
    · refine ⟨⟨valid.metadata.updated, started, le_refl _⟩, text.of_required,
        Nat.zero_le _, evidenceSet_nil, ?_, fun _ => operator_isRef⟩
      simp [entryKindChecks, resolveNow]
    · simp [ResolveRequest.successor, statusEventChecks, countKind_append, acknowledgements,
        resolutions]

end Accepted

/-! ## When an incident can be resolved -/

/-- Some requests lead to the resolution. -/
def Resolvable (i : Incident) : Prop :=
  ∃ ops, (incidentMachine.exec i ops).status = .resolved

/-- There is room for the entries and the generations that the resolution needs. -/
def HasRoom (i : Incident) : Prop :=
  i.timeline.length + i.status.remaining ≤ maxTimelineEntries ∧
    i.generation.toNat + i.status.remaining ≤ maxGeneration.toNat

instance (i : Incident) : Decidable (HasRoom i) := inferInstanceAs (Decidable (_ ∧ _))

theorem generation_ne_max (below : i.generation.toNat < maxGeneration.toNat) :
    i.generation ≠ maxGeneration := by
  intro same
  rw [same] at below
  exact absurd below (lt_irrefl _)

theorem next_accepted (op : IncidentOp) (accepted : prepare current op = .ok mutation) :
    incidentMachine.next current op = mutation.next := by
  simp only [Machine.next, incidentMachine, accepted]

/-- A run that ends with the resolution had room for it. -/
theorem hasRoom_of_resolvable (valid : i.Valid) (resolvable : Resolvable i) : HasRoom i := by
  obtain ⟨ops, resolved⟩ := resolvable
  obtain ⟨_, _, _, entries, generation⟩ := exec_continues i ops
  have ended : (incidentMachine.exec i ops).status.remaining = 0 := by
    rw [resolved]
    rfl
  have below := (incidentMachine.exec i ops).generation.toNat_lt
  have top : maxGeneration.toNat = 18446744073709551615 := rfl
  rw [ended] at entries generation
  exact ⟨entries.trans (exec_valid valid ops).told.bounded, by omega⟩

theorem resolvable_of_acknowledged (valid : i.Valid) (status : i.status = .acknowledged)
    (room : HasRoom i) : Resolvable i := by
  simp only [HasRoom, status, Status.remaining] at room
  have accepted := resolveNow_accepted valid room.1 (generation_ne_max room.2) status
  refine ⟨[.resolve (resolveNow i)], ?_⟩
  rw [Machine.exec_cons, next_accepted (.resolve (resolveNow i)) accepted]
  rfl

theorem resolvable_of_opened (valid : i.Valid) (status : i.status = .opened) (room : HasRoom i) :
    Resolvable i := by
  obtain ⟨entries, generation⟩ := room
  simp only [status, Status.remaining] at entries generation
  have accepted : prepare i (.acknowledge (acknowledgeNow i)) =
      .ok ⟨exactly i, (acknowledgeNow i).successor i, true⟩ :=
    acknowledgeNow_accepted valid (by omega) (generation_ne_max (by omega)) status
  have next := next_accepted _ accepted
  have valid' := (prepare_moves accepted).1.valid
  have room' : HasRoom ((acknowledgeNow i).successor i) := by
    have count := toNat_succ_of_ne_max (generation_ne_max (i := i) (by omega))
    constructor
    · simp only [AcknowledgeRequest.successor, Status.remaining, List.length_append,
        List.length_singleton]
      omega
    · simp only [AcknowledgeRequest.successor, Status.remaining, count]
      omega
  obtain ⟨ops, resolved⟩ := resolvable_of_acknowledged valid' rfl room'
  refine ⟨.acknowledge (acknowledgeNow i) :: ops, ?_⟩
  rw [Machine.exec_cons, next]
  exact resolved

/-- **An incident can be resolved exactly while there is room for it.** -/
theorem resolvable_iff (valid : i.Valid) : Resolvable i ↔ HasRoom i := by
  refine ⟨hasRoom_of_resolvable valid, fun room => ?_⟩
  cases status : i.status with
  | resolved => exact ⟨[], status⟩
  | acknowledged => exact resolvable_of_acknowledged valid status room
  | opened => exact resolvable_of_opened valid status room

/-! ## The lifecycle -/

/-- **The lifecycle of an incident.** From every valid incident, over every run of
requests: the timeline and the evidence only grow at their ends, no two references share
kind and id, the status moves from open to acknowledged to resolved, and the generation
counts its moves. At the end the incident can still be resolved exactly while there is room
for the entries and the generations that takes. -/
theorem incident_lifecycle_iff (start : Incident) (valid : start.validate = .ok ())
    (ops : List IncidentOp) :
    let final := incidentMachine.exec start ops
    (∀ earlier later, ops = earlier ++ later →
      (incidentMachine.exec start earlier).timeline <+: final.timeline ∧
        (incidentMachine.exec start earlier).evidence <+: final.evidence) ∧
      (final.evidence.map fun ref => (ref.kind, ref.id)).Nodup ∧
      (∀ event ∈ incidentMachine.trace start ops,
        StatusMoves event.before.status event.after.status) ∧
      final.generation.toNat = start.generation.toNat + statusChanges start ops ∧
      (Resolvable final ↔ HasRoom final) := by
  have validStart := Incident.validate_ok.mp valid
  have validFinal := exec_valid validStart ops
  refine ⟨?_, ?_, ?_, exec_generation start ops, resolvable_iff validFinal⟩
  · rintro earlier later rfl
    rw [Machine.exec_append]
    have continues := exec_continues (incidentMachine.exec start earlier) later
    exact ⟨continues.timeline, continues.evidence⟩
  · have keys := (evidenceSet_iff.mp validFinal.evidence).2
    refine List.Nodup.of_map (fun pair : String × String => pair.1 ++ "\x00" ++ pair.2) ?_
    rw [List.map_map]
    exact keys
  · intro event member
    obtain ⟨earlier, op, later, rfl, rfl⟩ := Machine.mem_trace.mp member
    exact next_status _ op

/-! ## A timeline without room -/

/-- An open incident whose timeline has this many notes. -/
def notedIncident (notes : Nat) : Incident where
  objectID := "incident-1"
  scopeID := "site-1"
  ownerScope := "site-1"
  generation := 1
  resourceVersion := "v1"
  createdAt := 10
  updatedAt := 20
  severity := .warning
  status := .opened
  title := "disk full"
  startedAt := 10
  lastObservedAt := 10
  affectedResources := [⟨"server", "db-1", "site-1"⟩]
  signals := [⟨"signal-1", "disk", "agent", 10, "disk full", []⟩]
  timeline := ⟨.opened, 10, "", "", []⟩ ::
    List.replicate notes ⟨.note, 20, "operator", "checked", []⟩
  runbook := none
  acknowledgement := none
  evidence := []

/-- A note that names a runbook. -/
def runbookNote : IncidentOp :=
  .updateEvidence ⟨⟨"incident-1", "v1", none⟩, "operator", 30, "v2",
    some ⟨"disk-cleanup", "r1"⟩, [], "runbook attached"⟩

theorem incident_lifecycle_noted :
    (notedIncident 2).validate = .ok () ∧
      Resolvable (incidentMachine.exec (notedIncident 2) [runbookNote]) :=
  ⟨by decide +kernel,
    (incident_lifecycle_iff (notedIncident 2) (by decide +kernel) [runbookNote]).2.2.2.2.mpr
      (by decide +kernel)⟩

/-- The last note of a long timeline is accepted, and takes the entry that the resolution
would need. -/
theorem notes_use_up_the_timeline :
    let current := notedIncident 253
    let next := incidentMachine.next current runbookNote
    current.validate = .ok () ∧ current.status = .opened ∧ Resolvable current ∧
      incidentMachine.answer current runbookNote = .ok () ∧ next.status = .opened ∧
      next.generation < maxGeneration ∧ ¬ Resolvable next := by
  have valid : (notedIncident 253).validate = .ok () := by decide +kernel
  have facts : (match prepare (notedIncident 253) runbookNote with
      | .error _ => false
      | .ok mutation => decide (mutation.next.status = .opened ∧
          mutation.next.generation < maxGeneration ∧ ¬ HasRoom mutation.next)) = true := by
    decide +kernel
  have room : HasRoom (notedIncident 253) := by decide +kernel
  split at facts
  · cases facts
  · next mutation accepted =>
      obtain ⟨status, generation, full⟩ := of_decide_eq_true facts
      have next := next_accepted runbookNote accepted
      have answer : incidentMachine.answer (notedIncident 253) runbookNote = .ok () := by
        simp only [Machine.answer, incidentMachine, accepted]
      have valid' := (prepare_moves accepted).1.valid
      dsimp only
      rw [next]
      exact ⟨valid, rfl, (resolvable_iff (Incident.validate_ok.mp valid)).mpr room, answer, status,
        generation, fun resolvable => full (hasRoom_of_resolvable valid' resolvable)⟩

end ControlCenter.Incidents
