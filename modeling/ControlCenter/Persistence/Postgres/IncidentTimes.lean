import ControlCenter.Incidents.Mutation
import ControlCenter.Persistence.Postgres.Jobs

/-!
# Incidents at storage precision

`canonicalizeIncidentTimes` of `internal/persistence/postgres/incidents.go` truncates every
instant of an incident on its own. The validator compares instants with each other: the first
entry of the timeline is at the start, the newest signal is the last observation, the
acknowledgement is its entry, and everything lies inside the lifetime of the incident.
Truncation is monotone, so every comparison survives it.

What does not survive is an instant in the first microsecond after the zero time: it becomes
the zero time, which the validator takes as unset. This is the only case
(`canonicalizeIncidentTimes_valid`), for a stored incident and for each successor of it
(`storage_precision`).
-/

set_option autoImplicit false

namespace ControlCenter.Postgres.IncidentStore

open Library CoreContracts Incidents

/-! ## Model -/

def postgresTime (t : Time) : Time := Time.truncateMicrosecond t

/-- A reference with its instant truncated. -/
def canonicalRef (ref : EvidenceRef) : EvidenceRef :=
  { ref with collected := postgresTime ref.collected }

def canonicalSignal (signal : Signal) : Signal :=
  { signal with
    observedAt := postgresTime signal.observedAt
    evidence := signal.evidence.map canonicalRef }

def canonicalEntry (entry : TimelineEntry) : TimelineEntry :=
  { entry with
    occurredAt := postgresTime entry.occurredAt
    evidence := entry.evidence.map canonicalRef }

def canonicalAcknowledgement (acknowledgement : Acknowledgement) : Acknowledgement :=
  { acknowledgement with occurredAt := postgresTime acknowledgement.occurredAt }

def canonicalizeIncidentTimes (i : Incident) : Incident :=
  { i with
    createdAt := postgresTime i.createdAt
    updatedAt := postgresTime i.updatedAt
    startedAt := postgresTime i.startedAt
    lastObservedAt := postgresTime i.lastObservedAt
    acknowledgement := i.acknowledgement.map canonicalAcknowledgement
    signals := i.signals.map canonicalSignal
    timeline := i.timeline.map canonicalEntry
    evidence := i.evidence.map canonicalRef }

/-- The instants of the document. -/
def instants (i : Incident) : List Time :=
  [i.createdAt, i.updatedAt, i.startedAt, i.lastObservedAt] ++
    i.acknowledgement.toList.map Acknowledgement.occurredAt ++
    i.signals.map Signal.observedAt ++
    i.timeline.map TimelineEntry.occurredAt ++
    (i.signals.flatMap Signal.evidence ++ i.timeline.flatMap TimelineEntry.evidence ++
      i.evidence).map EvidenceRef.collected

/-! ## Truncation -/

theorem canonicalRef_idem (ref : EvidenceRef) :
    canonicalRef (canonicalRef ref) = canonicalRef ref := by
  simp [canonicalRef, postgresTime, Time.truncateMicrosecond_idem]

theorem postgresTime_mono {s t : Time} (before : s ≤ t) : postgresTime s ≤ postgresTime t := by
  have floor : ∀ m n : Int, m ≤ n → m - m % 1000 ≤ n - n % 1000 := by
    intro m n
    omega
  exact floor s t before

theorem postgresTime_max (s t : Time) :
    postgresTime (max s t) = max (postgresTime s) (postgresTime t) := by
  rcases le_total s t with before | before
  · rw [max_eq_right before, max_eq_right (postgresTime_mono before)]
  · rw [max_eq_left before, max_eq_left (postgresTime_mono before)]

theorem map_idem {α : Type} {f : α → α} (idem : ∀ a, f (f a) = f a) (list : List α) :
    (list.map f).map f = list.map f := by
  rw [List.map_map]
  exact List.map_congr_left fun a _ => idem a

theorem canonicalizeIncidentTimes_idem (i : Incident) :
    canonicalizeIncidentTimes (canonicalizeIncidentTimes i) = canonicalizeIncidentTimes i := by
  have signal : ∀ s, canonicalSignal (canonicalSignal s) = canonicalSignal s := by
    intro s
    simp only [canonicalSignal, postgresTime, Time.truncateMicrosecond_idem,
      map_idem canonicalRef_idem]
  have entry : ∀ e, canonicalEntry (canonicalEntry e) = canonicalEntry e := by
    intro e
    simp only [canonicalEntry, postgresTime, Time.truncateMicrosecond_idem,
      map_idem canonicalRef_idem]
  have acknowledgement : (i.acknowledgement.map canonicalAcknowledgement).map
      canonicalAcknowledgement = i.acknowledgement.map canonicalAcknowledgement := by
    cases i.acknowledgement <;>
      simp [canonicalAcknowledgement, postgresTime, Time.truncateMicrosecond_idem]
  simp only [canonicalizeIncidentTimes, postgresTime, Time.truncateMicrosecond_idem,
    map_idem canonicalRef_idem, map_idem signal, map_idem entry, acknowledgement]

/-! ## The parts of an incident -/

theorem evidenceSet_canonical {evidence : List EvidenceRef} (set : EvidenceSet evidence) :
    EvidenceSet (evidence.map canonicalRef) ↔
      ∀ ref ∈ evidence, postgresTime ref.collected ≠ 0 := by
  rw [evidenceSet_iff] at set
  obtain ⟨each, distinct⟩ := set
  simp only [evidenceSet_iff, List.forall_mem_map, List.map_map]
  constructor
  · rintro ⟨valid, _⟩ ref listed
    exact (valid ref listed).2.2.1
  · intro dated
    refine ⟨fun ref listed => ?_, distinct⟩
    obtain ⟨kind, id, _, digest⟩ := each ref listed
    exact ⟨kind, id, dated ref listed, digest⟩

theorem signal_canonical {startedAt lastObservedAt : Time} {signal : Signal}
    (valid : signal.Valid startedAt lastObservedAt) :
    (canonicalSignal signal).Valid (postgresTime startedAt) (postgresTime lastObservedAt) ↔
      postgresTime signal.observedAt ≠ 0 ∧
        ∀ ref ∈ signal.evidence, postgresTime ref.collected ≠ 0 := by
  rw [← evidenceSet_canonical valid.evidence]
  constructor
  · intro truncated
    exact ⟨truncated.dated.1, truncated.evidence⟩
  · rintro ⟨set, evidence⟩
    have bounded : (canonicalSignal signal).evidence.length ≤ maxEvidenceRefs := by
      simpa [canonicalSignal] using valid.bounded
    exact ⟨valid.id, valid.kind, valid.source, ⟨set, postgresTime_mono valid.dated.2.1,
      postgresTime_mono valid.dated.2.2⟩, valid.summary, bounded, evidence⟩

/-- The newest of the truncated instants is the newest one, truncated. -/
theorem newestSignal_canonical (startedAt : Time) (signals : List Signal) :
    newestSignal (postgresTime startedAt) (signals.map canonicalSignal) =
      postgresTime (newestSignal startedAt signals) := by
  have later : ∀ s t : Time, (if s < t then t else s) = max s t := by
    intro s t
    rcases lt_or_ge s t with before | before
    · rw [if_pos before, max_eq_right before.le]
    · rw [if_neg before.not_gt, max_eq_left before]
  simp only [newestSignal, later]
  induction signals generalizing startedAt with
  | nil => rfl
  | cons signal rest ih =>
      rw [List.map_cons, List.foldl_cons, List.foldl_cons, ← ih, postgresTime_max]
      rfl

theorem signals_canonical {startedAt lastObservedAt : Time} {signals : List Signal}
    (valid : Passes (validateSignals signals startedAt lastObservedAt)) :
    Passes (validateSignals (signals.map canonicalSignal) (postgresTime startedAt)
        (postgresTime lastObservedAt)) ↔
      ∀ signal ∈ signals, postgresTime signal.observedAt ≠ 0 ∧
        ∀ ref ∈ signal.evidence, postgresTime ref.collected ≠ 0 := by
  have ids : (signals.map canonicalSignal).map Signal.id = signals.map Signal.id := by
    rw [List.map_map]
    rfl
  simp only [validateSignals, passes_append, passes_signalChecks, passes_cons, passes_nil,
    and_true, bne_eq_false_iff_eq] at valid ⊢
  obtain ⟨⟨each, distinct, _⟩, newest⟩ := valid
  rw [newestSignal_canonical, newest, ids]
  simp only [List.forall_mem_map, distinct, List.not_mem_nil, not_false_eq_true, implies_true,
    and_true]
  exact forall₂_congr fun signal listed => signal_canonical (each signal listed)

theorem acknowledgement_canonical {status : Status} {acknowledgement : Option Acknowledgement}
    {startedAt updatedAt : Time}
    (valid : Passes (validateAcknowledgement status acknowledgement startedAt updatedAt)) :
    Passes (validateAcknowledgement status (acknowledgement.map canonicalAcknowledgement)
        (postgresTime startedAt) (postgresTime updatedAt)) ↔
      ∀ given ∈ acknowledgement, postgresTime given.occurredAt ≠ 0 := by
  cases acknowledgement with
  | none => cases status <;> simp_all [validateAcknowledgement]
  | some given =>
      cases status with
      | opened => simp [validateAcknowledgement] at valid
      | acknowledged | resolved =>
          simp only [validateAcknowledgement, Option.map_some, canonicalAcknowledgement,
            passes_relabel, passes_append, passes_cons, passes_nil, and_true, passes_validateRef,
            Bool.or_eq_false_iff, Time.isZero, beq_eq_false_iff_ne, decide_eq_false_iff_not,
            not_lt, Option.mem_some_iff, forall_eq'] at valid ⊢
          obtain ⟨actor, ⟨_, started⟩, updated⟩ := valid
          simp only [actor, postgresTime_mono started, postgresTime_mono updated, and_true,
            true_and]

theorem entry_canonical {startedAt updatedAt : Time} {acknowledgement : Option Acknowledgement}
    {entry : TimelineEntry} (valid : entry.Valid startedAt updatedAt acknowledgement) :
    (canonicalEntry entry).Valid (postgresTime startedAt) (postgresTime updatedAt)
        (acknowledgement.map canonicalAcknowledgement) ↔
      postgresTime entry.occurredAt ≠ 0 ∧
        ∀ ref ∈ entry.evidence, postgresTime ref.collected ≠ 0 := by
  rw [← evidenceSet_canonical valid.evidence]
  constructor
  · intro truncated
    exact ⟨truncated.dated.1, truncated.evidence⟩
  · rintro ⟨set, evidence⟩
    have bounded : (canonicalEntry entry).evidence.length ≤ maxEvidenceRefs := by
      simpa [canonicalEntry] using valid.bounded
    have kind : Passes (entryKindChecks (acknowledgement.map canonicalAcknowledgement)
        (canonicalEntry entry)) := by
      have asked := valid.kind
      obtain ⟨kind, occurredAt, actorID, summary, refs⟩ := entry
      cases kind with
      | acknowledged =>
          simp only [entryKindChecks, canonicalEntry, passes_cons, passes_nil, and_true,
            bne_eq_false_iff_eq] at asked ⊢
          rw [asked]
          rfl
      | opened | signalObserved | resolved | note => exact asked
    exact ⟨⟨set, postgresTime_mono valid.dated.2.1, postgresTime_mono valid.dated.2.2⟩,
      valid.summary, bounded, evidence, kind, valid.actor⟩

theorem told_canonical {i : Incident} (told : i.Told) :
    (canonicalizeIncidentTimes i).Told ↔
      ∀ entry ∈ i.timeline, postgresTime entry.occurredAt ≠ 0 ∧
        ∀ ref ∈ entry.evidence, postgresTime ref.collected ≠ 0 := by
  constructor
  · intro truncated entry listed
    exact (entry_canonical (told.entries entry listed)).mp
      (truncated.entries (canonicalEntry entry) (List.mem_map_of_mem listed))
  · intro dated
    refine ⟨?_, ?_, ?_, ?_, ?_⟩
    · simpa [canonicalizeIncidentTimes] using told.bounded
    · have opens := told.opens
      simp only [canonicalizeIncidentTimes, List.head?_map, Option.map_map] at opens ⊢
      cases first : i.timeline.head? with
      | none => simp [first] at opens
      | some entry =>
          simp only [first, Option.map_some, Option.some.injEq, Prod.mk.injEq] at opens
          simp [canonicalEntry, opens]
    · intro entry listed
      obtain ⟨source, member, rfl⟩ := List.mem_map.mp listed
      exact (entry_canonical (told.entries source member)).mpr (dated source member)
    · have sorted := told.sorted
      simp only [canonicalizeIncidentTimes, List.map_map, List.pairwise_map] at sorted ⊢
      exact sorted.imp fun before => postgresTime_mono before
    · have events := told.events
      unfold statusEventChecks countKind at events ⊢
      simpa [canonicalizeIncidentTimes, canonicalEntry, List.countP_map, List.getLast?_map,
        Option.map_map, Function.comp_def] using events

/-! ## The whole incident -/

theorem forall_instants {i : Incident} {P : Time → Prop} :
    (∀ t ∈ instants i, P t) ↔
      (P i.createdAt ∧ P i.updatedAt ∧ P i.startedAt ∧ P i.lastObservedAt) ∧
        (∀ given ∈ i.acknowledgement, P given.occurredAt) ∧
        (∀ signal ∈ i.signals, P signal.observedAt ∧ ∀ ref ∈ signal.evidence, P ref.collected) ∧
        (∀ entry ∈ i.timeline, P entry.occurredAt ∧ ∀ ref ∈ entry.evidence, P ref.collected) ∧
        ∀ ref ∈ i.evidence, P ref.collected := by
  simp only [instants, List.forall_mem_cons, List.forall_mem_map,
    List.mem_append, List.mem_flatMap, Option.mem_toList, or_imp, forall_and, forall_exists_index,
    and_imp, List.not_mem_nil, false_imp_iff, implies_true, and_true]
  constructor
  · rintro ⟨⟨⟨⟨times, given⟩, observed⟩, occurred⟩, ⟨signals, entries⟩, evidence⟩
    exact ⟨times, given, ⟨observed, fun signal listed ref held => signals ref signal listed held⟩,
      ⟨occurred, fun entry listed ref held => entries ref entry listed held⟩, evidence⟩
  · rintro ⟨times, given, ⟨observed, signals⟩, ⟨occurred, entries⟩, evidence⟩
    exact ⟨⟨⟨⟨times, given⟩, observed⟩, occurred⟩,
      ⟨fun ref signal listed held => signals signal listed ref held,
        fun ref entry listed held => entries entry listed ref held⟩, evidence⟩

/-- **A valid incident stays valid exactly when no instant becomes the zero time.** -/
theorem canonicalizeIncidentTimes_valid {i : Incident} (valid : i.Valid) :
    (canonicalizeIncidentTimes i).Valid ↔ ∀ t ∈ instants i, postgresTime t ≠ 0 := by
  rw [forall_instants]
  constructor
  · intro truncated
    exact ⟨⟨truncated.metadata.created, truncated.metadata.updated, truncated.observed.set⟩,
      (acknowledgement_canonical valid.acknowledgement).mp truncated.acknowledgement,
      (signals_canonical valid.observed.signals.2).mp truncated.observed.signals.2,
      (told_canonical valid.told).mp truncated.told,
      (evidenceSet_canonical valid.evidence).mp truncated.evidence⟩
  · rintro ⟨⟨created, updated, set⟩, given, signals, entries, evidence⟩
    have metadata : (canonicalizeIncidentTimes i).toObjectMetadata.Valid :=
      { valid.metadata with
        created := created
        updated := updated
        ordered := postgresTime_mono valid.metadata.ordered }
    have few : (canonicalizeIncidentTimes i).evidence.length ≤ maxEvidenceRefs := by
      simpa [canonicalizeIncidentTimes] using valid.few
    have count : sizeCheck (canonicalizeIncidentTimes i).signals maxSignals = false := by
      simpa [canonicalizeIncidentTimes, sizeCheck] using valid.observed.signals.1
    have observed : (canonicalizeIncidentTimes i).Observed :=
      ⟨valid.observed.title, set, postgresTime_mono valid.observed.ordered,
        postgresTime_mono valid.observed.created, valid.observed.resources, count,
        (signals_canonical valid.observed.signals.2).mpr signals⟩
    exact ⟨metadata, observed, postgresTime_mono valid.observedBy, few,
      (evidenceSet_canonical valid.evidence).mpr evidence, valid.runbook,
      (acknowledgement_canonical valid.acknowledgement).mpr given,
      (told_canonical valid.told).mpr entries⟩

/-- The instants of a valid incident are set. -/
theorem instants_set {i : Incident} (valid : i.Valid) : ∀ t ∈ instants i, t ≠ 0 := by
  rw [forall_instants]
  obtain ⟨each, _⟩ := evidenceSet_iff.mp valid.evidence
  refine ⟨⟨valid.metadata.created, valid.metadata.updated, valid.observed.set⟩, ?_, ?_, ?_,
    fun ref listed => (each ref listed).2.2.1⟩
  · intro given held
    have checked := valid.acknowledgement
    rw [Option.mem_def.mp held] at checked
    cases status : i.status <;>
      simp_all [validateAcknowledgement, Time.isZero]
  · intro signal listed
    have checked := valid.observed.signals.2
    rw [validateSignals, passes_append, passes_signalChecks] at checked
    have signalValid := checked.1.1 signal listed
    exact ⟨signalValid.dated.1, fun ref held =>
      ((evidenceSet_iff.mp signalValid.evidence).1 ref held).2.2.1⟩
  · intro entry listed
    have entryValid := valid.told.entries entry listed
    exact ⟨entryValid.dated.1, fun ref held =>
      ((evidenceSet_iff.mp entryValid.evidence).1 ref held).2.2.1⟩

/-! ## Successors -/

theorem prepare_ok {current : Incident} {op : IncidentOp} {mutation : PreparedMutation}
    (accepted : prepare current op = .ok mutation) :
    mutation.next.Valid ∧
      IsSuccessor current.toObjectMetadata mutation.next.toObjectMetadata
        mutation.desiredChanged := by
  cases op with
  | acknowledge request =>
      obtain ⟨_, _, _, valid, follows, rfl⟩ := prepareAcknowledgement_ok.mp accepted
      exact ⟨valid, follows⟩
  | resolve request =>
      obtain ⟨_, _, _, valid, follows, rfl⟩ := prepareResolution_ok.mp accepted
      exact ⟨valid, follows⟩
  | updateEvidence request =>
      obtain ⟨_, _, _, _, _, _, valid, follows, rfl⟩ := prepareEvidenceUpdate_ok.mp accepted
      exact ⟨valid, follows⟩

/-- A truncated successor of a stored envelope follows it. -/
theorem IsSuccessor.canonical {current next : Incident} {desiredChanged : Bool}
    (stored : postgresTime current.createdAt = current.createdAt ∧
      postgresTime current.updatedAt = current.updatedAt)
    (follows : IsSuccessor current.toObjectMetadata next.toObjectMetadata desiredChanged)
    (valid : (canonicalizeIncidentTimes next).toObjectMetadata.Valid) :
    IsSuccessor current.toObjectMetadata (canonicalizeIncidentTimes next).toObjectMetadata
      desiredChanged := by
  have createdAt : postgresTime next.createdAt = current.createdAt := by
    rw [follows.createdAt, stored.1]
  have updatedAt : current.updatedAt ≤ postgresTime next.updatedAt := by
    have later := postgresTime_mono follows.updatedAt
    rwa [stored.2] at later
  exact { follows with
    validNext := valid
    createdAt := createdAt
    updatedAt := updatedAt }

/-- The instant lies in the first microsecond after the zero time. -/
def FirstMicrosecond (t : Time) : Prop := 0 < t ∧ t < 1000

instance : DecidablePred FirstMicrosecond := fun t => inferInstanceAs (Decidable (0 < t ∧ t < 1000))

theorem canonicalizeIncidentTimes_valid_iff {i : Incident} (valid : i.Valid) :
    (canonicalizeIncidentTimes i).Valid ↔ ∀ t ∈ instants i, ¬ FirstMicrosecond t := by
  rw [canonicalizeIncidentTimes_valid valid]
  refine forall₂_congr fun t listed => ?_
  have set := instants_set valid t listed
  rw [FirstMicrosecond, ne_eq, postgresTime, Time.truncateMicrosecond_eq_zero, not_iff_not]
  exact and_congr_left fun _ => ⟨fun after => lt_of_le_of_ne after set.symm, le_of_lt⟩

/-- **An incident survives storage precision.**

Truncation keeps a valid incident valid when its times are at or after the Unix epoch, and
truncating twice changes nothing. A stored incident has whole microseconds; the truncated
successor of each request it accepts is valid and follows it, with the same change of the
desired state, exactly when the successor has no instant in the first microsecond after the
zero time. -/
theorem storage_precision :
    (∀ i : Incident, i.validate = .ok () → (∀ t ∈ instants i, unixEpoch ≤ t) →
      (canonicalizeIncidentTimes i).validate = .ok ()) ∧
    (∀ i, canonicalizeIncidentTimes (canonicalizeIncidentTimes i) = canonicalizeIncidentTimes i) ∧
    ∀ (current : Incident) (op : IncidentOp) (mutation : PreparedMutation),
      (∀ t ∈ instants current, postgresTime t = t) → prepare current op = .ok mutation →
        ((canonicalizeIncidentTimes mutation.next).validate = .ok () ∧
          validateSuccessor current.toObjectMetadata
            (canonicalizeIncidentTimes mutation.next).toObjectMetadata mutation.desiredChanged =
              .ok () ↔
          ∀ t ∈ instants mutation.next, ¬ FirstMicrosecond t) := by
  refine ⟨fun i checked recent => ?_, canonicalizeIncidentTimes_idem, ?_⟩
  · have valid := Incident.validate_ok.mp checked
    rw [Incident.validate_ok, canonicalizeIncidentTimes_valid_iff valid]
    intro t listed first
    have epoch : (1000 : Int) ≤ unixEpoch := by decide
    exact absurd first.2 (not_lt.mpr (epoch.trans (recent t listed)))
  · intro current op mutation stored accepted
    obtain ⟨valid, follows⟩ := prepare_ok accepted
    rw [← canonicalizeIncidentTimes_valid_iff valid, Incident.validate_ok, validateSuccessor_ok]
    constructor
    · exact And.left
    · intro truncated
      have times := (forall_instants.mp stored).1
      exact ⟨truncated, IsSuccessor.canonical ⟨times.1, times.2.1⟩ follows truncated.metadata⟩

/-- A log, collected at an instant. -/
def attachedLog (collected : Time) : IncidentOp :=
  .updateEvidence ⟨⟨"incident-1", "v1", none⟩, "operator", 3000000, "v2", none,
    [⟨"log", "log-1", "", collected, .notApplicable⟩], "log attached"⟩

/-- An open incident that starts at an instant. -/
def diskIncidentAt (start : Time) : Incident where
  objectID := "incident-1"
  scopeID := "site-1"
  ownerScope := "site-1"
  generation := 1
  resourceVersion := "v1"
  createdAt := start
  updatedAt := start + 1000000
  severity := .warning
  status := .opened
  title := "disk full"
  startedAt := start
  lastObservedAt := start
  affectedResources := [⟨"server", "db-1", "site-1"⟩]
  signals := [⟨"signal-1", "disk", "agent", start, "disk full", []⟩]
  timeline := [⟨.opened, start, "", "", []⟩]
  runbook := none
  acknowledgement := none
  evidence := []

/-- An open incident, stored at whole microseconds. -/
def diskIncident : Incident := diskIncidentAt 1000000

/-- An incident that starts within a microsecond after the epoch is stored, and so is the
successor of a stored one with a log collected within a microsecond: both are truncated. -/
theorem storage_precision_attachedLog :
    (canonicalizeIncidentTimes (diskIncidentAt (unixEpoch + 500))).validate = .ok () ∧
      ∃ mutation, prepare diskIncident (attachedLog 2500500) = .ok mutation ∧
        (canonicalizeIncidentTimes mutation.next).validate = .ok () ∧
        validateSuccessor diskIncident.toObjectMetadata
          (canonicalizeIncidentTimes mutation.next).toObjectMetadata mutation.desiredChanged =
            .ok () ∧
        canonicalizeIncidentTimes mutation.next ≠ mutation.next := by
  obtain ⟨recent, _, truncated⟩ := storage_precision
  refine ⟨recent _ (by decide +kernel) (by decide +kernel), ?_⟩
  have late : ∀ mutation ∈ (prepare diskIncident (attachedLog 2500500)).toOption,
      (∀ t ∈ instants mutation.next, ¬ FirstMicrosecond t) ∧
        canonicalizeIncidentTimes mutation.next ≠ mutation.next := by
    decide +kernel
  cases prepared : prepare diskIncident (attachedLog 2500500) with
  | error e =>
      have accepted : (prepare diskIncident (attachedLog 2500500)).toOption.isSome := by
        decide +kernel
      rw [prepared] at accepted
      cases accepted
  | ok mutation =>
      rw [prepared] at late
      obtain ⟨dated, changed⟩ := late mutation rfl
      obtain ⟨valid, follows⟩ :=
        (truncated diskIncident _ mutation (by decide +kernel) prepared).mpr dated
      exact ⟨mutation, rfl, valid, follows, changed⟩

/-- A log collected half a microsecond after the zero time. -/
def earlyLog : IncidentOp := attachedLog 500

/-- The log is accepted for a stored incident, and the truncated successor is refused. -/
theorem earlyLog_truncated :
    (∀ t ∈ instants diskIncident, postgresTime t = t) ∧
      (prepare diskIncident earlyLog).toOption.map
          (fun mutation => (canonicalizeIncidentTimes mutation.next).validate) =
        some (.error (.invalidEvidence "evidence[0] collected_at is required")) := by
  decide +kernel

end ControlCenter.Postgres.IncidentStore
