import ControlCenter.CoreContracts.Metadata
import ControlCenter.Library.Best
import ControlCenter.Library.Checks

/-!
# Synchronisation of site state

`internal/sitesync/state.go`: desired state is written globally and flows to the sites, actual
state is written at a site and flows back. A receiver stores one record per resource and kind
and reconciles it with each record that arrives. A newer generation replaces the stored record,
an older one is stale, and another record of the same generation is a conflict; in the last two
cases the caller keeps what it has (`deliver`).

One delivery of a record that belongs to the stored one keeps the newer of the two
(`deliver_eq`). So when equal generations mean equal records, any sequence of deliveries ends
with the newest record, in whatever order and however often the records arrive; and in any case
no generation is lost and no conflict overwrites (`deliver_converges`).
-/

set_option autoImplicit false

namespace ControlCenter.SiteSync

open Library CoreContracts

/-! ## Model -/

inductive StateError where
  | invalidRecord (detail : String)
  | wrongAuthority (detail : Option String)
  | staleGeneration
  | stateConflict (siteID resourceID : String) (generation : UInt64)
  deriving DecidableEq

inductive StateKind where
  | desired
  | actual
  | other (text : String)
  deriving DecidableEq

inductive Authority where
  | global
  | site
  | other (text : String)
  deriving DecidableEq

structure Record where
  siteID : String
  resourceID : String
  kind : StateKind
  authority : Authority
  generation : UInt64
  resourceVersion : String
  payloadHash : String
  deriving DecidableEq

def validateCanonicalToken (field value : String) : List (Bool × StateError) :=
  [(value == "" || trimSpace value != value,
      .invalidRecord (field ++ " is required and must not have surrounding whitespace")),
    (value.toList.any fun r => isSpace r || isControl r,
      .invalidRecord (field ++ " contains whitespace or control characters"))]

/-- The source goes over the four tokens in the order of a map. -/
def Record.tokenChecks (r : Record) : List (Bool × StateError) :=
  validateCanonicalToken "site_id" r.siteID ++
  validateCanonicalToken "resource_id" r.resourceID ++
  validateCanonicalToken "resource_version" r.resourceVersion ++
  validateCanonicalToken "payload_hash" r.payloadHash

def Record.validate (r : Record) : Except StateError Unit := do
  firstFailure (r.tokenChecks ++ [(r.generation == 0, .invalidRecord "generation is required")])
  match r.kind with
  | .desired =>
      if r.authority ≠ .global then
        .error (.wrongAuthority "desired state must originate globally")
      else .ok ()
  | .actual =>
      if r.authority ≠ .site then
        .error (.wrongAuthority "actual state must originate at the site")
      else .ok ()
  | .other text => .error (.invalidRecord ("unknown kind " ++ quoted text))

/-- The record to store, and whether it is a new one. -/
def reconcile (current incoming : Record) : Except StateError (Record × Bool) := do
  current.validate
  incoming.validate
  if current.siteID ≠ incoming.siteID ∨ current.resourceID ≠ incoming.resourceID ∨
      current.kind ≠ incoming.kind then
    .error (.invalidRecord "identity mismatch")
  else if current.authority ≠ incoming.authority then .error (.wrongAuthority none)
  else if incoming.generation < current.generation then .error .staleGeneration
  else if incoming.generation = current.generation then
    if incoming.resourceVersion = current.resourceVersion ∧
        incoming.payloadHash = current.payloadHash then .ok (current, false)
    else .error (.stateConflict current.siteID current.resourceID current.generation)
  else .ok (incoming, true)

/-- The stored record after a delivery: the caller keeps what it has at an error. -/
def deliver (stored incoming : Record) : Record :=
  match reconcile stored incoming with
  | .ok (next, _) => next
  | .error _ => stored

/-! ## One delivery -/

/-- The records are valid and about the same kind of state of one resource. -/
structure Record.Belongs (r stored : Record) : Prop where
  valid : r.validate = .ok ()
  siteID : r.siteID = stored.siteID
  resourceID : r.resourceID = stored.resourceID
  kind : r.kind = stored.kind

theorem Record.Belongs.trans {a b c : Record} (first : a.Belongs b) (second : c.Belongs b) :
    a.Belongs c where
  valid := first.valid
  siteID := first.siteID.trans second.siteID.symm
  resourceID := first.resourceID.trans second.resourceID.symm
  kind := first.kind.trans second.kind.symm

/-- The kind of a valid record decides who wrote it. -/
theorem Record.authority_of_valid {r : Record} (valid : r.validate = .ok ()) :
    r.kind = .desired ∧ r.authority = .global ∨ r.kind = .actual ∧ r.authority = .site := by
  obtain ⟨-, sided⟩ := except_check_ok.mp valid
  cases kind : r.kind with
  | desired => simpa [kind] using sided
  | actual => simpa [kind] using sided
  | other text => simp [kind] at sided

theorem Record.Belongs.authority {stored incoming : Record} (valid : stored.validate = .ok ())
    (belongs : incoming.Belongs stored) : stored.authority = incoming.authority := by
  have kind := belongs.kind
  rcases authority_of_valid valid with ⟨own, side⟩ | ⟨own, side⟩ <;>
    rcases authority_of_valid belongs.valid with ⟨own', side'⟩ | ⟨own', side'⟩ <;>
      simp_all

/-- A delivery either stores the incoming record, which then is newer, or changes nothing. -/
theorem deliver_cases (stored incoming : Record) :
    deliver stored incoming = stored ∨
      deliver stored incoming = incoming ∧ stored.generation < incoming.generation := by
  rw [deliver]
  split
  · next next new outcome =>
      obtain ⟨-, outcome⟩ := except_check_ok.mp outcome
      obtain ⟨-, outcome⟩ := except_check_ok.mp outcome
      split_ifs at outcome with identity authority stale same equal
      · cases outcome
        exact .inl rfl
      · cases outcome
        have ordered := UInt64.not_lt.mp stale
        exact .inr ⟨rfl, UInt64.lt_of_le_of_ne ordered fun equal => same equal.symm⟩
  · exact .inl rfl

/-- **Among records that belong together, a delivery keeps the newer one.** -/
theorem deliver_eq {stored incoming : Record} (valid : stored.validate = .ok ())
    (belongs : incoming.Belongs stored) :
    deliver stored incoming =
      if stored.generation < incoming.generation then incoming else stored := by
  by_cases newer : stored.generation < incoming.generation
  · have apart : incoming.generation ≠ stored.generation := fun same =>
      UInt64.lt_irrefl _ (same ▸ newer)
    have fresh : ¬ incoming.generation < stored.generation := UInt64.lt_asymm newer
    simp [deliver, reconcile, valid, belongs.valid, belongs.siteID, belongs.resourceID,
      belongs.kind, belongs.authority valid, newer, apart, fresh, bind, Except.bind]
  · rw [if_neg newer]
    rcases deliver_cases stored incoming with kept | ⟨-, replaced⟩
    · exact kept
    · exact absurd replaced newer

/-! ## Deliveries -/

/-- The first record is the newer one. -/
def newer (a b : Record) : Bool := decide (b.generation < a.generation)

theorem newer_irrefl (a : Record) : newer a a = false := by simp [newer]

theorem newer_trans (a b c : Record) (first : newer a b = true) (second : newer b c = true) :
    newer a c = true := by
  simp only [newer, decide_eq_true_eq] at *
  exact UInt64.lt_trans second first

/-- A sequence of deliveries keeps the best record by age. -/
theorem foldl_deliver {stored : Record} : ∀ {records : List Record} {current : Record},
    current.Belongs stored → (∀ r ∈ records, r.Belongs stored) →
      some (records.foldl deliver current) = records.foldl (pick newer) (some current) := by
  intro records
  induction records with
  | nil => exact fun _ _ => rfl
  | cons r records ih =>
      intro current own belong
      obtain ⟨first, rest⟩ := List.forall_mem_cons.mp belong
      have step : pick newer (some current) r = some (deliver current r) := by
        rw [deliver_eq own.valid (first.trans own), pick]
        split_ifs with better kept kept <;> simp_all [newer]
      have next : (deliver current r).Belongs stored := by
        rcases deliver_cases current r with kept | ⟨replaced, -⟩
        · rwa [kept]
        · rwa [replaced]
      rw [List.foldl_cons, List.foldl_cons, step, ih next rest]

theorem foldl_deliver_newest {stored : Record} {records : List Record}
    (valid : stored.validate = .ok ()) (belong : ∀ r ∈ records, r.Belongs stored) :
    records.foldl deliver stored ∈ stored :: records ∧
      ∀ r ∈ stored :: records, r.generation ≤ (records.foldl deliver stored).generation := by
  have start : Best newer (some stored) [stored] := by
    refine ⟨nofun, ?_, ?_⟩
    · rintro _ ⟨⟩
      exact List.mem_singleton_self stored
    · rintro _ ⟨⟩ other listed
      rw [List.mem_singleton.mp listed]
      exact newer_irrefl stored
  have best := start.foldl newer_irrefl newer_trans records
  rw [← foldl_deliver ⟨valid, rfl, rfl, rfl⟩ belong] at best
  refine ⟨best.listed _ rfl, fun r listed => ?_⟩
  have held := best.best _ rfl r listed
  simpa [newer] using held

/-- What a sequence of deliveries does to the stored generation. -/
theorem generation_le_foldl_deliver {records : List Record} : ∀ {stored : Record},
    stored.generation ≤ (records.foldl deliver stored).generation := by
  induction records with
  | nil => exact fun {_} => UInt64.le_refl _
  | cons r records ih =>
      intro stored
      refine UInt64.le_trans ?_ ih
      rcases deliver_cases stored r with kept | ⟨replaced, newer⟩
      · rw [kept]
        exact UInt64.le_refl _
      · rw [replaced]
        exact UInt64.le_of_lt newer

/-- **Deliveries converge.** When the records and the stored one belong together and equal
generations mean equal records, every sequence of deliveries of just these records, in any order and
with repetitions, ends with the one newest record. Without that, the stored generation never
sinks, and a different record of the stored generation does not replace the stored one. -/
theorem deliver_converges (stored : Record) (incoming : List Record)
    (valid : stored.validate = .ok ()) (belong : ∀ r ∈ incoming, r.Belongs stored) :
    ((∀ a ∈ stored :: incoming, ∀ b ∈ stored :: incoming, a.generation = b.generation → a = b) →
      ∀ deliveries : List Record, (∀ r, r ∈ deliveries ↔ r ∈ incoming) →
        deliveries.foldl deliver stored ∈ stored :: incoming ∧
        ∀ r ∈ stored :: incoming, r ≠ deliveries.foldl deliver stored →
          r.generation < (deliveries.foldl deliver stored).generation) ∧
    (∀ before after, incoming = before ++ after →
      (before.foldl deliver stored).generation ≤ (incoming.foldl deliver stored).generation) ∧
    ∀ before r after, incoming = before ++ r :: after →
      r.generation = (before.foldl deliver stored).generation →
      r ≠ before.foldl deliver stored →
        deliver (before.foldl deliver stored) r = before.foldl deliver stored := by
  refine ⟨fun agree deliveries same => ?_, fun before after split => ?_,
    fun before r after _ level _ => ?_⟩
  · obtain ⟨listed, newest⟩ := foldl_deliver_newest valid fun r delivered =>
      belong r ((same r).mp delivered)
    have inside : ∀ r, r ∈ stored :: deliveries ↔ r ∈ stored :: incoming := by
      simp [same]
    have listed' := (inside _).mp listed
    refine ⟨listed', fun r known other => ?_⟩
    exact UInt64.lt_of_le_of_ne (newest r ((inside r).mpr known)) fun level =>
      other (agree r known _ listed' level)
  · rw [split, List.foldl_append]
    exact generation_le_foldl_deliver
  · rcases deliver_cases (before.foldl deliver stored) r with kept | ⟨-, newer⟩
    · exact kept
    · rw [level] at newer
      exact absurd newer (UInt64.lt_irrefl _)

/-- Two records that arrive newest first. -/
theorem deliver_converges_reversed :
    let record (generation : UInt64) : Record :=
      ⟨"site", "node", .desired, .global, generation, "v", "hash"⟩
    [record 3, record 2].foldl deliver (record 1) = record 3 := by
  intro record
  have belong : ∀ r ∈ [record 3, record 2], r.Belongs (record 1) := by
    intro r listed
    rcases List.mem_pair.mp listed with rfl | rfl <;> exact ⟨by decide, rfl, rfl, rfl⟩
  obtain ⟨converges, -⟩ := deliver_converges (record 1) [record 3, record 2] (by decide) belong
  obtain ⟨-, newest⟩ := converges (by decide) [record 3, record 2] fun r => Iff.rfl
  by_contra other
  have above := newest (record 3) (by simp) fun same => other same.symm
  revert above
  decide

end ControlCenter.SiteSync
