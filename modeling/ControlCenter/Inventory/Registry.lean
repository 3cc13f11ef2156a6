import ControlCenter.Library.Best
import ControlCenter.Library.Checks
import ControlCenter.Library.Grouping
import ControlCenter.Library.Trim
import Mathlib.Data.List.Dedup
import Mathlib.Data.Prod.Lex

/-!
# Reconciling inventory observations

`internal/inventory/reconcile.go` and `state.go`: discovery sources report devices. A batch of
observations becomes one view per device, with the latest observation and all sources that saw
the device, and the registry merges such views into the ones it has.

The latest observation is chosen by comparing times and, at equal times, sources (`later`). Two
observations of one source at one time can differ in the host name, and then neither is later: a
loop keeps the one it met first. So the result of a batch is independent of the order of
its observations exactly when the latest observations of each device agree
(`reconcileObservations_perm_iff`). A batch after another is both together. The other way round
they leave the same rows exactly when the two batches do not start with different latest
observations of a device that tie and replace the one in the registry (`ingest_order`).
-/

set_option autoImplicit false

namespace ControlCenter.Inventory

open Library

/-! ## Model -/

structure DeviceObservation where
  deviceID : String
  source : String
  hostname : String
  seenAt : Time
  deriving DecidableEq

structure ReconciledDevice where
  deviceID : String
  latest : DeviceObservation
  sources : List String
  deriving DecidableEq

/-- What the loop over a batch knows of a device. -/
structure Aggregate where
  latest : DeviceObservation
  sources : List String

def DeviceObservation.trimmed (o : DeviceObservation) : DeviceObservation :=
  { o with deviceID := trimSpace o.deviceID, source := trimSpace o.source }

/-- The tests of an observation that is trimmed. -/
def DeviceObservation.checks (o : DeviceObservation) : List (Bool × String) :=
  [(o.deviceID == "", "device id is required"),
    (o.source == "", "source is required"),
    (Time.isZero o.seenAt, "seen time is required for " ++ quoted o.deviceID)]

/-- The first observation replaces the second one. -/
def later (a b : DeviceObservation) : Bool :=
  decide (b.seenAt < a.seenAt) || (a.seenAt == b.seenAt && decide (a.source < b.source))

/-- One observation of a batch, after what is known of its device. -/
def observe (row : Option Aggregate) (o : DeviceObservation) : Aggregate :=
  let current := row.getD ⟨o, []⟩
  { latest := if later o current.latest then o else current.latest
    sources := current.sources.insert o.source }

def Aggregate.device (id : String) (a : Aggregate) : ReconciledDevice :=
  ⟨id, a.latest, a.sources.insertionSort (· ≤ ·)⟩

/-- One turn of the loop over a batch. -/
def reconcileStep (byID : Table Aggregate) (raw : DeviceObservation) :
    Except String (Table Aggregate) := do
  firstFailure raw.trimmed.checks
  return byID.insert raw.trimmed.deviceID (observe (byID.lookup raw.trimmed.deviceID) raw.trimmed)

def reconcileObservations (observations : List DeviceObservation) :
    Except String (List ReconciledDevice) := do
  let byID ← observations.foldlM reconcileStep ∅
  return byID.listing Aggregate.device

/-- The texts of a set in order. -/
def sortSet (values : List String) : List String := values.dedup.insertionSort (· ≤ ·)

/-- The trimmed texts that are not empty. -/
def cleanStrings (values : List String) : List String :=
  (values.map trimSpace).filter (· ≠ "")

def mergeStrings (left right : List String) : List String := sortSet (cleanStrings (left ++ right))

/-- The row of a device after a view of it arrived. -/
def mergeDevice (row : Option ReconciledDevice) (incoming : ReconciledDevice) :
    ReconciledDevice :=
  match row with
  | none => incoming
  | some current =>
      { current with
        sources := mergeStrings current.sources incoming.sources
        latest := if later incoming.latest current.latest then incoming.latest
          else current.latest }

abbrev MemoryRegistry := Table ReconciledDevice

def MemoryRegistry.list (r : MemoryRegistry) : List ReconciledDevice := r.listing fun _ d => d

/-- The registry after a batch, and the answer. -/
def MemoryRegistry.ingest (r : MemoryRegistry) (observations : List DeviceObservation) :
    Except String (MemoryRegistry × List ReconciledDevice) := do
  let reconciled ← reconcileObservations observations
  let next : MemoryRegistry := r.gather ReconciledDevice.deviceID mergeDevice reconciled
  return (next, next.list)

/-- What a batch leaves in the registry: nothing changes at an error. -/
def MemoryRegistry.after (r : MemoryRegistry) (observations : List DeviceObservation) :
    MemoryRegistry :=
  match r.ingest observations with
  | .ok (next, _) => next
  | .error _ => r

/-! ## The order of observations -/

/-- Later observations, and at one time smaller sources, rank higher. -/
def DeviceObservation.rank (o : DeviceObservation) : Time ×ₗ Stringᵒᵈ :=
  toLex (o.seenAt, OrderDual.toDual o.source)

theorem later_iff {a b : DeviceObservation} : later a b = true ↔ b.rank < a.rank := by
  simp only [later, DeviceObservation.rank, Prod.Lex.toLex_lt_toLex, Bool.or_eq_true,
    Bool.and_eq_true, decide_eq_true_eq, beq_iff_eq, OrderDual.toDual_lt_toDual,
    @eq_comm _ a.seenAt]

theorem later_eq_false_iff {a b : DeviceObservation} : later a b = false ↔ a.rank ≤ b.rank := by
  rw [← Bool.not_eq_true, later_iff, not_lt]

theorem later_irrefl (a : DeviceObservation) : later a a = false :=
  later_eq_false_iff.mpr le_rfl

theorem later_trans (a b c : DeviceObservation) (first : later a b = true)
    (second : later b c = true) : later a c = true :=
  later_iff.mpr ((later_iff.mp second).trans (later_iff.mp first))

theorem later_negTrans (a b c : DeviceObservation) (first : later a b = false)
    (second : later b c = false) : later a c = false :=
  later_eq_false_iff.mpr ((later_eq_false_iff.mp first).trans (later_eq_false_iff.mp second))

/-- The observation that a loop over a batch keeps: the first of the latest ones. -/
def latestOf (row : Option DeviceObservation) (items : List DeviceObservation) :
    Option DeviceObservation :=
  items.foldl (pick later) row

/-- The observations that no other one replaces agree. -/
def Determined (items : List DeviceObservation) : Prop :=
  ∀ x ∈ items, ∀ y ∈ items, (∀ o ∈ items, later o x = false ∧ later o y = false) → x = y

theorem best_latestOf (items : List DeviceObservation) : Best later (latestOf none items) items :=
  (@Best.nil _ later).foldl later_irrefl later_trans items

/-- The order does not matter when the latest observations agree. -/
theorem Determined.latestOf_eq {items items' : List DeviceObservation}
    (determined : Determined items) (perm : items'.Perm items) :
    latestOf none items' = latestOf none items := by
  have best := best_latestOf items
  have best' := best_latestOf items'
  cases first : latestOf none items with
  | none =>
      rw [best.empty first] at perm
      rw [perm.eq_nil]
      rfl
  | some x =>
      have listed := best.listed x first
      cases second : latestOf none items' with
      | none =>
          rw [best'.empty second] at perm
          rw [perm.symm.eq_nil] at listed
          cases listed
      | some y =>
          refine congrArg some (determined y (perm.mem_iff.mp (best'.listed y second)) x listed ?_)
          intro o member
          exact ⟨best'.best y second o (perm.mem_iff.mpr member), best.best x first o member⟩

/-- After what was kept, a batch counts through its own latest observation. -/
theorem latestOf_some (kept : DeviceObservation) {items : List DeviceObservation}
    {x : DeviceObservation} (own : latestOf none items = some x) :
    latestOf (some kept) items = pick later (some kept) x := by
  cases items with
  | nil => cases own
  | cons o rest =>
      have split := foldl_pick_some later_trans later_negTrans kept o rest
      have first : rest.foldl (pick later) (some o) = some x := own
      rw [first] at split
      exact split

/-- **Two observations may be kept in either order** unless they tie, differ, and replace what
was kept before. -/
theorem pick_comm_iff (row : Option DeviceObservation) (x y : DeviceObservation) :
    pick later (pick later row y) x = pick later (pick later row x) y ↔
      (later x y = false → later y x = false → (∀ kept ∈ row, later x kept = true) → x = y) := by
  have first := @later_iff x y
  have second := @later_iff y x
  cases row with
  | none =>
      simp only [pick, Option.mem_def, reduceCtorEq, false_imp_iff, implies_true, true_imp_iff]
      grind
  | some kept =>
      have third := @later_iff x kept
      have fourth := @later_iff y kept
      simp only [pick, Option.mem_def, Option.some.injEq, forall_eq']
      grind

/-! ## Sets of texts -/

theorem mem_sortSet {values : List String} {s : String} : s ∈ sortSet values ↔ s ∈ values := by
  rw [sortSet, List.mem_insertionSort, List.mem_dedup]

theorem sortSet_congr {values values' : List String} (same : ∀ s, s ∈ values ↔ s ∈ values') :
    sortSet values = sortSet values' := by
  refine insertionSort_eq_of_perm _ ?_ fun a _ b _ => le_antisymm
  rw [List.perm_ext_iff_of_nodup (List.nodup_dedup _) (List.nodup_dedup _)]
  simpa using same

theorem mem_cleanStrings {values : List String} {s : String} :
    s ∈ cleanStrings values ↔ (∃ value ∈ values, trimSpace value = s) ∧ s ≠ "" := by
  simp [cleanStrings]

/-- A clean text stays as it is. -/
theorem mem_cleanStrings_sortSet {values : List String} {s : String} :
    s ∈ cleanStrings (sortSet (cleanStrings values)) ↔ s ∈ cleanStrings values := by
  simp only [mem_cleanStrings, mem_sortSet]
  constructor
  · rintro ⟨⟨_, ⟨⟨value, listed, rfl⟩, _⟩, rfl⟩, given⟩
    rw [trimSpace_trimSpace] at given ⊢
    exact ⟨⟨value, listed, rfl⟩, given⟩
  · rintro ⟨⟨value, listed, rfl⟩, given⟩
    exact ⟨⟨_, ⟨⟨value, listed, rfl⟩, given⟩, trimSpace_trimSpace value⟩, given⟩

theorem cleanStrings_append (left right : List String) :
    cleanStrings (left ++ right) = cleanStrings left ++ cleanStrings right := by
  simp [cleanStrings]

/-! ## One device -/

/-- The latest observation of a device before a batch. -/
def held (row : Option ReconciledDevice) : Option DeviceObservation :=
  row.map ReconciledDevice.latest

def heldSources (row : Option ReconciledDevice) : List String :=
  (row.map ReconciledDevice.sources).getD []

/-- The device after observations of it. -/
structure Merged (id : String) (row : Option ReconciledDevice) (items : List DeviceObservation)
    (d : ReconciledDevice) : Prop where
  deviceID : d.deviceID = (row.map ReconciledDevice.deviceID).getD id
  latest : latestOf (held row) items = some d.latest
  sources : d.sources = sortSet (cleanStrings
    (heldSources row ++ items.map DeviceObservation.source))

/-- The row of a device after observations of it, if there are any. -/
def Follows (id : String) (row : Option ReconciledDevice) (items : List DeviceObservation)
    (row' : Option ReconciledDevice) : Prop :=
  items = [] ∧ row' = row ∨ items ≠ [] ∧ ∃ d, row' = some d ∧ Merged id row items d

section

variable {id : String} {row middle row' row'' : Option ReconciledDevice}
variable {items items' : List DeviceObservation}

theorem Merged.append {d d' : ReconciledDevice} (first : Merged id row items d)
    (second : Merged id (some d) items' d') : Merged id row (items ++ items') d' := by
  refine ⟨second.deviceID.trans first.deviceID, ?_, ?_⟩
  · rw [latestOf, List.foldl_append, ← latestOf, ← latestOf, first.latest]
    exact second.latest
  · rw [second.sources]
    refine sortSet_congr fun s => ?_
    have kept : heldSources (some d) = d.sources := rfl
    rw [kept, first.sources, cleanStrings_append, List.mem_append, mem_cleanStrings_sortSet]
    simp only [List.map_append, cleanStrings_append, List.mem_append, or_assoc]

/-- One batch after another is both together. -/
theorem Follows.append (first : Follows id row items middle)
    (second : Follows id middle items' row'') : Follows id row (items ++ items') row'' := by
  rcases second with ⟨rfl, rfl⟩ | ⟨some', d', rfl, merged'⟩
  · rwa [List.append_nil]
  rcases first with ⟨rfl, rfl⟩ | ⟨some, d, rfl, merged⟩
  · exact .inr ⟨some', d', rfl, merged'⟩
  · exact .inr ⟨by simp [some], d', rfl, merged.append merged'⟩

/-- **What is known of a device depends on its observations** through the latest one alone. -/
theorem Follows.eq_iff (first : Follows id row items row') (second : Follows id row items' row'')
    (perm : items.Perm items') :
    row' = row'' ↔ latestOf (held row) items = latestOf (held row) items' := by
  rcases first with ⟨rfl, rfl⟩ | ⟨some, d, rfl, merged⟩
  · obtain rfl := perm.symm.eq_nil
    rcases second with ⟨-, rfl⟩ | ⟨some', -⟩
    · exact iff_of_true rfl rfl
    · exact absurd rfl some'
  rcases second with ⟨rfl, -⟩ | ⟨-, d', rfl, merged'⟩
  · exact absurd perm.eq_nil some
  have sources : d.sources = d'.sources := by
    rw [merged.sources, merged'.sources]
    refine sortSet_congr fun s => ?_
    simp [mem_cleanStrings, perm.mem_iff]
  have names := merged.deviceID.trans merged'.deviceID.symm
  rw [merged.latest, merged'.latest, Option.some.injEq, Option.some.injEq]
  cases d
  cases d'
  rw [ReconciledDevice.mk.injEq]
  exact ⟨fun same => same.2.1, fun same => ⟨names, same, sources⟩⟩

end

/-! ## A batch -/

/-- The observation passes the tests of a batch. -/
def DeviceObservation.Valid (o : DeviceObservation) : Prop :=
  trimSpace o.deviceID ≠ "" ∧ trimSpace o.source ≠ "" ∧ o.seenAt ≠ 0

/-- The observations of a device, trimmed, in the order of the batch. -/
def ofDevice (id : String) (observations : List DeviceObservation) : List DeviceObservation :=
  (observations.map DeviceObservation.trimmed).filter (·.deviceID == id)

theorem passes_trimmed {o : DeviceObservation} : Passes o.trimmed.checks ↔ o.Valid := by
  simp [DeviceObservation.checks, DeviceObservation.trimmed, DeviceObservation.Valid, Time.isZero]

theorem ofDevice_append (id : String) (first second : List DeviceObservation) :
    ofDevice id (first ++ second) = ofDevice id first ++ ofDevice id second := by
  simp [ofDevice]

theorem ofDevice_perm (id : String) {first second : List DeviceObservation}
    (perm : first.Perm second) : (ofDevice id first).Perm (ofDevice id second) :=
  (perm.map _).filter _

section

variable {observations : List DeviceObservation}

theorem foldlM_reconcileStep (valid : ∀ o ∈ observations, o.Valid) (byID : Table Aggregate) :
    observations.foldlM reconcileStep byID =
      .ok (byID.gather DeviceObservation.deviceID observe
        (observations.map DeviceObservation.trimmed)) := by
  induction observations generalizing byID with
  | nil => rfl
  | cons o rest ih =>
      obtain ⟨own, others⟩ := List.forall_mem_cons.mp valid
      have passed := firstFailure_passes.mpr (passes_trimmed.mpr own)
      rw [List.foldlM_cons, reconcileStep, passed]
      exact ih others _

theorem reconcileObservations_eq (valid : ∀ o ∈ observations, o.Valid) :
    reconcileObservations observations = .ok
      ((Table.gather DeviceObservation.deviceID observe ∅
        (observations.map DeviceObservation.trimmed)).listing Aggregate.device) := by
  rw [reconcileObservations, foldlM_reconcileStep valid]
  rfl

/-- What the loop knows after the observations of a device. -/
def aggregate (row : Option Aggregate) (items : List DeviceObservation) : Option Aggregate :=
  items.foldl (fun row o => some (observe row o)) row

theorem aggregate_latest (row : Option Aggregate) (items : List DeviceObservation) :
    (aggregate row items).map Aggregate.latest = latestOf (row.map Aggregate.latest) items := by
  induction items generalizing row with
  | nil => rfl
  | cons o rest ih =>
      have step : some (observe row o).latest = pick later (row.map Aggregate.latest) o := by
        cases row with
        | none => simp [observe, pick]
        | some a =>
            simp only [observe, pick, Option.getD_some, Option.map_some]
            split_ifs <;> rfl
      rw [aggregate, List.foldl_cons, ← aggregate, ih, latestOf, latestOf, List.foldl_cons, ← step]
      rfl

theorem aggregate_sources (row : Option Aggregate) (items : List DeviceObservation)
    (distinct : ∀ a ∈ row, a.sources.Nodup) : ∀ a ∈ aggregate row items, a.sources.Nodup ∧
      ∀ s, s ∈ a.sources ↔ (∃ b ∈ row, s ∈ b.sources) ∨ s ∈ items.map DeviceObservation.source := by
  induction items generalizing row with
  | nil =>
      intro a found
      exact ⟨distinct a found, fun s => by simp [show row = some a from found]⟩
  | cons o rest ih =>
      intro a found
      have next : ∀ b ∈ some (observe row o), b.sources.Nodup := by
        rintro _ ⟨⟩
        cases row with
        | none => simp [observe]
        | some b => exact (distinct b rfl).insert
      obtain ⟨once, members⟩ := ih (some (observe row o)) next a found
      refine ⟨once, fun s => ?_⟩
      rw [members s]
      cases row with
      | none => simp [observe]
      | some b => simp [observe, or_assoc, or_left_comm]

theorem aggregate_eq_none {items : List DeviceObservation} :
    aggregate none items = none ↔ items = [] := by
  have general : ∀ (items : List DeviceObservation) (a : Aggregate),
      aggregate (some a) items ≠ none := by
    intro items
    induction items with
    | nil => exact fun _ => nofun
    | cons o rest ih => exact fun a => ih _
  cases items with
  | nil => simp [aggregate]
  | cons o rest => simpa [aggregate] using general rest _

/-- The view of a device that a batch gives. -/
theorem aggregate_merged {id : String} {items : List DeviceObservation}
    (clean : ∀ o ∈ items, trimSpace o.source = o.source ∧ o.source ≠ "") {a : Aggregate}
    (found : aggregate none items = some a) : Merged id none items (a.device id) := by
  have latest := aggregate_latest none items
  rw [found] at latest
  obtain ⟨once, members⟩ := aggregate_sources none items (by simp) a found
  refine ⟨rfl, latest.symm, ?_⟩
  · have sorted : a.sources.insertionSort (· ≤ ·) = sortSet a.sources := by
      rw [sortSet, once.dedup]
    rw [Aggregate.device, sorted]
    refine sortSet_congr fun s => ?_
    simp only [members, mem_cleanStrings, heldSources, List.mem_append, List.mem_map]
    constructor
    · rintro (⟨_, ⟨⟩, _⟩ | ⟨o, listed, rfl⟩)
      exact ⟨⟨_, .inr ⟨o, listed, rfl⟩, (clean o listed).1⟩, (clean o listed).2⟩
    · rintro ⟨⟨_, none | ⟨o, listed, rfl⟩, rfl⟩, _⟩
      · cases none
      · exact .inr ⟨o, listed, (clean o listed).1.symm⟩

theorem clean_ofDevice (valid : ∀ o ∈ observations, o.Valid) (id : String) :
    ∀ o ∈ ofDevice id observations, trimSpace o.source = o.source ∧ o.source ≠ "" := by
  intro o listed
  obtain ⟨raw, member, rfl⟩ := List.mem_map.mp (List.mem_filter.mp listed).1
  exact ⟨trimSpace_trimSpace _, (valid raw member).2.1⟩

/-- The row of a device in the table of a batch. -/
theorem lookup_batch (id : String) :
    (Table.gather DeviceObservation.deviceID observe ∅
      (observations.map DeviceObservation.trimmed)).lookup id =
        aggregate none (ofDevice id observations) := by
  rw [Table.lookup_gather]
  rfl

theorem follows_batch (valid : ∀ o ∈ observations, o.Valid) (id : String) :
    Follows id none (ofDevice id observations)
      ((aggregate none (ofDevice id observations)).map (Aggregate.device id)) := by
  cases found : aggregate none (ofDevice id observations) with
  | none => exact .inl ⟨aggregate_eq_none.mp found, rfl⟩
  | some a =>
      have some : ofDevice id observations ≠ [] := by
        intro empty
        rw [aggregate_eq_none.mpr empty] at found
        cases found
      exact .inr ⟨some, a.device id, rfl, aggregate_merged (clean_ofDevice valid id) found⟩

/-- The views of a batch: one for each device that was observed. -/
theorem reconcileObservations_spec (valid : ∀ o ∈ observations, o.Valid) :
    ∃ devices, reconcileObservations observations = .ok devices ∧
      (devices.map ReconciledDevice.deviceID).Nodup ∧
      ∀ id, (devices.find? fun d => d.deviceID == id) =
        (aggregate none (ofDevice id observations)).map (Aggregate.device id) := by
  refine ⟨_, reconcileObservations_eq valid, ?_, fun id => ?_⟩
  · rw [Table.listing_map _ fun _ _ _ => rfl]
    exact (List.perm_insertionSort _ _).nodup_iff.mpr (AList.keys_nodup _)
  · rw [Table.find?_listing _ fun _ _ _ => rfl, lookup_batch]

/-- An observation that none of the others replaces is kept when it comes first. -/
theorem foldl_pick_first {x : DeviceObservation} {items : List DeviceObservation}
    (kept : ∀ o ∈ items, later o x = false) : latestOf (some x) items = some x := by
  induction items with
  | nil => rfl
  | cons o rest ih =>
      obtain ⟨first, others⟩ := List.forall_mem_cons.mp kept
      rw [latestOf, List.foldl_cons, ← latestOf]
      simpa [pick, first] using ih others

/-- In some order of the batch, an observation that is not replaced is the latest one. -/
theorem exists_perm_latest {id : String} {x : DeviceObservation}
    (listed : x ∈ ofDevice id observations)
    (kept : ∀ o ∈ ofDevice id observations, later o x = false) :
    ∃ observations', observations'.Perm observations ∧
      (aggregate none (ofDevice id observations')).map Aggregate.latest = some x := by
  obtain ⟨mapped, own⟩ := List.mem_filter.mp listed
  obtain ⟨raw, member, rfl⟩ := List.mem_map.mp mapped
  refine ⟨raw :: observations.erase raw, (List.perm_cons_erase member).symm, ?_⟩
  have front : ofDevice id (raw :: observations.erase raw) =
      raw.trimmed :: ofDevice id (observations.erase raw) := by
    rw [ofDevice, List.map_cons, List.filter_cons, if_pos own]
    rfl
  rw [front, aggregate_latest]
  refine foldl_pick_first fun o later => kept o ?_
  have perm := ofDevice_perm id (List.perm_cons_erase member)
  rw [front] at perm
  exact perm.mem_iff.mpr (List.mem_cons_of_mem _ later)

/-- **A batch may be reordered exactly when the latest observations of each device agree.** -/
theorem reconcileObservations_perm_iff (valid : ∀ o ∈ observations, o.Valid) :
    (∀ observations', observations'.Perm observations →
      reconcileObservations observations' = reconcileObservations observations) ↔
        ∀ id, Determined (ofDevice id observations) := by
  constructor
  · intro same id x listed y listed' kept
    -- put either observation first
    have latest : ∀ z ∈ ofDevice id observations,
        (∀ o ∈ ofDevice id observations, later o z = false) →
          (aggregate none (ofDevice id observations)).map Aggregate.latest = some z := by
      intro z member best
      obtain ⟨observations', perm, first⟩ := exists_perm_latest member best
      have valid' : ∀ o ∈ observations', o.Valid := fun o own => valid o (perm.mem_iff.mp own)
      obtain ⟨devices, ran, -, views⟩ := reconcileObservations_spec valid
      obtain ⟨devices', ran', -, views'⟩ := reconcileObservations_spec valid'
      have equal := same observations' perm
      rw [ran, ran'] at equal
      cases equal
      have view := congrArg (Option.map ReconciledDevice.latest)
        ((views id).symm.trans (views' id))
      rw [Option.map_map, Option.map_map] at view
      exact view.trans first
    have first := latest x listed fun o member => (kept o member).1
    have second := latest y listed' fun o member => (kept o member).2
    exact Option.some.inj (first.symm.trans second)
  · intro determined observations' perm
    have valid' : ∀ o ∈ observations', o.Valid := fun o own => valid o (perm.mem_iff.mp own)
    rw [reconcileObservations_eq valid, reconcileObservations_eq valid']
    refine congrArg Except.ok (Table.listing_congr fun id => ?_)
    rw [lookup_batch, lookup_batch]
    refine ((follows_batch valid' id).eq_iff (follows_batch valid id)
      (ofDevice_perm id perm)).mpr ?_
    exact (determined id).latestOf_eq (ofDevice_perm id perm)

end

/-! ## The registry -/

section

variable {id : String} {row : Option ReconciledDevice} {items : List DeviceObservation}

/-- The view of a batch is merged into what the registry knows. -/
theorem Merged.mergeDevice {d : ReconciledDevice} (fresh : Merged id none items d) :
    Merged id row items (mergeDevice row d) := by
  cases row with
  | none => exact fresh
  | some current =>
      refine ⟨rfl, ?_, ?_⟩
      · have own : latestOf none items = some d.latest := fresh.latest
        have kept : held (some current) = some current.latest := rfl
        have latest : (Inventory.mergeDevice (some current) d).latest =
            if later d.latest current.latest then d.latest else current.latest := rfl
        rw [kept, latestOf_some _ own, latest, pick]
        split_ifs <;> rfl
      · change mergeStrings current.sources d.sources = _
        rw [mergeStrings, fresh.sources]
        refine sortSet_congr fun s => ?_
        rw [cleanStrings_append, List.mem_append, mem_cleanStrings_sortSet]
        simp [heldSources, cleanStrings_append]

variable {observations : List DeviceObservation}

/-- The row of a device after a batch. -/
theorem follows_after (r : MemoryRegistry) (valid : ∀ o ∈ observations, o.Valid) (id : String) :
    Follows id (r.lookup id) (ofDevice id observations) ((r.after observations).lookup id) := by
  obtain ⟨devices, ran, distinct, views⟩ := reconcileObservations_spec valid
  have after : r.after observations = r.gather ReconciledDevice.deviceID mergeDevice devices := by
    simp [MemoryRegistry.after, MemoryRegistry.ingest, ran, bind, Except.bind, pure, Except.pure]
  rw [after, Table.lookup_gather_nodup distinct, views]
  rcases follows_batch valid id with ⟨empty, view⟩ | ⟨some, d, view, merged⟩
  · rw [view]
    exact .inl ⟨empty, rfl⟩
  · rw [view]
    exact .inr ⟨some, _, rfl, merged.mergeDevice⟩

end

/-- No device has different latest observations in the two batches that tie and replace the one
in the registry. The latest observation of a batch is the first of those no other replaces. -/
def Undisputed (r : MemoryRegistry) (a b : List DeviceObservation) : Prop :=
  ∀ id x y, latestOf none (ofDevice id a) = some x → latestOf none (ofDevice id b) = some y →
    later x y = false → later y x = false → (∀ kept ∈ held (r.lookup id), later x kept = true) →
    x = y

/-- What two batches leave of a device, one after the other. -/
theorem latestOf_append (row : Option DeviceObservation) {items items' : List DeviceObservation}
    {x y : DeviceObservation} (first : latestOf none items = some x)
    (second : latestOf none items' = some y) :
    latestOf row (items ++ items') = pick later (pick later row x) y := by
  rw [latestOf, List.foldl_append, ← latestOf, ← latestOf]
  cases row with
  | none =>
      rw [first, latestOf_some x second]
      rfl
  | some kept =>
      rw [latestOf_some kept first]
      unfold pick
      dsimp only
      split_ifs
      · exact latestOf_some x second
      · exact latestOf_some kept second

theorem latestOf_swap_iff (row : Option DeviceObservation) (items items' : List DeviceObservation) :
    latestOf row (items' ++ items) = latestOf row (items ++ items') ↔
      ∀ x y, latestOf none items = some x → latestOf none items' = some y →
        later x y = false → later y x = false → (∀ kept ∈ row, later x kept = true) → x = y := by
  cases first : latestOf none items with
  | none => simp [(best_latestOf items).empty first]
  | some x =>
      cases second : latestOf none items' with
      | none => simp [(best_latestOf items').empty second]
      | some y =>
          rw [latestOf_append row second first, latestOf_append row first second, pick_comm_iff]
          constructor
          · rintro agree _ _ ⟨⟩ ⟨⟩
            exact agree
          · exact fun agree => agree x y rfl rfl

/-- **Batches may come in any order exactly when they do not dispute a device.** A batch of valid
observations gives the same views in every order exactly when the latest observations of each
device agree. Two batches one after the other leave the rows of both together. The other way
round they leave the same rows exactly when the batches are undisputed. -/
theorem ingest_order (r : MemoryRegistry) (a b : List DeviceObservation)
    (valid : ∀ o ∈ a ++ b, o.Valid) :
    ((∀ a', a'.Perm a → reconcileObservations a' = reconcileObservations a) ↔
      ∀ id, Determined (ofDevice id a)) ∧
    (∃ devices, reconcileObservations a = .ok devices) ∧
    (∀ id, ((r.after a).after b).lookup id = (r.after (a ++ b)).lookup id) ∧
    ((∀ id, ((r.after b).after a).lookup id = (r.after (a ++ b)).lookup id) ↔
      Undisputed r a b) := by
  have first : ∀ o ∈ a, o.Valid := fun o listed => valid o (List.mem_append_left _ listed)
  have second : ∀ o ∈ b, o.Valid := fun o listed => valid o (List.mem_append_right _ listed)
  refine ⟨reconcileObservations_perm_iff first, ?_, fun id => ?_, forall_congr' fun id => ?_⟩
  · obtain ⟨devices, ran, -⟩ := reconcileObservations_spec first
    exact ⟨devices, ran⟩
  · have steps := (follows_after r first id).append (follows_after (r.after a) second id)
    have both := follows_after r valid id
    rw [ofDevice_append] at both
    exact (steps.eq_iff both (.refl _)).mpr rfl
  · have steps := (follows_after r second id).append (follows_after (r.after b) first id)
    have both := follows_after r valid id
    rw [ofDevice_append] at both
    rw [steps.eq_iff both List.perm_append_comm, latestOf_swap_iff]

/-- A host is renamed between two observations of different sources. -/
theorem ingest_order_renamed :
    let a : List DeviceObservation := [⟨"device", "arp", "old", 1⟩]
    let b : List DeviceObservation := [⟨"device", "dhcp", "new", 1⟩]
    ((MemoryRegistry.after (∅ : MemoryRegistry) b).after a).lookup "device" =
      some ⟨"device", ⟨"device", "arp", "old", 1⟩, ["arp", "dhcp"]⟩ := by
  intro a b
  have undisputed : Undisputed ∅ a b := by
    intro id x y first second tie
    have mine := List.mem_map.mp (List.mem_filter.mp ((best_latestOf _).listed x first)).1
    have yours := List.mem_map.mp (List.mem_filter.mp ((best_latestOf _).listed y second)).1
    obtain ⟨_, listed, rfl⟩ := mine
    obtain ⟨_, listed', rfl⟩ := yours
    cases List.mem_singleton.mp listed
    cases List.mem_singleton.mp listed'
    exact absurd tie (by decide)
  have valid : ∀ o ∈ a ++ b, o.Valid := by
    intro o listed
    rcases List.mem_pair.mp listed with rfl | rfl <;> exact ⟨by decide, by decide, by decide⟩
  rw [(ingest_order ∅ a b valid).2.2.2.mpr undisputed "device"]
  decide +kernel

/-- Two observations of one source at one time: what came first is kept, in a batch and in the
registry. -/
theorem tie_depends_on_order :
    let x : DeviceObservation := ⟨"device", "arp", "old", 1⟩
    let y : DeviceObservation := ⟨"device", "arp", "new", 1⟩
    x.Valid ∧ y.Valid ∧
      reconcileObservations [x, y] = .ok [⟨"device", x, ["arp"]⟩] ∧
      reconcileObservations [y, x] = .ok [⟨"device", y, ["arp"]⟩] ∧
      ((MemoryRegistry.after (∅ : MemoryRegistry) [x]).after [y]).lookup "device" =
        some ⟨"device", x, ["arp"]⟩ ∧
      ((MemoryRegistry.after (∅ : MemoryRegistry) [y]).after [x]).lookup "device" =
        some ⟨"device", y, ["arp"]⟩ := by
  refine ⟨⟨?_, ?_, ?_⟩, ⟨?_, ?_, ?_⟩, ?_, ?_, ?_, ?_⟩ <;> decide +kernel

end ControlCenter.Inventory
