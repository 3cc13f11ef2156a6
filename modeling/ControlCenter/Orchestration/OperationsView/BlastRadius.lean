import ControlCenter.Library.Checks
import ControlCenter.Library.Go
import ControlCenter.Library.Sorting
import ControlCenter.Orchestration.Job.ManualRetry
import Mathlib.Data.Prod.Lex
import Mathlib.Data.String.Basic

/-!
# The blast radius of a change

`internal/orchestration/operationsview/blast_radius.go`: the resources that a change affects,
sorted and counted, bound to one revision. `BuildBlastRadiusEvidence` sorts and counts and hands
the result to `ValidateBlastRadiusEvidence`, which tests each resource, counts again, and tests
that the resources are in order.

The validator also refuses duplicates. It writes the id and the kind of a resource with a zero
byte between them, and either may contain one itself. So evidence is built exactly when the
resources are few, valid and distinct, were observed at some time, and no two of them have one
text for different ids and kinds (`buildBlastRadiusEvidence_ok_iff`); such a pair is refused as
a duplicate (`separator_refused`).
-/

set_option autoImplicit false

namespace ControlCenter.Orchestration.OperationsView

open Library Job

def blastRadiusContractVersion : String := "ui.operations-blast-radius/v1"

def maxBlastRadiusResources : Nat := 256

def maxBlastRadiusIdentifierLength : Nat := 255

def maxBlastRadiusKindLength : Nat := 128

def maxBlastRadiusReasonCodeLength : Nat := 128

/-- A message about an invalid blast radius. -/
def invalidBlastRadius (message : String) : String :=
  "invalid operations blast radius: " ++ message

/-- A text names one relation or none. -/
inductive BlastRadiusRelation where
  | direct
  | dependency
  | other (text : String) (unknown : text ≠ "direct" ∧ text ≠ "dependency")
  deriving DecidableEq

def BlastRadiusRelation.text : BlastRadiusRelation → String
  | .direct => "direct"
  | .dependency => "dependency"
  | .other text _ => text

theorem BlastRadiusRelation.text_injective : Function.Injective text := by
  intro a b same
  cases a with
  | direct =>
      cases b with
      | direct => rfl
      | dependency => exact absurd same (by decide)
      | other _ unknown => exact absurd same.symm unknown.1
  | dependency =>
      cases b with
      | direct => exact absurd same (by decide)
      | dependency => rfl
      | other _ unknown => exact absurd same.symm unknown.2
  | other _ unknown =>
      cases b with
      | direct => exact absurd same unknown.1
      | dependency => exact absurd same unknown.2
      | other _ _ =>
          obtain rfl : _ = _ := same
          rfl

structure BlastRadiusResource where
  resourceID : String
  kind : String
  relation : BlastRadiusRelation
  reasonCode : String
  deriving DecidableEq

structure BlastRadiusEvidence where
  contractVersion : String
  changeID : String
  revisionID : String
  revisionDigest : String
  observedAt : Time
  resourceCount : Int
  directCount : Int
  dependencyCount : Int
  resources : List BlastRadiusResource
  deriving DecidableEq

structure BlastRadiusInput where
  changeID : String
  revisionID : String
  revisionDigest : String
  observedAt : Time
  resources : List BlastRadiusResource
  deriving DecidableEq

/-! ## The order of resources -/

def blastRadiusResourceLess (left right : BlastRadiusResource) : Bool :=
  if left.resourceID ≠ right.resourceID then decide (left.resourceID < right.resourceID)
  else if left.kind ≠ right.kind then decide (left.kind < right.kind)
  else if left.relation ≠ right.relation then decide (left.relation.text < right.relation.text)
  else decide (left.reasonCode < right.reasonCode)

/-- The same order as a key. -/
def BlastRadiusResource.rank (r : BlastRadiusResource) :
    String ×ₗ String ×ₗ String ×ₗ String :=
  toLex (r.resourceID, toLex (r.kind, toLex (r.relation.text, r.reasonCode)))

theorem BlastRadiusResource.rank_injective : Function.Injective rank := by
  rintro ⟨_, _, _, _⟩ ⟨_, _, _, _⟩ same
  simp only [rank, EmbeddingLike.apply_eq_iff_eq, Prod.mk.injEq] at same
  obtain ⟨rfl, rfl, relation, rfl⟩ := same
  rw [BlastRadiusRelation.text_injective relation]

theorem blastRadiusResourceLess_iff {left right : BlastRadiusResource} :
    blastRadiusResourceLess left right = true ↔ left.rank < right.rank := by
  have relation : left.relation.text = right.relation.text ↔ left.relation = right.relation :=
    BlastRadiusRelation.text_injective.eq_iff
  simp only [BlastRadiusResource.rank, Prod.Lex.toLex_lt_toLex, blastRadiusResourceLess, relation]
  split_ifs with id kind rel <;> simp_all

/-- The sorted resources: `sort.Slice` by the order above. -/
def sortBlastRadius (resources : List BlastRadiusResource) : List BlastRadiusResource :=
  resources.insertionSort fun a b => blastRadiusResourceLess b a = false

/-! ## Validation -/

def validBlastRadiusIdentifier (value : String) (maxLength : Nat) : Bool :=
  trimSpace value != "" && value == trimSpace value && decide (value.utf8ByteSize ≤ maxLength)

def isReasonSeparator (c : Char) : Bool := c == '.' || c == '_' || c == '-'

def validBlastRadiusReasonCode (value : String) : Bool :=
  value != "" && decide (value.utf8ByteSize ≤ maxBlastRadiusReasonCodeLength) &&
    (value.toList.all fun c =>
      ('a' ≤ c && c ≤ 'z') || ('0' ≤ c && c ≤ '9') || isReasonSeparator c) &&
    !(value.toList.head?.any isReasonSeparator)

def validBlastRadiusDigest (value : String) : Bool := validManualRetryDigest value

/-- The text under which a resource is remembered. -/
def BlastRadiusResource.key (r : BlastRadiusResource) : String := r.resourceID ++ "\x00" ++ r.kind

/-- The tests of one resource. -/
def BlastRadiusResource.checks (index : Nat) (r : BlastRadiusResource) : List (Bool × String) :=
  [(!validBlastRadiusIdentifier r.resourceID maxBlastRadiusIdentifierLength,
      invalidBlastRadius s!"resource {index} has invalid resource_id"),
    (!validBlastRadiusIdentifier r.kind maxBlastRadiusKindLength,
      invalidBlastRadius ("resource " ++ quoted r.resourceID ++ " has invalid kind")),
    (!validBlastRadiusReasonCode r.reasonCode,
      invalidBlastRadius ("resource " ++ quoted r.resourceID ++ " has invalid reason_code")),
    (r.relation != .direct && r.relation != .dependency,
      invalidBlastRadius ("resource " ++ quoted r.resourceID ++ " has invalid relation"))]

/-- The loop over the resources, with the one before and the texts seen so far. -/
def resourceChecks : (index : Nat) → (previous : Option BlastRadiusResource) →
    (seen : List String) → List BlastRadiusResource → List (Bool × String)
  | _, _, _, [] => []
  | index, previous, seen, r :: rest =>
      r.checks index ++
      [(seen.contains r.key, invalidBlastRadius
          ("duplicate resource " ++ quoted r.resourceID ++ " kind " ++ quoted r.kind)),
        (previous.any fun before => blastRadiusResourceLess r before,
          invalidBlastRadius "resources are not in canonical order")] ++
      resourceChecks (index + 1) (some r) (r.key :: seen) rest

/-- How many resources have the relation. -/
def countRelation (relation : BlastRadiusRelation) (resources : List BlastRadiusResource) : Int :=
  resources.countP fun r => r.relation == relation

def BlastRadiusEvidence.headerChecks (e : BlastRadiusEvidence) : List (Bool × String) :=
  [(e.contractVersion != blastRadiusContractVersion,
      invalidBlastRadius "unexpected contract version"),
    (!validBlastRadiusIdentifier e.changeID maxBlastRadiusIdentifierLength,
      invalidBlastRadius "canonical change id is required"),
    (!validBlastRadiusIdentifier e.revisionID maxBlastRadiusIdentifierLength,
      invalidBlastRadius "canonical revision id is required"),
    (!validBlastRadiusDigest e.revisionDigest,
      invalidBlastRadius "canonical sha256 revision digest is required"),
    (Time.isZero e.observedAt, invalidBlastRadius "observed_at must be a non-zero UTC timestamp"),
    (e.resourceCount != e.resources.length ||
        decide (e.resourceCount > maxBlastRadiusResources),
      invalidBlastRadius "resource count is inconsistent")]

def BlastRadiusEvidence.countChecks (e : BlastRadiusEvidence) : List (Bool × String) :=
  let directCount := countRelation .direct e.resources
  let dependencyCount := countRelation .dependency e.resources
  [(e.directCount != directCount || e.dependencyCount != dependencyCount ||
      directCount + dependencyCount != e.resourceCount,
    invalidBlastRadius "relation counts are inconsistent")]

def validateBlastRadiusEvidence (e : BlastRadiusEvidence) : Except String Unit :=
  firstFailure (e.headerChecks ++ resourceChecks 0 none [] e.resources ++ e.countChecks)

/-- The evidence before it is validated. -/
def BlastRadiusInput.evidence (input : BlastRadiusInput) : BlastRadiusEvidence where
  contractVersion := blastRadiusContractVersion
  changeID := input.changeID
  revisionID := input.revisionID
  revisionDigest := input.revisionDigest
  observedAt := input.observedAt
  resourceCount := (sortBlastRadius input.resources).length
  directCount := countRelation .direct (sortBlastRadius input.resources)
  dependencyCount := countRelation .dependency (sortBlastRadius input.resources)
  resources := sortBlastRadius input.resources

def buildBlastRadiusEvidence (input : BlastRadiusInput) : Except String BlastRadiusEvidence := do
  if input.resources.length > maxBlastRadiusResources then
    .error (invalidBlastRadius s!"resource set exceeds {maxBlastRadiusResources} entries")
  else
    validateBlastRadiusEvidence input.evidence
    return input.evidence

/-! ## What the tests mean -/

/-- The resource alone is valid. -/
structure BlastRadiusResource.Valid (r : BlastRadiusResource) : Prop where
  resourceID : validBlastRadiusIdentifier r.resourceID maxBlastRadiusIdentifierLength = true
  kind : validBlastRadiusIdentifier r.kind maxBlastRadiusKindLength = true
  reasonCode : validBlastRadiusReasonCode r.reasonCode = true
  relation : r.relation = .direct ∨ r.relation = .dependency

theorem passes_resourceFields {index : Nat} {r : BlastRadiusResource} :
    Passes (r.checks index) ↔ r.Valid := by
  simp only [BlastRadiusResource.checks, passes_cons, passes_nil, Bool.not_eq_false',
    Bool.and_eq_false_iff, bne_eq_false_iff_eq, and_true]
  constructor
  · rintro ⟨named, kind, reason, relation⟩
    exact ⟨named, kind, reason, relation⟩
  · rintro ⟨named, kind, reason, relation⟩
    exact ⟨named, kind, reason, relation⟩

theorem passes_resourceChecks {resources : List BlastRadiusResource} :
    ∀ {index : Nat} {previous : Option BlastRadiusResource} {seen : List String},
    (previous.toList ++ resources).Pairwise (fun a b => blastRadiusResourceLess b a = false) →
      (Passes (resourceChecks index previous seen resources) ↔
        (∀ r ∈ resources, r.Valid) ∧ (resources.map BlastRadiusResource.key).Nodup ∧
          ∀ r ∈ resources, r.key ∉ seen) := by
  induction resources with
  | nil => simp [resourceChecks]
  | cons r rest ih =>
      intro index previous seen sorted
      have before : (previous.any fun before => blastRadiusResourceLess r before) = false := by
        cases previous with
        | none => rfl
        | some before => exact (List.pairwise_cons.mp sorted).1 r List.mem_cons_self
      have after : ((some r).toList ++ rest).Pairwise
          (fun a b => blastRadiusResourceLess b a = false) :=
        (List.pairwise_append.mp sorted).2.1
      simp only [resourceChecks, passes_append, passes_resourceFields, passes_cons, passes_nil,
        before, ih after, List.contains_eq_mem, decide_eq_false_iff_not, and_true]
      exact unseen_cons

/-- Valid resources are counted under one relation each. -/
theorem countRelation_add {resources : List BlastRadiusResource}
    (valid : ∀ r ∈ resources, r.Valid) :
    countRelation .direct resources + countRelation .dependency resources = resources.length := by
  induction resources with
  | nil => rfl
  | cons r rest ih =>
      obtain ⟨own, others⟩ := List.forall_mem_cons.mp valid
      have rest' := ih others
      simp only [countRelation, List.countP_cons, List.length_cons] at rest' ⊢
      rcases own.relation with direct | dependency
      · simp [direct]
        omega
      · simp [dependency]
        omega

/-! ## Sorting -/

instance : Std.Total fun a b : BlastRadiusResource => blastRadiusResourceLess b a = false where
  total a b := by
    simp only [← Bool.not_eq_true, blastRadiusResourceLess_iff, not_lt]
    exact le_total _ _

instance : IsTrans BlastRadiusResource fun a b => blastRadiusResourceLess b a = false where
  trans a b c := by
    simp only [← Bool.not_eq_true, blastRadiusResourceLess_iff, not_lt]
    exact le_trans

theorem sortBlastRadius_perm (resources : List BlastRadiusResource) :
    (sortBlastRadius resources).Perm resources :=
  List.perm_insertionSort _ _

theorem sortBlastRadius_eq {resources resources' : List BlastRadiusResource}
    (perm : resources.Perm resources') :
    sortBlastRadius resources = sortBlastRadius resources' := by
  refine insertionSort_eq_of_perm _ perm fun a _ b _ first second => ?_
  simp only [← Bool.not_eq_true, blastRadiusResourceLess_iff, not_lt] at first second
  exact BlastRadiusResource.rank_injective (le_antisymm first second)

/-! ## Building evidence -/

/-- The change and the revision are named canonically. -/
structure BlastRadiusInput.CanonicalIdentity (input : BlastRadiusInput) : Prop where
  changeID : validBlastRadiusIdentifier input.changeID maxBlastRadiusIdentifierLength = true
  revisionID : validBlastRadiusIdentifier input.revisionID maxBlastRadiusIdentifierLength = true
  revisionDigest : validBlastRadiusDigest input.revisionDigest = true

/-- No two resources have both the same id and the same kind. -/
def NoRepeats (resources : List BlastRadiusResource) : Prop :=
  resources.Pairwise fun a b => ¬ (a.resourceID = b.resourceID ∧ a.kind = b.kind)

/-- The resources are at most 256, each is valid, and none is repeated. -/
structure Admissible (resources : List BlastRadiusResource) : Prop where
  few : resources.length ≤ maxBlastRadiusResources
  valid : ∀ r ∈ resources, r.Valid
  distinct : NoRepeats resources

/-- Resources with one text have the same id and the same kind. -/
def Separable (resources : List BlastRadiusResource) : Prop :=
  ∀ a ∈ resources, ∀ b ∈ resources, a.key = b.key → a.resourceID = b.resourceID ∧ a.kind = b.kind

theorem nodup_key_iff {resources : List BlastRadiusResource} :
    (resources.map BlastRadiusResource.key).Nodup ↔ NoRepeats resources ∧ Separable resources := by
  constructor
  · intro distinct
    refine ⟨?_, fun a listed b listed' same => ?_⟩
    · refine (List.pairwise_map.mp distinct).imp fun apart same => apart ?_
      rw [BlastRadiusResource.key, BlastRadiusResource.key, same.1, same.2]
    · rw [List.inj_on_of_nodup_map distinct listed listed' same]
      exact ⟨rfl, rfl⟩
  · rintro ⟨distinct, separable⟩
    refine List.pairwise_map.mpr (List.Pairwise.imp_of_mem ?_ distinct)
    exact fun listed listed' apart same => apart (separable _ listed _ listed' same)

section

variable {input : BlastRadiusInput}

theorem passes_evidence (identity : input.CanonicalIdentity) :
    validateBlastRadiusEvidence input.evidence = .ok () ↔
      input.observedAt ≠ 0 ∧ input.resources.length ≤ maxBlastRadiusResources ∧
        (∀ r ∈ input.resources, r.Valid) ∧
        (input.resources.map BlastRadiusResource.key).Nodup := by
  have perm := sortBlastRadius_perm input.resources
  have loop := @passes_resourceChecks (sortBlastRadius input.resources) 0 none []
    (List.pairwise_insertionSort _ _)
  have header : Passes input.evidence.headerChecks ↔
      input.observedAt ≠ 0 ∧ input.resources.length ≤ maxBlastRadiusResources := by
    simp [BlastRadiusEvidence.headerChecks, BlastRadiusInput.evidence, identity.changeID,
      identity.revisionID, identity.revisionDigest, Time.isZero, perm.length_eq]
  have counts : (∀ r ∈ sortBlastRadius input.resources, r.Valid) →
      Passes input.evidence.countChecks := by
    intro valid
    simp [BlastRadiusEvidence.countChecks, BlastRadiusInput.evidence, countRelation_add valid]
  rw [validateBlastRadiusEvidence, firstFailure_passes, passes_append, passes_append, header]
  simp only [BlastRadiusInput.evidence] at loop ⊢
  rw [loop]
  simp only [List.not_mem_nil, not_false_eq_true, implies_true, and_true,
    (perm.map BlastRadiusResource.key).nodup_iff, perm.mem_iff]
  constructor
  · rintro ⟨⟨⟨observed, few⟩, valid, distinct⟩, -⟩
    exact ⟨observed, few, valid, distinct⟩
  · rintro ⟨observed, few, valid, distinct⟩
    exact ⟨⟨⟨observed, few⟩, valid, distinct⟩,
      counts fun r listed => valid r (perm.mem_iff.mp listed)⟩

theorem buildBlastRadiusEvidence_ok {e : BlastRadiusEvidence} :
    buildBlastRadiusEvidence input = .ok e ↔ input.resources.length ≤ maxBlastRadiusResources ∧
      validateBlastRadiusEvidence input.evidence = .ok () ∧ e = input.evidence := by
  rw [buildBlastRadiusEvidence]
  split_ifs with many
  · simp [many]
  · rw [except_check_ok]
    simp [Nat.le_of_not_lt many, pure, Except.pure, eq_comm]

/-- **Evidence is built exactly from observed, admissible resources that the separator keeps
apart.** -/
theorem buildBlastRadiusEvidence_ok_iff (identity : input.CanonicalIdentity) :
    (∃ e, buildBlastRadiusEvidence input = .ok e) ↔
      Admissible input.resources ∧ input.observedAt ≠ 0 ∧ Separable input.resources := by
  simp only [buildBlastRadiusEvidence_ok, passes_evidence identity, nodup_key_iff]
  constructor
  · rintro ⟨_, few, ⟨observed, -, valid, distinct, separable⟩, -⟩
    exact ⟨⟨few, valid, distinct⟩, observed, separable⟩
  · rintro ⟨⟨few, valid, distinct⟩, observed, separable⟩
    exact ⟨_, few, ⟨observed, few, valid, distinct, separable⟩, rfl⟩

/-- The order of the resources does not matter. -/
theorem buildBlastRadiusEvidence_perm {resources : List BlastRadiusResource}
    (perm : resources.Perm input.resources) :
    buildBlastRadiusEvidence { input with resources := resources } =
      buildBlastRadiusEvidence input := by
  have evidence : BlastRadiusInput.evidence { input with resources := resources } =
      input.evidence := by
    simp only [BlastRadiusInput.evidence, sortBlastRadius_eq perm]
  simp only [buildBlastRadiusEvidence, evidence, perm.length_eq]

end

/-- **Blast radii are canonical exactly where the separator is unambiguous.** For canonical
names, evidence is built exactly from the admissible resources if and only if admissible
resources were observed at some time and have different texts for different ids and kinds.
Evidence depends on the resources but not on their order, and it is valid. -/
theorem blastRadius_canonical (input : BlastRadiusInput) (identity : input.CanonicalIdentity) :
    (((∃ e, buildBlastRadiusEvidence input = .ok e) ↔ Admissible input.resources) ↔
      (Admissible input.resources → input.observedAt ≠ 0 ∧ Separable input.resources)) ∧
    (∀ resources, resources.Perm input.resources →
      buildBlastRadiusEvidence { input with resources := resources } =
        buildBlastRadiusEvidence input) ∧
    ∀ e, buildBlastRadiusEvidence input = .ok e → validateBlastRadiusEvidence e = .ok () := by
  refine ⟨?_, fun _ => buildBlastRadiusEvidence_perm, fun e built => ?_⟩
  · rw [buildBlastRadiusEvidence_ok_iff identity, and_iff_left_iff_imp]
  · obtain ⟨-, valid, rfl⟩ := buildBlastRadiusEvidence_ok.mp built
    exact valid

/-- A direct resource of the sample inputs. -/
def sampleResource (resourceID kind : String) : BlastRadiusResource :=
  ⟨resourceID, kind, .direct, "config"⟩

def sampleBlastRadius (resources : List BlastRadiusResource) : BlastRadiusInput where
  changeID := "change"
  revisionID := "revision"
  revisionDigest := "sha256:" ++ String.ofList (List.replicate 64 '0')
  observedAt := 1
  resources := resources

theorem sampleBlastRadius_identity (resources : List BlastRadiusResource) :
    (sampleBlastRadius resources).CanonicalIdentity := by
  have empty : (sampleBlastRadius []).CanonicalIdentity :=
    ⟨by decide +kernel, by decide +kernel, by decide +kernel⟩
  exact ⟨empty.changeID, empty.revisionID, empty.revisionDigest⟩

theorem blastRadius_canonical_pair :
    ∃ e, buildBlastRadiusEvidence
      (sampleBlastRadius [sampleResource "b" "node", sampleResource "a" "node"]) = .ok e := by
  refine ((blastRadius_canonical _ (sampleBlastRadius_identity _)).1.mpr fun _ => ⟨?_, ?_⟩).mpr
    ⟨?_, ?_, ?_⟩
  · decide
  · simp [Separable, sampleBlastRadius, sampleResource, BlastRadiusResource.key]
  · decide
  · intro r listed
    rcases List.mem_pair.mp listed with rfl | rfl <;>
      exact ⟨by decide +kernel, by decide +kernel, by decide +kernel, .inl rfl⟩
  · simp [NoRepeats, sampleBlastRadius, sampleResource]

/-- Two different resources with one text are refused. -/
theorem separator_refused :
    let input := sampleBlastRadius [sampleResource "a" "b\x00c", sampleResource "a\x00b" "c"]
    input.CanonicalIdentity ∧ input.observedAt ≠ 0 ∧ Admissible input.resources ∧
      ¬ ∃ e, buildBlastRadiusEvidence input = .ok e := by
  refine ⟨sampleBlastRadius_identity _, ?_, ⟨?_, ?_, ?_⟩, ?_⟩
  · decide
  · decide
  · intro r listed
    rcases List.mem_pair.mp listed with rfl | rfl <;>
      exact ⟨by decide +kernel, by decide +kernel, by decide +kernel, .inl rfl⟩
  · simp [NoRepeats, sampleBlastRadius, sampleResource]
  · rw [buildBlastRadiusEvidence_ok_iff (sampleBlastRadius_identity _)]
    rintro ⟨-, -, separable⟩
    have mixed := separable _ List.mem_cons_self _ (List.mem_cons_of_mem _ List.mem_cons_self)
      (by decide +kernel)
    exact absurd mixed.1 (by decide)

end ControlCenter.Orchestration.OperationsView
