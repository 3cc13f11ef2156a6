import ControlCenter.Library.Checks
import ControlCenter.Library.Go

/-!
# The envelope of a synchronized object

`internal/corecontracts/metadata.go`: the metadata every synchronized object carries, the
precondition of an update, and what makes one envelope the successor of another.

Each validator is a list of tests in the order of the source, each with its error. The
tests pass exactly when the envelope is well formed (`ObjectMetadata.passes_checks`), the
precondition names the current object (`ObjectPrecondition.validateAgainst_ok`), and the
next envelope is a successor (`validateSuccessor_ok`).
-/

set_option autoImplicit false

namespace ControlCenter.CoreContracts

open Library

def maxIdentifierLength : Nat := 255

/-- The errors of the package. -/
inductive ContractError where
  | invalidMetadata (text : String)
  | preconditionRequired
  | invalidPrecondition (text : String)
  | preconditionFailed (text : String)
  | invalidTransition (text : String)
  deriving DecidableEq

/-- The text of an error. -/
def ContractError.text : ContractError → String
  | .invalidMetadata text => "invalid distributed object metadata: " ++ text
  | .preconditionRequired => "object precondition is required"
  | .invalidPrecondition text => "invalid object precondition: " ++ text
  | .preconditionFailed text => "object precondition failed: " ++ text
  | .invalidTransition text => "invalid distributed object transition: " ++ text

/-- Letters and digits at both ends, other characters between them, 255 in all. -/
def boundedPattern (inner : Char → Bool) (value : String) : Bool :=
  match value.toList with
  | [] => false
  | c :: rest =>
      c.isAlphanum &&
        match rest.getLast? with
        | none => true
        | some last => last.isAlphanum && rest.dropLast.all inner && decide (rest.length ≤ 254)

def isIdentifierChar (c : Char) : Bool :=
  c.isAlphanum || c == '.' || c == '_' || c == ':' || c == '-'

/-- A pattern with more characters between the ends matches more. -/
theorem boundedPattern_mono {inner inner' : Char → Bool} {value : String}
    (more : ∀ c, inner c = true → inner' c = true) (matched : boundedPattern inner value = true) :
    boundedPattern inner' value = true := by
  unfold boundedPattern at matched ⊢
  split at matched
  · cases matched
  next c rest spelled =>
    cases ends : rest.getLast? with
    | none => simpa [ends, spelled] using matched
    | some last =>
        simp only [ends, Bool.and_eq_true, List.all_eq_true] at matched ⊢
        exact ⟨matched.1, ⟨matched.2.1.1, fun c member => more c (matched.2.1.2 c member)⟩,
          matched.2.2⟩

/-- A matched text holds characters of the pattern only. -/
theorem boundedPattern_chars {inner : Char → Bool} {value : String}
    (matched : boundedPattern inner value = true) :
    ∀ c ∈ value.toList, c.isAlphanum = true ∨ inner c = true := by
  unfold boundedPattern at matched
  split at matched
  · cases matched
  next c rest spelled =>
    rw [Bool.and_eq_true] at matched
    rw [spelled, List.forall_mem_cons]
    refine ⟨.inl matched.1, ?_⟩
    cases ends : rest.getLast? with
    | none => simp [List.getLast?_eq_none_iff.mp ends]
    | some last =>
        simp only [ends, Bool.and_eq_true, List.all_eq_true] at matched
        rw [← List.dropLast_append_getLast? last ends, List.forall_mem_append,
          List.forall_mem_singleton]
        exact ⟨fun d member => .inr (matched.2.1.2 d member), .inl matched.2.1.1⟩

def identifierPattern (value : String) : Bool := boundedPattern isIdentifierChar value

def validateIdentifier (field value : String) : List (Bool × String) :=
  [(value == "" || trimSpace value != value,
      field ++ " is required and must not have surrounding whitespace"),
    (decide (maxIdentifierLength < value.utf8ByteSize), field ++ " exceeds 255 bytes"),
    (!identifierPattern value, field ++ " must use letters, digits, dot, underscore, colon or " ++
      "hyphen and have alphanumeric ends")]

/-- The characters `unicode.IsControl` accepts. -/
def isControl (c : Char) : Bool :=
  decide (c.val ≤ 0x1f) || (decide (0x7f ≤ c.val) && decide (c.val ≤ 0x9f))

def validateOpaqueVersion (value : String) : List (Bool × String) :=
  [(value == "" || trimSpace value != value,
      "resource_version is required and must not have surrounding whitespace"),
    (decide (maxIdentifierLength < value.utf8ByteSize), "resource_version exceeds 255 bytes"),
    (value.toList.any fun c => isControl c || isSpace c,
      "resource_version contains whitespace or control characters")]

/-- The identifier passes its tests. -/
def IsIdentifier (value : String) : Prop := Passes (validateIdentifier "" value)

/-- The version passes its tests. -/
def IsOpaqueVersion (value : String) : Prop := Passes (validateOpaqueVersion value)

instance (value : String) : Decidable (IsIdentifier value) :=
  inferInstanceAs (Decidable (∀ check ∈ _, _))

instance (value : String) : Decidable (IsOpaqueVersion value) :=
  inferInstanceAs (Decidable (∀ check ∈ _, _))

@[simp] theorem passes_validateIdentifier {field value : String} :
    Passes (validateIdentifier field value) ↔ IsIdentifier value := by
  simp only [IsIdentifier, validateIdentifier, passes_cons]

@[simp] theorem passes_validateOpaqueVersion {value : String} :
    Passes (validateOpaqueVersion value) ↔ IsOpaqueVersion value := Iff.rfl

theorem IsIdentifier.nonempty {value : String} (identifier : IsIdentifier value) :
    value ≠ "" := by
  rintro rfl
  exact absurd identifier (by decide)

theorem IsOpaqueVersion.nonempty {value : String} (version : IsOpaqueVersion value) :
    value ≠ "" := by
  rintro rfl
  exact absurd version (by decide)

/-! ## The envelope -/

structure ObjectMetadata where
  objectID : String
  scopeID : String
  ownerScope : String
  generation : UInt64
  resourceVersion : String
  createdAt : Time
  updatedAt : Time
  deriving DecidableEq

def ObjectMetadata.checks (m : ObjectMetadata) : List (Bool × ContractError) :=
  relabel .invalidMetadata
    (validateIdentifier "object_id" m.objectID ++
      validateIdentifier "scope_id" m.scopeID ++
      validateIdentifier "owner_scope" m.ownerScope ++
      [(m.generation == 0, "generation must be positive")] ++
      validateOpaqueVersion m.resourceVersion ++
      [(Time.isZero m.createdAt || Time.isZero m.updatedAt,
          "created_at and updated_at are required"),
        (decide (m.updatedAt < m.createdAt), "updated_at precedes created_at")])

def ObjectMetadata.validate (m : ObjectMetadata) : Except ContractError Unit :=
  firstFailure m.checks

/-- A well-formed envelope. -/
structure ObjectMetadata.Valid (m : ObjectMetadata) : Prop where
  objectID : IsIdentifier m.objectID
  scopeID : IsIdentifier m.scopeID
  ownerScope : IsIdentifier m.ownerScope
  generation : m.generation ≠ 0
  resourceVersion : IsOpaqueVersion m.resourceVersion
  created : m.createdAt ≠ 0
  updated : m.updatedAt ≠ 0
  ordered : m.createdAt ≤ m.updatedAt

theorem ObjectMetadata.passes_checks {m : ObjectMetadata} : Passes m.checks ↔ m.Valid := by
  simp only [checks, passes_relabel, passes_append, passes_cons, passes_nil, and_true,
    passes_validateIdentifier, passes_validateOpaqueVersion, Bool.or_eq_false_iff, Time.isZero,
    beq_eq_false_iff_ne, decide_eq_false_iff_not, not_lt]
  constructor
  · rintro ⟨⟨⟨⟨⟨object, scope⟩, owner⟩, generation⟩, version⟩, ⟨created, updated⟩, ordered⟩
    exact ⟨object, scope, owner, generation, version, created, updated, ordered⟩
  · rintro ⟨object, scope, owner, generation, version, created, updated, ordered⟩
    exact ⟨⟨⟨⟨⟨object, scope⟩, owner⟩, generation⟩, version⟩, ⟨created, updated⟩, ordered⟩

/-! ## Preconditions -/

structure ObjectPrecondition where
  objectID : String
  resourceVersion : String
  generation : Option UInt64
  deriving DecidableEq

def ObjectPrecondition.validateAgainst (p : ObjectPrecondition) (current : ObjectMetadata) :
    Except ContractError Unit :=
  firstFailure
    ([(p.objectID == "" || p.resourceVersion == "", .preconditionRequired)] ++
      relabel .invalidPrecondition
        (validateIdentifier "object_id" p.objectID ++ validateOpaqueVersion p.resourceVersion ++
          [(p.generation == some 0, "generation must be positive when supplied")]) ++
      current.checks ++
      relabel .preconditionFailed
        [(p.objectID != current.objectID,
            "expected object " ++ quoted p.objectID ++ ", current object " ++
              quoted current.objectID),
          (p.resourceVersion != current.resourceVersion,
            "expected resource version " ++ quoted p.resourceVersion ++ ", current " ++
              quoted current.resourceVersion),
          (p.generation.any fun generation => generation != current.generation,
            "expected generation " ++ p.generation.elim "" decimal ++ ", current " ++
              decimal current.generation)])

/-- **A precondition is accepted when it names the current object.** -/
theorem ObjectPrecondition.validateAgainst_ok {p : ObjectPrecondition} {current : ObjectMetadata} :
    p.validateAgainst current = .ok () ↔ current.Valid ∧ p.objectID = current.objectID ∧
      p.resourceVersion = current.resourceVersion ∧
      ∀ generation, p.generation = some generation → generation = current.generation := by
  simp only [validateAgainst, firstFailure_passes, passes_append, passes_relabel, passes_cons,
    passes_nil, and_true, passes_validateIdentifier, passes_validateOpaqueVersion,
    ObjectMetadata.passes_checks, Bool.or_eq_false_iff, beq_eq_false_iff_ne, bne_eq_false_iff_eq]
  have guarded : (p.generation.any fun generation => generation != current.generation) = false ↔
      ∀ generation, p.generation = some generation → generation = current.generation := by
    cases p.generation <;> simp
  rw [guarded]
  constructor
  · rintro ⟨⟨_, valid⟩, object, version, generation⟩
    exact ⟨valid, object, version, generation⟩
  · rintro ⟨valid, object, version, generation⟩
    have identifier : IsIdentifier p.objectID := object ▸ valid.objectID
    have version' : IsOpaqueVersion p.resourceVersion := version ▸ valid.resourceVersion
    refine ⟨⟨⟨⟨identifier.nonempty, version'.nonempty⟩, ⟨identifier, version'⟩, ?_⟩,
      valid⟩, object, version, generation⟩
    intro zero
    exact valid.generation (generation 0 zero).symm

/-! ## Successors -/

def maxGeneration : UInt64 := 18446744073709551615

/-- The generation a successor must carry. -/
def wantGeneration (current : ObjectMetadata) (desiredChanged : Bool) : UInt64 :=
  if desiredChanged then current.generation + 1 else current.generation

def validateSuccessor (current next : ObjectMetadata) (desiredChanged : Bool) :
    Except ContractError Unit :=
  firstFailure
    (relabel (fun e => .invalidTransition ("current: " ++ ContractError.text e)) current.checks ++
      relabel (fun e => .invalidTransition ("next: " ++ ContractError.text e)) next.checks ++
      relabel .invalidTransition
        [(next.objectID != current.objectID, "object_id is immutable"),
          (next.createdAt != current.createdAt, "created_at is immutable"),
          (decide (next.updatedAt < current.updatedAt), "updated_at moved backwards"),
          (next.resourceVersion == current.resourceVersion,
            "resource_version must change on every stored update"),
          (!desiredChanged && (next.scopeID != current.scopeID ||
              next.ownerScope != current.ownerScope),
            "scope ownership changes require a desired generation change"),
          (desiredChanged && current.generation == maxGeneration, "generation overflow"),
          (next.generation != wantGeneration current desiredChanged,
            "generation is " ++ decimal next.generation ++ ", want " ++
              decimal (wantGeneration current desiredChanged))])

/-- The next envelope follows the current one. -/
structure IsSuccessor (current next : ObjectMetadata) (desiredChanged : Bool) : Prop where
  validCurrent : current.Valid
  validNext : next.Valid
  objectID : next.objectID = current.objectID
  createdAt : next.createdAt = current.createdAt
  updatedAt : current.updatedAt ≤ next.updatedAt
  resourceVersion : next.resourceVersion ≠ current.resourceVersion
  scope : desiredChanged = false →
    next.scopeID = current.scopeID ∧ next.ownerScope = current.ownerScope
  room : desiredChanged = true → current.generation ≠ maxGeneration
  generation : next.generation = wantGeneration current desiredChanged

/-- **An envelope is accepted as the next one when it follows the current one.** -/
theorem validateSuccessor_ok {current next : ObjectMetadata} {desiredChanged : Bool} :
    validateSuccessor current next desiredChanged = .ok () ↔
      IsSuccessor current next desiredChanged := by
  simp only [validateSuccessor, firstFailure_passes, passes_append, passes_relabel, passes_cons,
    passes_nil, and_true, ObjectMetadata.passes_checks, bne_eq_false_iff_eq, beq_eq_false_iff_ne,
    decide_eq_false_iff_not, not_lt]
  have owned : (!desiredChanged && (next.scopeID != current.scopeID ||
      next.ownerScope != current.ownerScope)) = false ↔ (desiredChanged = false →
        next.scopeID = current.scopeID ∧ next.ownerScope = current.ownerScope) := by
    cases desiredChanged <;> simp
  have roomy : (desiredChanged && current.generation == maxGeneration) = false ↔
      (desiredChanged = true → current.generation ≠ maxGeneration) := by
    cases desiredChanged <;> simp
  rw [owned, roomy]
  constructor
  · rintro ⟨⟨valid, valid'⟩, object, created, updated, version, scope, room, generation⟩
    exact ⟨valid, valid', object, created, updated, version, scope, room, generation⟩
  · rintro ⟨valid, valid', object, created, updated, version, scope, room, generation⟩
    exact ⟨⟨valid, valid'⟩, object, created, updated, version, scope, room, generation⟩

end ControlCenter.CoreContracts
