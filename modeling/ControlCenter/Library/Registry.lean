import ControlCenter.Library.Checks
import Mathlib.Data.List.Nodup

/-!
# Registering keys and looking them up

A validator of several records first goes over them, tests each and claims the keys that no
two records may share; the error of a key that is taken names its first owner. Afterwards the
records are looked up by their keys.

The first part passes exactly when the tests do and no key is claimed twice
(`passes_registrationChecks`). When the keys of a list differ, looking one up finds the one
record that has it, wherever it stands (`find?_key`), and so the order of the list does not
matter (`find?_key_perm`).
-/

set_option autoImplicit false

namespace ControlCenter.Library

variable {ε κ α : Type*}

/-! ## Registrations -/

/-- One step of the first part: tests, or a key claimed by a path. -/
inductive Registration (κ ε : Type*) where
  | tests (checks : List (Bool × ε))
  | claim (key : κ) (path : String) (taken : String → ε)

/-- The key that a step claims. -/
def Registration.key : Registration κ ε → Option κ
  | .tests _ => none
  | .claim key _ _ => some key

/-- The tests of a step pass. -/
def Registration.Good : Registration κ ε → Prop
  | .tests checks => Passes checks
  | .claim _ _ _ => True

/-- The tests of the first part, after keys that were claimed before. -/
def registrationChecks [BEq κ] : (seen : List (κ × String)) → List (Registration κ ε) →
    List (Bool × ε)
  | _, [] => []
  | seen, .tests checks :: rest => checks ++ registrationChecks seen rest
  | seen, .claim key path taken :: rest =>
      ((seen.lookup key).isSome, taken ((seen.lookup key).getD "")) ::
        registrationChecks (seen ++ [(key, path)]) rest

theorem lookup_isSome [BEq κ] [LawfulBEq κ] {seen : List (κ × String)} {key : κ} :
    (seen.lookup key).isSome = false ↔ key ∉ seen.map Prod.fst := by
  induction seen with
  | nil => simp
  | cons entry rest ih =>
      obtain ⟨other, path⟩ := entry
      rw [List.lookup_cons, List.map_cons, List.mem_cons, not_or]
      by_cases same : key = other
      · simp [same]
      · rw [beq_false_of_ne same]
        simp only [ih, same, not_false_eq_true, true_and]

/-- **The first part passes when the tests do and no key is claimed twice.** -/
theorem passes_registrationChecks [BEq κ] [LawfulBEq κ] {steps : List (Registration κ ε)}
    {seen : List (κ × String)} :
    Passes (registrationChecks seen steps) ↔ (∀ step ∈ steps, step.Good) ∧
      (steps.filterMap Registration.key).Nodup ∧
      ∀ key ∈ steps.filterMap Registration.key, key ∉ seen.map Prod.fst := by
  induction steps generalizing seen with
  | nil => simp [registrationChecks]
  | cons step rest ih =>
      rw [List.forall_mem_cons]
      cases step with
      | tests checks =>
          rw [registrationChecks, passes_append, ih,
            List.filterMap_cons_none (show (Registration.tests checks : Registration κ ε).key =
              none from rfl), and_assoc]
          exact Iff.rfl
      | claim key path taken =>
          rw [registrationChecks, passes_cons, ih, lookup_isSome,
            List.filterMap_cons_some (show (Registration.claim key path taken).key = some key
              from rfl), List.nodup_cons, List.forall_mem_cons]
          simp only [List.map_append, List.map_cons, List.map_nil, List.mem_append,
            List.mem_singleton, not_or]
          constructor
          · rintro ⟨fresh, good, distinct, apart⟩
            exact ⟨⟨trivial, good⟩, ⟨fun again => (apart key again).2 rfl, distinct⟩, fresh,
              fun other listed => (apart other listed).1⟩
          · rintro ⟨⟨_, good⟩, ⟨once, distinct⟩, fresh, apart⟩
            refine ⟨fresh, good, distinct, fun other listed => ⟨apart other listed, ?_⟩⟩
            rintro rfl
            exact once listed

/-- The first part over records, each with tests and keys of its own. -/
theorem passes_registrations [BEq κ] [LawfulBEq κ] {items : List α}
    {steps : α → List (Registration κ ε)} (good : α → Prop) (keys : α → List κ)
    (tests : ∀ item, (∀ step ∈ steps item, step.Good) ↔ good item)
    (claims : ∀ item, (steps item).filterMap Registration.key = keys item)
    (own : ∀ item, (keys item).Nodup) :
    Passes (registrationChecks [] (items.flatMap steps)) ↔
      (∀ item ∈ items, good item) ∧ items.Pairwise fun a b => List.Disjoint (keys a) (keys b) := by
  rw [passes_registrationChecks, List.forall_mem_flatMap, List.filterMap_flatMap,
    List.nodup_flatMap]
  simp only [claims, tests, own, List.map_nil, List.not_mem_nil, not_false_eq_true, implies_true,
    and_true, true_and]

/-! ## Looking up -/

/-- Tests of a record that must exist. -/
def foundChecks (found : Option α) (missing : ε) (checks : α → List (Bool × ε)) :
    List (Bool × ε) :=
  match found with
  | none => [(true, missing)]
  | some a => checks a

@[simp] theorem passes_foundChecks {found : Option α} {missing : ε}
    {checks : α → List (Bool × ε)} :
    Passes (foundChecks found missing checks) ↔ ∃ a, found = some a ∧ Passes (checks a) := by
  cases found <;> simp [foundChecks]

theorem find?_key [DecidableEq κ] {key : α → κ} {items : List α}
    (distinct : (items.map key).Nodup) {k : κ} {a : α} :
    (items.find? fun item => key item == k) = some a ↔ a ∈ items ∧ key a = k := by
  constructor
  · intro found
    exact ⟨List.mem_of_find?_eq_some found, by simpa using List.find?_some found⟩
  · rintro ⟨listed, rfl⟩
    obtain ⟨b, found⟩ : ∃ b, (items.find? fun item => key item == key a) = some b :=
      Option.isSome_iff_exists.mp (List.find?_isSome.mpr ⟨a, listed, by simp⟩)
    have same : key b = key a := by simpa using List.find?_some found
    rw [found, List.inj_on_of_nodup_map distinct (List.mem_of_find?_eq_some found) listed same]

theorem find?_key_perm [DecidableEq κ] {key : α → κ} {items items' : List α}
    (perm : items.Perm items') (distinct : (items.map key).Nodup) (k : κ) :
    (items.find? fun item => key item == k) = items'.find? fun item => key item == k := by
  have distinct' : (items'.map key).Nodup := (perm.map key).nodup_iff.mp distinct
  refine Option.ext fun a => ?_
  rw [find?_key distinct, find?_key distinct', perm.mem_iff]

end ControlCenter.Library
