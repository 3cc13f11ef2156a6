import Mathlib.Data.List.Basic

/-!
# Checks made in order

A validator of the source is a sequence of tests, each with the error it returns. The
first test that fails decides (`firstFailure`), so a value passes exactly when no test
fails (`firstFailure_ok`). A chain of fallible steps succeeds when each of them does
(`except_bind_ok`), and so does a fallible step for each item of a list (`succeeds_mapM`).
-/

set_option autoImplicit false

namespace ControlCenter.Library

universe v

variable {ε : Type*}

/-- The error of the first test that fails. -/
def firstFailure : List (Bool × ε) → Except ε Unit
  | [] => .ok ()
  | (failed, e) :: rest => if failed = true then .error e else firstFailure rest

theorem firstFailure_ok {checks : List (Bool × ε)} :
    firstFailure checks = .ok () ↔ ∀ check ∈ checks, check.1 = false := by
  induction checks with
  | nil => simp [firstFailure]
  | cons check rest ih =>
      obtain ⟨failed, e⟩ := check
      cases failed <;> simp [firstFailure, ih]

/-- No test of the list fails. -/
def Passes (checks : List (Bool × ε)) : Prop := ∀ check ∈ checks, check.1 = false

theorem firstFailure_passes {checks : List (Bool × ε)} :
    firstFailure checks = .ok () ↔ Passes checks := firstFailure_ok

@[simp] theorem passes_nil : Passes ([] : List (Bool × ε)) := by simp [Passes]

@[simp] theorem passes_cons {check : Bool × ε} {rest : List (Bool × ε)} :
    Passes (check :: rest) ↔ check.1 = false ∧ Passes rest := List.forall_mem_cons

@[simp] theorem passes_append {first second : List (Bool × ε)} :
    Passes (first ++ second) ↔ Passes first ∧ Passes second := List.forall_mem_append

theorem passes_map {ι : Type*} {items : List ι} {f : ι → Bool × ε} :
    Passes (items.map f) ↔ ∀ item ∈ items, (f item).1 = false := List.forall_mem_map

/-- The same tests with other errors. -/
def relabel {ε' : Type*} (f : ε → ε') (checks : List (Bool × ε)) : List (Bool × ε') :=
  checks.map fun (failed, e) => (failed, f e)

@[simp] theorem passes_relabel {ε' : Type*} {f : ε → ε'} {checks : List (Bool × ε)} :
    Passes (relabel f checks) ↔ Passes checks := by
  simp [relabel, Passes]

/-- Tests of each item, whose errors name its index. -/
theorem passes_flatMap_zipIdx {ι : Type*} {items : List ι} {checks : ι × Nat → List (Bool × ε)}
    {P : ι → Prop} (each : ∀ item index, Passes (checks (item, index)) ↔ P item) :
    Passes (items.zipIdx.flatMap checks) ↔ ∀ item ∈ items, P item := by
  have flat : Passes (items.zipIdx.flatMap checks) ↔
      ∀ entry ∈ items.zipIdx, Passes (checks entry) := List.forall_mem_flatMap
  have own : ∀ entry : ι × Nat, Passes (checks entry) ↔ P entry.1 := fun entry =>
    each entry.1 entry.2
  simp only [flat, own]
  conv_rhs => rw [← List.zipIdx_map_fst 0 items]
  exact List.forall_mem_map.symm

/-- The same, for tests that take the index as an argument of their own. -/
theorem passes_zipIdx {ι : Type*} {items : List ι} {checks : ι → Nat → List (Bool × ε)}
    {P : ι → Prop} (each : ∀ item index, Passes (checks item index) ↔ P item) :
    Passes (items.zipIdx.flatMap fun (item, index) => checks item index) ↔
      ∀ item ∈ items, P item :=
  passes_flatMap_zipIdx each

/-- Tests of each item of a loop that refuses an item whose key was seen. -/
def distinctChecks {α κ : Type*} [BEq κ] (key : α → κ) (before after : Nat → α → List (Bool × ε))
    (repeated : α → ε) : (index : Nat) → (seen : List κ) → List α → List (Bool × ε)
  | _, _, [] => []
  | index, seen, a :: rest =>
      before index a ++ [(seen.contains (key a), repeated a)] ++ after index a ++
        distinctChecks key before after repeated (index + 1) (key a :: seen) rest

/-- One turn of a loop that keeps the keys it has seen. -/
theorem unseen_cons {α κ : Type*} {key : α → κ} {P : α → Prop} {a : α} {rest : List α}
    {seen : List κ} :
    (P a ∧ key a ∉ seen) ∧ (∀ b ∈ rest, P b) ∧ (rest.map key).Nodup ∧
        (∀ b ∈ rest, key b ∉ key a :: seen) ↔
      (∀ b ∈ a :: rest, P b) ∧ ((a :: rest).map key).Nodup ∧ ∀ b ∈ a :: rest, key b ∉ seen := by
  simp only [List.forall_mem_cons, List.map_cons, List.nodup_cons]
  simp only [List.mem_cons, not_or]
  constructor
  · rintro ⟨⟨own, fresh⟩, others, distinct, apart⟩
    refine ⟨⟨own, others⟩, ⟨?_, distinct⟩, fresh, fun b listed => (apart b listed).2⟩
    intro again
    obtain ⟨b, listed, same⟩ := List.mem_map.mp again
    exact (apart b listed).1 same
  · rintro ⟨⟨own, others⟩, ⟨once, distinct⟩, fresh, apart⟩
    refine ⟨⟨own, fresh⟩, others, distinct, fun b listed => ⟨?_, apart b listed⟩⟩
    intro same
    exact once (List.mem_map.mpr ⟨b, listed, same⟩)

/-- A loop that tests each item and refuses one whose key it has seen. -/
theorem passes_unseen {α κ : Type*} {key : α → κ} {P : α → Prop}
    {checks : Nat → List κ → List α → List (Bool × ε)}
    (done : ∀ index seen, checks index seen [] = [])
    (turn : ∀ index seen a rest, Passes (checks index seen (a :: rest)) ↔
      (P a ∧ key a ∉ seen) ∧ Passes (checks (index + 1) (key a :: seen) rest))
    {index : Nat} {seen : List κ} {items : List α} :
    Passes (checks index seen items) ↔
      (∀ a ∈ items, P a) ∧ (items.map key).Nodup ∧ ∀ a ∈ items, key a ∉ seen := by
  induction items generalizing index seen with
  | nil => simp [done]
  | cons a rest ih => rw [turn, ih, unseen_cons]

/-- An error is that of a test that fails. -/
theorem firstFailure_error {checks : List (Bool × ε)} {e : ε}
    (failed : firstFailure checks = .error e) : (true, e) ∈ checks := by
  induction checks with
  | nil => cases failed
  | cons check rest ih =>
      obtain ⟨bad, other⟩ := check
      cases bad with
      | false => exact List.mem_cons_of_mem _ (ih failed)
      | true =>
          cases failed
          exact List.mem_cons_self

/-- What a successful chain of two steps leaves. -/
theorem except_bind_ok {α β : Type v} {x : Except ε α} {f : α → Except ε β} {b : β} :
    x >>= f = .ok b ↔ ∃ a, x = .ok a ∧ f a = .ok b := by
  cases x with
  | error e => simp [bind, Except.bind]
  | ok a => simp [bind, Except.bind]

/-- A check before another step. -/
theorem except_check_ok {β : Type} {x : Except ε Unit} {f : Unit → Except ε β} {b : β} :
    x >>= f = .ok b ↔ x = .ok () ∧ f () = .ok b := by
  cases x with
  | error e => simp [bind, Except.bind]
  | ok a => simp [bind, Except.bind]

/-- A step whose result is converted. -/
theorem except_map_ok {α β : Type*} {x : Except ε α} {f : α → β} {b : β} :
    x.map f = .ok b ↔ ∃ a, x = .ok a ∧ f a = b := by
  cases x with
  | error e => simp [Except.map]
  | ok a => simp [Except.map]

/-- A step whose error is wrapped. -/
@[simp] theorem mapError_ok {α : Type*} {ε' : Type*} {f : ε → ε'} {x : Except ε α} {a : α} :
    x.mapError f = .ok a ↔ x = .ok a := by
  cases x with
  | error e => simp [Except.mapError]
  | ok b => simp [Except.mapError]

/-- The computation ends with a value. -/
def Succeeds {α : Type*} (x : Except ε α) : Prop := ∃ a, x = .ok a

@[simp] theorem succeeds_ok {α : Type*} (a : α) : Succeeds (.ok a : Except ε α) := ⟨a, rfl⟩

@[simp] theorem succeeds_pure {α : Type v} (a : α) : Succeeds (pure a : Except ε α) := ⟨a, rfl⟩

@[simp] theorem not_succeeds_error {α : Type*} (e : ε) : ¬ Succeeds (.error e : Except ε α) := by
  rintro ⟨a, same⟩
  cases same

theorem succeeds_unit {x : Except ε Unit} : Succeeds x ↔ x = .ok () :=
  ⟨fun ⟨(), same⟩ => same, fun same => ⟨(), same⟩⟩

theorem succeeds_bind {α β : Type v} {x : Except ε α} {f : α → Except ε β} :
    Succeeds (x >>= f) ↔ ∃ a, x = .ok a ∧ Succeeds (f a) := by
  cases x with
  | error e => simp [bind, Except.bind]
  | ok a => simp [bind, Except.bind]

/-- Two steps of which the second succeeds after every value of the first, or after none. -/
theorem succeeds_bind_iff {α β : Type v} {x : Except ε α} {f : α → Except ε β} {p : Prop}
    (then_ : ∀ a, Succeeds (f a) ↔ p) : Succeeds (x >>= f) ↔ Succeeds x ∧ p := by
  rw [succeeds_bind]
  constructor
  · rintro ⟨a, same, after⟩
    exact ⟨⟨a, same⟩, (then_ a).mp after⟩
  · rintro ⟨⟨a, same⟩, after⟩
    exact ⟨a, same, (then_ a).mpr after⟩

theorem succeeds_mapM {α β : Type v} {f : α → Except ε β} {items : List α} :
    Succeeds (items.mapM f) ↔ ∀ item ∈ items, Succeeds (f item) := by
  induction items with
  | nil => simp
  | cons item items ih =>
      rw [List.mapM_cons, List.forall_mem_cons, ← ih]
      refine succeeds_bind_iff fun b => ?_
      rw [succeeds_bind_iff (p := True) fun _ => by simp, and_true]

end ControlCenter.Library
