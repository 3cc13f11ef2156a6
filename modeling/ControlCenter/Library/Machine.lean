import Mathlib.Data.List.Basic

/-!
# Machines that answer operations

A machine answers each operation with a result and moves to a next state. A run is a
list of operations from a start state. Each operation of a run leaves an event: the
state before it, the operation, the result and the state after it.

What every step keeps, every run keeps (`exec_keeps`). The events of a run are exactly its
steps, split at the operation (`mem_trace`). When a run is compared with something else, it
is good exactly until its first bad step (`trace_good_iff`).
-/

set_option autoImplicit false

namespace ControlCenter.Library

universe u v w

/-- A machine answers every operation in every state. -/
structure Machine (State : Type u) (Op : Type v) (Result : Type w) where
  step : State → Op → State × Result

/-- One operation of a run, with the states around it. -/
structure Event (State : Type u) (Op : Type v) (Result : Type w) where
  before : State
  op : Op
  result : Result
  after : State

namespace Machine

variable {State : Type u} {Op : Type v} {Result : Type w}
variable (M : Machine State Op Result)

/-- The state after one operation. -/
def next (s : State) (op : Op) : State := (M.step s op).1

/-- The result of one operation. -/
def answer (s : State) (op : Op) : Result := (M.step s op).2

/-- The state a list of operations leads to. -/
def exec : State → List Op → State
  | s, [] => s
  | s, op :: ops => exec (M.next s op) ops

/-- The event of one operation. -/
def event (s : State) (op : Op) : Event State Op Result where
  before := s
  op := op
  result := M.answer s op
  after := M.next s op

/-- The events of a run, in order. -/
def trace : State → List Op → List (Event State Op Result)
  | _, [] => []
  | s, op :: ops => M.event s op :: trace (M.next s op) ops

/-- The states some run from `init` leads to. -/
def Reachable (init s : State) : Prop := ∃ ops, M.exec init ops = s

variable {M}

@[simp] theorem exec_nil (s : State) : M.exec s [] = s := rfl

@[simp] theorem exec_cons (s : State) (op : Op) (ops : List Op) :
    M.exec s (op :: ops) = M.exec (M.next s op) ops := rfl

theorem exec_append (s : State) (first second : List Op) :
    M.exec s (first ++ second) = M.exec (M.exec s first) second := by
  induction first generalizing s with
  | nil => rfl
  | cons op ops ih => exact ih (M.next s op)

theorem exec_concat (s : State) (ops : List Op) (op : Op) :
    M.exec s (ops ++ [op]) = M.next (M.exec s ops) op :=
  exec_append s ops [op]

@[simp] theorem trace_nil (s : State) : M.trace s [] = [] := rfl

@[simp] theorem trace_cons (s : State) (op : Op) (ops : List Op) :
    M.trace s (op :: ops) = M.event s op :: M.trace (M.next s op) ops := rfl

theorem trace_append (s : State) (first second : List Op) :
    M.trace s (first ++ second) = M.trace s first ++ M.trace (M.exec s first) second := by
  induction first generalizing s with
  | nil => rfl
  | cons op ops ih =>
      simp only [List.cons_append, trace_cons, exec_cons]
      rw [ih (M.next s op)]

theorem trace_concat (s : State) (ops : List Op) (op : Op) :
    M.trace s (ops ++ [op]) = M.trace s ops ++ [M.event (M.exec s ops) op] :=
  trace_append s ops [op]

/-- The trace of a run around two of its operations. -/
theorem trace_around (s : State) (earlier : List Op) (op : Op) (middle : List Op) (last : Op)
    (later : List Op) :
    M.trace s (earlier ++ op :: (middle ++ last :: later)) =
      M.trace s earlier ++ M.event (M.exec s earlier) op ::
        (M.trace (M.next (M.exec s earlier) op) middle ++
          M.event (M.exec (M.next (M.exec s earlier) op) middle) last ::
            M.trace (M.next (M.exec (M.next (M.exec s earlier) op) middle) last) later) := by
  simp only [trace_append, trace_cons]

/-- **The events of a run are its steps.** -/
theorem mem_trace {s : State} {ops : List Op} {e : Event State Op Result} :
    e ∈ M.trace s ops ↔
      ∃ earlier op later, ops = earlier ++ op :: later ∧ e = M.event (M.exec s earlier) op := by
  induction ops generalizing s with
  | nil => simp
  | cons op ops ih =>
      rw [trace_cons, List.mem_cons, ih]
      constructor
      · rintro (rfl | ⟨earlier, op', later, rfl, rfl⟩)
        · exact ⟨[], op, ops, rfl, rfl⟩
        · exact ⟨op :: earlier, op', later, rfl, rfl⟩
      · rintro ⟨_ | ⟨first, earlier⟩, op', later, split, rfl⟩
        · cases split
          exact .inl rfl
        · cases split
          exact .inr ⟨earlier, op', later, rfl, rfl⟩

/-- A trace that starts with an event starts with its step. -/
theorem trace_eq_cons {s : State} {ops : List Op} {e : Event State Op Result}
    {events : List (Event State Op Result)} (split : M.trace s ops = e :: events) :
    ∃ op rest, ops = op :: rest ∧ e = M.event s op ∧ M.trace (M.next s op) rest = events := by
  cases ops with
  | nil => cases split
  | cons op rest =>
      rw [trace_cons, List.cons.injEq] at split
      exact ⟨op, rest, rfl, split.1.symm, split.2⟩

/-- A trace splits where its operations do. -/
theorem trace_eq_append {s : State} {ops : List Op} {first second : List (Event State Op Result)}
    (split : M.trace s ops = first ++ second) :
    ∃ earlier later, ops = earlier ++ later ∧ M.trace s earlier = first ∧
      M.trace (M.exec s earlier) later = second := by
  induction first generalizing s ops with
  | nil => exact ⟨[], ops, rfl, rfl, split⟩
  | cons e events ih =>
      obtain ⟨op, rest, rfl, rfl, tail⟩ := trace_eq_cons split
      obtain ⟨earlier, later, rfl, same, others⟩ := ih tail
      exact ⟨op :: earlier, later, rfl, by rw [trace_cons, same], others⟩

/-- Two events of a trace are two steps of the run. -/
theorem trace_eq_around {s : State} {ops : List Op} {e e' : Event State Op Result}
    {before middle after : List (Event State Op Result)}
    (split : M.trace s ops = before ++ e :: (middle ++ e' :: after)) :
    ∃ earlier op between op', M.trace s earlier = before ∧ e = M.event (M.exec s earlier) op ∧
      M.trace (M.next (M.exec s earlier) op) between = middle ∧
      e' = M.event (M.exec (M.next (M.exec s earlier) op) between) op' := by
  obtain ⟨earlier, later, _, first, rest⟩ := trace_eq_append split
  obtain ⟨op, later, rfl, same, rest⟩ := trace_eq_cons rest
  obtain ⟨between, last, rfl, second, rest⟩ := trace_eq_append rest
  obtain ⟨op', last, rfl, same', _⟩ := trace_eq_cons rest
  exact ⟨earlier, op, between, op', first, same, second, same'⟩

theorem reachable_init (init : State) : M.Reachable init init := ⟨[], rfl⟩

theorem Reachable.exec {init s : State} (reachable : M.Reachable init s) (ops : List Op) :
    M.Reachable init (M.exec s ops) := by
  obtain ⟨earlier, rfl⟩ := reachable
  exact ⟨earlier ++ ops, exec_append init earlier ops⟩

theorem Reachable.next {init s : State} (reachable : M.Reachable init s) (op : Op) :
    M.Reachable init (M.next s op) :=
  reachable.exec [op]

/-- **What every step keeps, every run keeps.** -/
theorem exec_keeps {inv : State → Prop} (keeps : ∀ s op, inv s → inv (M.next s op))
    {s : State} (start : inv s) (ops : List Op) : inv (M.exec s ops) := by
  induction ops generalizing s with
  | nil => exact start
  | cons op ops ih => exact ih (keeps s op start)

/-- **A run is good up to its first bad step.** When an invariant of the state and of the
operations to come makes each step good exactly if it is not bad, and good steps keep it,
all events of a run are good exactly when none is bad. -/
theorem trace_good_iff {inv : State → List Op → Prop} {good : Event State Op Result → Prop}
    {bad : State → Op → Prop}
    (keeps : ∀ s op ops, inv s (op :: ops) → ¬ bad s op →
      good (M.event s op) ∧ inv (M.next s op) ops)
    (sharp : ∀ s op ops, inv s (op :: ops) → bad s op → ¬ good (M.event s op))
    {s : State} {ops : List Op} (start : inv s ops) :
    (∀ e ∈ M.trace s ops, good e) ↔ ∀ e ∈ M.trace s ops, ¬ bad e.before e.op := by
  induction ops generalizing s with
  | nil => simp
  | cons op ops ih =>
      rw [trace_cons, List.forall_mem_cons, List.forall_mem_cons]
      by_cases isBad : bad s op
      · exact iff_of_false (fun all => sharp s op ops start isBad all.1) fun none => none.1 isBad
      · obtain ⟨isGood, kept⟩ := keeps s op ops start isBad
        exact and_congr (iff_of_true isGood isBad) (ih kept)

end Machine

end ControlCenter.Library
