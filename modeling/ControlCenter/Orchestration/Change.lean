import ControlCenter.Library.Machine
import ControlCenter.Orchestration.Policy

/-!
# The change machine

`internal/orchestration/change`: a change moves from its policy decision through
approvals to its execution. Every accepted approval and every accepted transition adds
one to the version, which wraps at 64 bits as in the source. The mutex of the machine has
no counterpart: every method runs as one step, so the machine is its snapshot.

Transitions only lead forward (`State.distance_lt`), so no change moves for ever. Over every run
of calls the state agrees with the decision and the approvals (`exec_consistent`), and the
accepted calls form one line (`accepted_calls_in_line`): no caller writes over another, and no
approval is lost or kept from a call that failed.
-/

set_option autoImplicit false

namespace ControlCenter.Orchestration.Change

open Library Policy

inductive State where
  | pendingApproval
  | approved
  | queued
  | executing
  | verifying
  | succeeded
  | failed
  | cancelled
  | rejected
  deriving DecidableEq

/-- The text of a state. -/
def State.text : State → String
  | .pendingApproval => "pending_approval"
  | .approved => "approved"
  | .queued => "queued"
  | .executing => "executing"
  | .verifying => "verifying"
  | .succeeded => "succeeded"
  | .failed => "failed"
  | .cancelled => "cancelled"
  | .rejected => "rejected"

structure Snapshot where
  id : String
  action : String
  requester : String
  revisionID : String
  risk : Risk
  state : State
  decision : Decision
  approvals : List Approval
  version : UInt64
  updatedAt : Time
  deriving DecidableEq

/-- The errors of the machine. -/
inductive ChangeError where
  | versionConflict (expected current : UInt64)
  | cannotApprove (state : State)
  | invalidTransition (source target : State)
  | message (text : String)
  deriving DecidableEq

/-- The text of an error. -/
def ChangeError.text : ChangeError → String
  | .versionConflict expected current =>
      "change version conflict: expected " ++ decimal expected ++ ", current " ++ decimal current
  | .cannotApprove state => "invalid change transition: cannot approve from " ++ state.text
  | .invalidTransition source target =>
      "invalid change transition: " ++ source.text ++ " -> " ++ target.text
  | .message text => text

/-- The state a decision puts a new change in. -/
def initialState (decision : Decision) : State :=
  if decision.effect = .allow then
    if 0 < decision.requirement.minimum then .pendingApproval else .approved
  else .rejected

def new (id action requester revisionID : String) (decision : Decision) (now : Time) :
    Except ChangeError Snapshot :=
  if id = "" ∨ action = "" ∨ requester = "" then
    .error (.message "change id, action, and requester are required")
  else if Time.isZero now = true then .error (.message "change time is required")
  else
    match decision.validate with
    | .error text => .error (.message ("policy decision: " ++ text))
    | .ok () =>
        .ok ⟨id, action, requester, revisionID, decision.risk, initialState decision, decision,
          [], 1, now⟩

def allowed : State → State → Bool
  | .pendingApproval, .cancelled | .pendingApproval, .rejected => true
  | .approved, .queued | .approved, .cancelled => true
  | .queued, .executing | .queued, .cancelled | .queued, .failed => true
  | .executing, .verifying | .executing, .failed | .executing, .cancelled => true
  | .verifying, .succeeded | .verifying, .failed => true
  | _, _ => false

namespace Snapshot

/-- The change once an approval is appended. -/
def withApproval (m : Snapshot) (approval : Approval) (now : Time) : Snapshot :=
  { m with
    approvals := m.approvals ++ [approval]
    state :=
      if checkApprovals m.requester m.decision.requirement (m.approvals ++ [approval]) = .ok () then
        .approved
      else m.state
    version := m.version + 1
    updatedAt := now }

def approve (m : Snapshot) (approval : Approval) (expectedVersion : UInt64) (now : Time) :
    Except ChangeError Snapshot :=
  if m.version ≠ expectedVersion then .error (.versionConflict expectedVersion m.version)
  else if m.state ≠ .pendingApproval then .error (.cannotApprove m.state)
  else .ok (m.withApproval approval now)

/-- The change in another state, one version later. -/
def moved (m : Snapshot) (target : State) (now : Time) : Snapshot :=
  { m with state := target, version := m.version + 1, updatedAt := now }

@[simp] theorem moved_state (m : Snapshot) (target : State) (now : Time) :
    (m.moved target now).state = target := rfl

def transition (m : Snapshot) (target : State) (expectedVersion : UInt64) (now : Time) :
    Except ChangeError Snapshot :=
  if m.version ≠ expectedVersion then .error (.versionConflict expectedVersion m.version)
  else if allowed m.state target = false then .error (.invalidTransition m.state target)
  else .ok (m.moved target now)

theorem approve_eq_ok {m m' : Snapshot} {approval : Approval} {expectedVersion : UInt64}
    {now : Time} :
    m.approve approval expectedVersion now = .ok m' ↔
      m.version = expectedVersion ∧ m.state = .pendingApproval ∧
        m' = m.withApproval approval now := by
  unfold approve
  split
  · next other => simp [other]
  · next same =>
      split
      · next other => simp [other]
      · next pending => simp [not_not.mp same, not_not.mp pending, eq_comm]

/-- At its own version, a change moves along the allowed transitions. -/
@[simp] theorem transition_self (m : Snapshot) (target : State) (now : Time) :
    m.transition target m.version now =
      if allowed m.state target = true then .ok (m.moved target now)
      else .error (.invalidTransition m.state target) := by
  unfold transition
  cases allowed m.state target <;> simp

end Snapshot

theorem new_eq_ok {id action requester revisionID : String} {decision : Decision} {now : Time}
    {m : Snapshot} :
    new id action requester revisionID decision now = .ok m ↔
      (id ≠ "" ∧ action ≠ "" ∧ requester ≠ "") ∧ now ≠ 0 ∧ decision.validate = .ok () ∧
        m = ⟨id, action, requester, revisionID, decision.risk, initialState decision, decision,
          [], 1, now⟩ := by
  unfold new
  split
  · next missing =>
      refine iff_of_false nofun ?_
      rintro ⟨⟨named, acted, asked⟩, -⟩
      rcases missing with same | same | same
      · exact named same
      · exact acted same
      · exact asked same
  · next present =>
      rw [not_or, not_or] at present
      split
      · next zero =>
          rw [Time.isZero_iff] at zero
          simp [zero]
      · next set =>
          rw [Time.isZero_iff] at set
          cases decision.validate with
          | error text => simp
          | ok => simp [present, set, eq_comm]

/-! ## Transitions lead forward -/

/-- How many transitions a change can still make. -/
def State.distance : State → Nat
  | .pendingApproval => 5
  | .approved => 4
  | .queued => 3
  | .executing => 2
  | .verifying => 1
  | .succeeded | .failed | .cancelled | .rejected => 0

theorem State.distance_lt {source target : State} (step : allowed source target = true) :
    target.distance < source.distance := by
  cases source <;> cases target <;> first | exact absurd step (by decide) | decide

/-! ## Runs -/

/-- The calls of the change machine. -/
inductive ChangeOp where
  | approve (approval : Approval) (expectedVersion : UInt64) (now : Time)
  | transition (target : State) (expectedVersion : UInt64) (now : Time)

/-- One call. A call that fails leaves the change as it is. -/
def changeStep (m : Snapshot) (op : ChangeOp) : Snapshot × Except ChangeError Unit :=
  let result := match op with
    | .approve approval expectedVersion now => m.approve approval expectedVersion now
    | .transition target expectedVersion now => m.transition target expectedVersion now
  match result with
  | .error e => (m, .error e)
  | .ok m' => (m', .ok ())

def changeMachine : Machine Snapshot ChangeOp (Except ChangeError Unit) where
  step := changeStep

/-- The change has been approved, whatever has become of it since. -/
def Progressed : State → Prop
  | .approved | .queued | .executing | .verifying | .succeeded | .failed => True
  | .pendingApproval | .cancelled | .rejected => False

/-- The approvals recorded so far meet the requirement. -/
def Approved (m : Snapshot) : Prop :=
  checkApprovals m.requester m.decision.requirement m.approvals = .ok ()

instance (m : Snapshot) : Decidable (Approved m) :=
  inferInstanceAs (Decidable (_ = _))

/-- The state agrees with the decision and the approvals. -/
structure Consistent (m : Snapshot) : Prop where
  valid : m.decision.validate = .ok ()
  risk : m.risk = m.decision.risk
  progressed : Progressed m.state →
    m.decision.effect = .allow ∧ (0 < m.decision.requirement.minimum → Approved m)
  waiting : m.state = .pendingApproval ∨ m.state = .rejected ∧ m.decision.effect ≠ .deny →
    m.decision.effect = .allow ∧ 0 < m.decision.requirement.minimum ∧ ¬ Approved m
  denied : m.decision.effect = .deny → m.state = .rejected

theorem validate_ok {decision : Decision} (valid : decision.validate = .ok ()) :
    (decision.effect = .allow ∨ decision.effect = .deny) ∧
      decision.requirement.validate = .ok () ∧ 0 ≤ decision.requirement.minimum := by
  unfold Decision.validate at valid
  split at valid
  · cases valid
  · next effect =>
      split at valid
      · cases valid
      · split at valid
        · cases valid
        · refine ⟨by tauto, valid, ?_⟩
          unfold ApprovalRequirement.validate at valid
          split at valid
          · cases valid
          · next natural => exact Int.not_lt.mp natural

/-- Without approvals nothing that asks for one is approved. -/
theorem not_checkApprovals_nil {requester : String} {requirement : ApprovalRequirement}
    (asks : 0 < requirement.minimum) :
    checkApprovals requester requirement [] ≠ .ok () := by
  intro approved
  have enough := (checkApprovals_iff.mp approved).2
  rw [countApprovals] at enough
  omega

variable {m : Snapshot}

theorem Consistent.new {id action requester revisionID : String} {decision : Decision}
    {now : Time} (created : Change.new id action requester revisionID decision now = .ok m) :
    Consistent m := by
  obtain ⟨_, _, valid, rfl⟩ := new_eq_ok.mp created
  have known := (validate_ok valid).1
  refine ⟨valid, rfl, ?_, ?_, ?_⟩
  · intro progressed
    dsimp only [initialState] at progressed ⊢
    split at progressed
    · next allow =>
        split at progressed
        · cases progressed
        · next none => exact ⟨allow, fun asks => absurd asks none⟩
    · cases progressed
  · intro waiting
    dsimp only [initialState] at waiting ⊢
    split at waiting
    · next allow =>
        split at waiting
        · next asks => exact ⟨allow, asks, not_checkApprovals_nil asks⟩
        · simp at waiting
    · next other => exact absurd (known.resolve_left other) (by simpa using waiting)
  · intro deny
    dsimp only [initialState] at deny ⊢
    simp [deny]

theorem allowed_source {source target : State} (step : allowed source target = true) :
    source ≠ .rejected ∧ target ≠ .pendingApproval ∧
      (target = .rejected → source = .pendingApproval) ∧
      (Progressed target → Progressed source) := by
  cases source <;> cases target <;> simp [allowed, Progressed] at step ⊢

/-- Every call keeps the state in agreement. -/
theorem Consistent.next (consistent : Consistent m) (op : ChangeOp) :
    Consistent (changeMachine.next m op) := by
  cases op with
  | approve approval expectedVersion now =>
      simp only [Machine.next, changeMachine, changeStep]
      split
      · exact consistent
      · next m' approved =>
          obtain ⟨_, pending, rfl⟩ := Snapshot.approve_eq_ok.mp approved
          obtain ⟨allow, asks, _⟩ := consistent.waiting (.inl pending)
          refine ⟨consistent.valid, consistent.risk, fun progressed => ⟨allow, fun _ => ?_⟩,
            fun waiting => ⟨allow, asks, ?_⟩, fun deny => ?_⟩
          · by_contra missing
            have same : (m.withApproval approval now).state = m.state := if_neg missing
            rw [same, pending] at progressed
            exact progressed
          · intro enough
            have moved : (m.withApproval approval now).state = .approved := if_pos enough
            rw [moved] at waiting
            simp at waiting
          · rw [show (m.withApproval approval now).decision = m.decision from rfl, allow] at deny
            cases deny
  | transition target expectedVersion now =>
      simp only [Machine.next, changeMachine, changeStep, Snapshot.transition]
      split
      · exact consistent
      · next m' moved =>
          split at moved
          · cases moved
          · split at moved
            · cases moved
            · next step =>
                cases moved
                rw [Bool.not_eq_false] at step
                obtain ⟨notRejected, notPending, toRejected, back⟩ := allowed_source step
                refine ⟨consistent.valid, consistent.risk, fun progressed =>
                  consistent.progressed (back progressed), fun waiting => ?_, fun deny => ?_⟩
                · rcases waiting with pending | ⟨rejected, _⟩
                  · exact absurd pending notPending
                  · exact consistent.waiting (.inl (toRejected rejected))
                · exact absurd (consistent.denied deny) notRejected

theorem exec_consistent (consistent : Consistent m) (ops : List ChangeOp) :
    Consistent (changeMachine.exec m ops) :=
  Machine.exec_keeps (fun _ op consistent => consistent.next op) consistent ops

/-! ## The history of a change -/

def ChangeOp.expectedVersion : ChangeOp → UInt64
  | .approve _ expectedVersion _ | .transition _ expectedVersion _ => expectedVersion

def ChangeOp.approval : ChangeOp → Option Approval
  | .approve approval _ _ => some approval
  | .transition _ _ _ => none

/-- The calls of a run that succeed. -/
def acceptedCalls (m : Snapshot) (ops : List ChangeOp) : List ChangeOp :=
  ((changeMachine.trace m ops).filter fun e => e.result.toBool).map Event.op

/-- The calls alone lead from one change to the other, each made for the version it finds. -/
structure Line (m : Snapshot) (calls : List ChangeOp) (m' : Snapshot) : Prop where
  versions : calls.map ChangeOp.expectedVersion =
    (List.range calls.length).map fun made => m.version + UInt64.ofNat made
  replays : changeMachine.exec m calls = m'
  version : m'.version = m.version + UInt64.ofNat calls.length
  approvals : m'.approvals = m.approvals ++ calls.filterMap ChangeOp.approval

/-- **What one call does**: it fails and changes nothing, or is a line of its own. -/
theorem changeStep_line (m : Snapshot) (op : ChangeOp) :
    (∃ e, changeStep m op = (m, .error e)) ∨
    ∃ m', changeStep m op = (m', .ok ()) ∧ Line m [op] m' := by
  cases op with
  | approve approval expectedVersion now =>
      cases answer : m.approve approval expectedVersion now with
      | error e => exact .inl ⟨e, by simp only [changeStep, answer]⟩
      | ok m' =>
          have step : changeStep m (.approve approval expectedVersion now) = (m', .ok ()) := by
            simp only [changeStep, answer]
          obtain ⟨rfl, -, rfl⟩ := Snapshot.approve_eq_ok.mp answer
          exact .inr ⟨_, step, by simp [ChangeOp.expectedVersion], congrArg Prod.fst step, rfl, rfl⟩
  | transition target expectedVersion now =>
      cases answer : m.transition target expectedVersion now with
      | error e => exact .inl ⟨e, by simp only [changeStep, answer]⟩
      | ok m' =>
          have step : changeStep m (.transition target expectedVersion now) = (m', .ok ()) := by
            simp only [changeStep, answer]
          unfold Snapshot.transition at answer
          split at answer
          · cases answer
          · next current =>
              split at answer <;> cases answer
              cases not_not.mp current
              exact .inr ⟨_, step, by simp [ChangeOp.expectedVersion], congrArg Prod.fst step, rfl,
                (List.append_nil _).symm⟩

theorem Line.concat {m m' m'' : Snapshot} {calls : List ChangeOp} {op : ChangeOp}
    (line : Line m calls m') (last : Line m' [op] m'') : Line m (calls ++ [op]) m'' := by
  have found : op.expectedVersion = m'.version := by simpa using last.versions
  have version : m''.version = m'.version + 1 := last.version
  constructor
  · simp [List.range_succ, line.versions, found, line.version]
  · rw [Machine.exec_append, line.replays, last.replays]
  · simp [version, line.version, UInt64.add_assoc]
  · rw [last.approvals, line.approvals, List.append_assoc, List.filterMap_append]

/-- **The accepted calls of a run form one line.** -/
theorem accepted_calls_in_line (m : Snapshot) (ops : List ChangeOp) :
    Line m (acceptedCalls m ops) (changeMachine.exec m ops) := by
  induction ops using List.reverseRecOn with
  | nil => exact ⟨rfl, rfl, (UInt64.add_zero _).symm, (List.append_nil _).symm⟩
  | append_singleton ops op line =>
      unfold acceptedCalls at line ⊢
      rw [Machine.trace_concat, Machine.exec_concat, List.filter_append, List.map_append]
      generalize changeMachine.exec m ops = m' at line ⊢
      rcases changeStep_line m' op with ⟨e, failed⟩ | ⟨m'', accepted, last⟩
      · simpa [Machine.event, Machine.answer, Machine.next, changeMachine, failed, Except.toBool]
          using line
      · simpa [Machine.event, Machine.answer, Machine.next, changeMachine, accepted, Except.toBool]
          using line.concat last

end ControlCenter.Orchestration.Change
