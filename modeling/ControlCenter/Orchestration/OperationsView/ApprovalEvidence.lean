import ControlCenter.Library.Checks
import ControlCenter.Orchestration.Change
import ControlCenter.Orchestration.Job.ManualRetry

/-!
# Approval evidence

`approval_evidence.go`: the projection of the approvals of a change for the operator. The
approvals are counted a second time there, with a linear search and with checks of the
records, and the result is compared with that of the policy and with the state of the
change.

Both counts agree on records that pass the checks (`eligibleApprovalRecords_length`). Over
every run of the change machine the state agrees with the decision and the approvals
(`Change.Consistent`), so the projection never reports a difference (`approval_evidence_agrees`).
-/

set_option autoImplicit false

namespace ControlCenter.Orchestration.OperationsView

open Library Policy Change

def approvalEvidenceContractVersion : String := "ui.operations-approval-evidence/v1"

def maxApprovalEvidenceRecords : Nat := 256

def maxApprovalEvidenceIdentifierLength : Nat := 255

inductive ApprovalEvidenceState where
  | denied
  | notRequired
  | pending
  | satisfied
  deriving DecidableEq

structure ApprovalEvidenceRecord where
  actor : String
  approvedAt : Time
  deriving DecidableEq

structure ApprovalEvidence where
  contractVersion : String
  changeID : String
  revisionID : String
  revisionDigest : String
  policyID : String
  risk : Risk
  state : ApprovalEvidenceState
  requiredCount : Int
  recordedCount : Nat
  eligibleCount : Nat
  satisfied : Bool
  distinctActors : Bool
  prohibitRequester : Bool
  requiredPermission : String
  observedAt : Time
  eligibleApprovals : List ApprovalEvidenceRecord
  deriving DecidableEq

structure ApprovalEvidenceInput where
  change : Snapshot
  revisionDigest : String
  observedAt : Time
  deriving DecidableEq

def invalidApprovalEvidence (text : String) : String :=
  "invalid operations approval evidence: " ++ text

/-! ## The checks of the input -/

/-- The text is not canonical, or too long in bytes. -/
def invalidApprovalIdentity (value : String) : Bool :=
  trimSpace value == "" || trimSpace value != value ||
    decide (maxApprovalEvidenceIdentifierLength < value.utf8ByteSize)

def validateApprovalIdentity (name value : String) : Bool × String :=
  (invalidApprovalIdentity value,
    invalidApprovalEvidence ("canonical " ++ name ++ " is required"))

/-- The same check as `validManualRetryDigest`, in another package. -/
def validApprovalDigest (value : String) : Bool := validManualRetryDigest value

def ApprovalEvidenceInput.checks (input : ApprovalEvidenceInput) : List (Bool × String) :=
  let snapshot := input.change
  let requirement := snapshot.decision.requirement
  [validateApprovalIdentity "change id" snapshot.id,
    validateApprovalIdentity "revision id" snapshot.revisionID,
    validateApprovalIdentity "requester" snapshot.requester,
    (!validApprovalDigest input.revisionDigest,
      invalidApprovalEvidence "canonical revision digest is required"),
    (snapshot.version == 0 || Time.isZero snapshot.updatedAt,
      invalidApprovalEvidence "complete Change state is required"),
    (Time.isZero input.observedAt, invalidApprovalEvidence "observed time is required"),
    (decide (input.observedAt < snapshot.updatedAt),
      invalidApprovalEvidence "Change state is newer than observed evidence"),
    (decide (snapshot.decision.validate ≠ .ok ()) || snapshot.risk != snapshot.decision.risk,
      invalidApprovalEvidence "invalid policy decision"),
    validateApprovalIdentity "policy id" snapshot.decision.policyID,
    (requirement.permission != "" && invalidApprovalIdentity requirement.permission,
      invalidApprovalEvidence "canonical required permission is required"),
    (decide ((maxApprovalEvidenceRecords : Int) < requirement.minimum),
      invalidApprovalEvidence "approval requirement exceeds bounded review surface"),
    (decide (maxApprovalEvidenceRecords < snapshot.approvals.length),
      invalidApprovalEvidence "approval records exceed bounded review surface"),
    (snapshot.decision.effect == .deny && requirement.minimum != 0,
      invalidApprovalEvidence "denied policy cannot require approvals")]

/-! ## The eligible approvals -/

def approvalHasPermission (permissions : List String) (required : String) : Bool :=
  permissions.any fun permission => permission == required

/-- The loop over the approvals, with the actors seen. -/
def eligibleApprovalRecords (requester : String) (requirement : ApprovalRequirement)
    (observedAt : Time) :
    List Approval → List String → Except String (List ApprovalEvidenceRecord)
  | [], _ => .ok []
  | approval :: rest, seen =>
      if invalidApprovalIdentity approval.actor = true then
        .error (invalidApprovalEvidence "canonical approval actor is required")
      else if Time.isZero approval.approvedAt = true then
        .error (invalidApprovalEvidence "approval time is required")
      else if observedAt < approval.approvedAt then
        .error (invalidApprovalEvidence "approval is future-dated")
      else if requirement.prohibitRequester = true ∧ approval.actor = requester then
        eligibleApprovalRecords requester requirement observedAt rest seen
      else if requirement.distinctActors = true ∧ approval.actor ∈ seen then
        eligibleApprovalRecords requester requirement observedAt rest seen
      else
        let seen := if requirement.distinctActors then approval.actor :: seen else seen
        if requirement.permission ≠ "" ∧
            approvalHasPermission approval.permissions requirement.permission = false then
          eligibleApprovalRecords requester requirement observedAt rest seen
        else
          (eligibleApprovalRecords requester requirement observedAt rest seen).map fun records =>
            ⟨approval.actor, approval.approvedAt⟩ :: records

/-- The order in which eligible approvals are shown. -/
def ApprovalEvidenceRecord.precedes (a b : ApprovalEvidenceRecord) : Prop :=
  a.approvedAt < b.approvedAt ∨ a.approvedAt = b.approvedAt ∧ a.actor ≤ b.actor

instance : DecidableRel ApprovalEvidenceRecord.precedes := fun _ _ =>
  inferInstanceAs (Decidable (_ ∨ _))

/-! ## The projection -/

/-- What the decision makes of the approvals, and whether they are enough. -/
def approvalState (snapshot : Snapshot) (policySatisfied : Bool) :
    Except String (ApprovalEvidenceState × Bool) :=
  match snapshot.decision.effect with
  | .deny =>
      if snapshot.state ≠ .rejected then
        .error (invalidApprovalEvidence "denied policy has non-rejected Change state")
      else .ok (.denied, false)
  | .allow =>
      if snapshot.decision.requirement.minimum = 0 then .ok (.notRequired, true)
      else if policySatisfied = true then .ok (.satisfied, policySatisfied)
      else .ok (.pending, policySatisfied)
  | .other _ => .error (invalidApprovalEvidence "unsupported policy effect")

def validateApprovalStateConsistency (changeState : State)
    (approvalState : ApprovalEvidenceState) : Except String Unit :=
  match changeState with
  | .pendingApproval =>
      if approvalState ≠ .pending then
        .error (invalidApprovalEvidence "pending Change has non-pending approval evidence")
      else .ok ()
  | .approved | .queued | .executing | .verifying | .succeeded | .failed =>
      if approvalState ≠ .satisfied ∧ approvalState ≠ .notRequired then
        .error (invalidApprovalEvidence "progressed Change lacks satisfied approval evidence")
      else .ok ()
  | .rejected =>
      if approvalState ≠ .denied ∧ approvalState ≠ .pending then
        .error (invalidApprovalEvidence "rejected Change has inconsistent approval evidence")
      else .ok ()
  | .cancelled => .ok ()

/-- The errors about the state of the change. -/
def stateConsistencyErrors : List String := [
  "denied policy has non-rejected Change state",
  "unsupported policy effect",
  "pending Change has non-pending approval evidence",
  "progressed Change lacks satisfied approval evidence",
  "rejected Change has inconsistent approval evidence"].map invalidApprovalEvidence

def projectionDiffers : String :=
  invalidApprovalEvidence "approval projection differs from policy result"

def buildApprovalEvidence (input : ApprovalEvidenceInput) : Except String ApprovalEvidence :=
  let snapshot := input.change
  let requirement := snapshot.decision.requirement
  match firstFailure input.checks with
  | .error text => .error text
  | .ok () =>
      match eligibleApprovalRecords snapshot.requester requirement input.observedAt
          snapshot.approvals [] with
      | .error text => .error text
      | .ok eligible =>
          let policySatisfied :=
            decide (checkApprovals snapshot.requester requirement snapshot.approvals = .ok ())
          if policySatisfied ≠ decide (requirement.minimum ≤ eligible.length) then
            .error projectionDiffers
          else
            match approvalState snapshot policySatisfied with
            | .error text => .error text
            | .ok (state, satisfied) =>
                match validateApprovalStateConsistency snapshot.state state with
                | .error text => .error text
                | .ok () => .ok {
                    contractVersion := approvalEvidenceContractVersion
                    changeID := snapshot.id
                    revisionID := snapshot.revisionID
                    revisionDigest := input.revisionDigest
                    policyID := snapshot.decision.policyID
                    risk := snapshot.risk
                    state := state
                    requiredCount := requirement.minimum
                    recordedCount := snapshot.approvals.length
                    eligibleCount := eligible.length
                    satisfied := satisfied
                    distinctActors := requirement.distinctActors
                    prohibitRequester := requirement.prohibitRequester
                    requiredPermission := requirement.permission
                    observedAt := input.observedAt
                    eligibleApprovals :=
                      eligible.insertionSort ApprovalEvidenceRecord.precedes }

/-! ## Both counts agree -/

theorem approvalHasPermission_iff {permissions : List String} {required : String} :
    approvalHasPermission permissions required = true ↔ required ∈ permissions := by
  simp [approvalHasPermission]

variable {requester : String} {requirement : ApprovalRequirement}

/-- An approval that passes the checks of its record is valid for the policy too. -/
theorem admissible_of_checked {approval : Approval}
    (actor : ¬ invalidApprovalIdentity approval.actor = true)
    (timed : ¬ Time.isZero approval.approvedAt = true) :
    approval.admissible requester requirement = false ↔
      requirement.prohibitRequester = true ∧ approval.actor = requester := by
  have canonical : isCanonical approval.actor = true := by
    simp only [invalidApprovalIdentity, Bool.or_eq_true, not_or, beq_iff_eq, bne_iff_ne,
      decide_eq_true_eq] at actor
    have trimmed := not_not.mp actor.1.2
    have nonempty : approval.actor ≠ "" := trimmed ▸ actor.1.1
    simp [isCanonical, trimmed, nonempty]
  simp [Approval.admissible, canonical, timed]

theorem permitted_eq_false {approval : Approval} :
    approval.permitted requirement = false ↔ requirement.permission ≠ "" ∧
      approvalHasPermission approval.permissions requirement.permission = false := by
  have same : contains approval.permissions requirement.permission =
      approvalHasPermission approval.permissions requirement.permission := by
    rw [Bool.eq_iff_iff, contains_iff, approvalHasPermission_iff]
  simp [Approval.permitted, same]

/-- **The projection counts what the policy counts**, in the same order and with the same
actors seen. -/
theorem eligibleApprovalRecords_length {observedAt : Time} {approvals : List Approval}
    {seen : List String} {records : List ApprovalEvidenceRecord}
    (listed : eligibleApprovalRecords requester requirement observedAt approvals seen =
      .ok records) : records.length = countApprovals requester requirement approvals seen := by
  induction approvals generalizing seen records with
  | nil =>
      cases listed
      rfl
  | cons approval rest ih =>
      rw [eligibleApprovalRecords] at listed
      split at listed
      · cases listed
      · next actor =>
          split at listed
          · cases listed
          · next timed =>
              split at listed
              · cases listed
              · have admissible : approval.admissible requester requirement = false ↔
                    requirement.prohibitRequester = true ∧ approval.actor = requester :=
                  admissible_of_checked actor timed
                rw [countApprovals]
                split at listed
                · next own =>
                    rw [if_pos (admissible.mpr own)]
                    exact ih listed
                · next other =>
                    rw [if_neg (mt admissible.mp other)]
                    split at listed
                    · next duplicate =>
                        rw [if_pos duplicate]
                        exact ih listed
                    · next unseen =>
                        rw [if_neg unseen]
                        dsimp only at listed ⊢
                        split at listed
                        · next lacks =>
                            rw [if_pos (permitted_eq_false.mpr lacks)]
                            exact ih listed
                        · next has =>
                            rw [if_neg (mt permitted_eq_false.mp has)]
                            generalize counted : eligibleApprovalRecords requester requirement
                              observedAt rest _ = result at listed
                            cases result with
                            | error text => cases listed
                            | ok later =>
                                cases listed
                                rw [List.length_cons, ih counted]

/-! ## The projection agrees -/

variable {m : Snapshot} {input : ApprovalEvidenceInput}

theorem checked_requester (checked : firstFailure input.checks = .ok ()) :
    isCanonical input.change.requester = true := by
  have valid := firstFailure_ok.mp checked
    (validateApprovalIdentity "requester" input.change.requester)
    (by simp [ApprovalEvidenceInput.checks])
  simp only [validateApprovalIdentity, invalidApprovalIdentity, Bool.or_eq_false_iff,
    beq_eq_false_iff_ne, bne_eq_false_iff_eq] at valid
  obtain ⟨⟨nonempty, trimmed⟩, _⟩ := valid
  rw [trimmed] at nonempty
  simp [isCanonical, trimmed, nonempty]

/-- Past the checks, the policy is satisfied when enough records are eligible. -/
theorem policySatisfied_iff (consistent : Consistent input.change)
    (checked : firstFailure input.checks = .ok ()) {eligible : List ApprovalEvidenceRecord}
    (listed : eligibleApprovalRecords input.change.requester input.change.decision.requirement
      input.observedAt input.change.approvals [] = .ok eligible) :
    Approved input.change ↔ input.change.decision.requirement.minimum ≤ eligible.length := by
  rw [Approved, checkApprovals_iff, eligibleApprovalRecords_length listed]
  refine and_iff_right ⟨(validate_ok consistent.valid).2.1, fun _ => checked_requester checked⟩

/-- A consistent change has the approval state its own state stands for. -/
theorem approvalState_consistent (consistent : Consistent m) :
    ∃ state satisfied, approvalState m (decide (Approved m)) = .ok (state, satisfied) ∧
      validateApprovalStateConsistency m.state state = .ok () := by
  obtain ⟨valid, _, progressed, waiting, denied⟩ := consistent
  obtain ⟨known, _, natural⟩ := validate_ok valid
  rcases known with allow | deny
  · simp only [approvalState, allow]
    by_cases none : m.decision.requirement.minimum = 0
    · refine ⟨.notRequired, true, by rw [if_pos none], ?_⟩
      cases state : m.state <;>
        simp_all [Progressed, validateApprovalStateConsistency]
    · have asks : 0 < m.decision.requirement.minimum := by omega
      by_cases approved : Approved m
      · refine ⟨.satisfied, true, by simp [none, approved], ?_⟩
        cases state : m.state <;>
          simp_all [Progressed, validateApprovalStateConsistency]
      · refine ⟨.pending, false, by simp [none, approved], ?_⟩
        cases state : m.state <;>
          simp_all [Progressed, validateApprovalStateConsistency]
  · have rejected := denied deny
    exact ⟨.denied, false, by simp [approvalState, deny, rejected],
      by simp [rejected, validateApprovalStateConsistency]⟩

/-- The texts of the checks of the input and of the records. -/
def inputErrors : List String := [
  "canonical change id is required",
  "canonical revision id is required",
  "canonical requester is required",
  "canonical revision digest is required",
  "complete Change state is required",
  "observed time is required",
  "Change state is newer than observed evidence",
  "invalid policy decision",
  "canonical policy id is required",
  "canonical required permission is required",
  "approval requirement exceeds bounded review surface",
  "approval records exceed bounded review surface",
  "denied policy cannot require approvals",
  "canonical approval actor is required",
  "approval time is required",
  "approval is future-dated"].map invalidApprovalEvidence

theorem checks_error {text : String} (failed : firstFailure input.checks = .error text) :
    text ∈ inputErrors := by
  have listed : text ∈ input.checks.map Prod.snd :=
    List.mem_map.mpr ⟨_, firstFailure_error failed, rfl⟩
  have texts : input.checks.map Prod.snd = inputErrors.take 13 := rfl
  rw [texts] at listed
  exact List.mem_of_mem_take listed

/-- The record of the approval passes its checks. -/
def Shown (observedAt : Time) (approval : Approval) : Prop :=
  invalidApprovalIdentity approval.actor = false ∧ approval.approvedAt ≠ 0 ∧
    approval.approvedAt ≤ observedAt

/-- The loop succeeds when every record passes its checks, and fails with the text of one of
them otherwise. -/
theorem eligibleApprovalRecords_cases (requester : String) (requirement : ApprovalRequirement)
    (observedAt : Time) (approvals : List Approval) (seen : List String) :
    (∀ approval ∈ approvals, Shown observedAt approval) ∧
        (∃ records, eligibleApprovalRecords requester requirement observedAt approvals seen =
          .ok records) ∨
      ¬ (∀ approval ∈ approvals, Shown observedAt approval) ∧
        ∃ text ∈ inputErrors,
          eligibleApprovalRecords requester requirement observedAt approvals seen =
            .error text := by
  induction approvals generalizing seen with
  | nil => exact .inl ⟨by simp, [], rfl⟩
  | cons approval rest ih =>
      rw [eligibleApprovalRecords, List.forall_mem_cons]
      split
      · next actor =>
          refine .inr ⟨fun shown => ?_, _, by decide, rfl⟩
          rw [shown.1.1] at actor
          cases actor
      · next actor =>
          split
          · next zero =>
              exact .inr ⟨fun shown => shown.1.2.1 ((Time.isZero_iff _).mp zero), _, by decide, rfl⟩
          · next timed =>
              split
              · next future =>
                  exact .inr ⟨fun shown => absurd shown.1.2.2 (Int.not_le.mpr future), _,
                    by decide, rfl⟩
              · next past =>
                  have shown : Shown observedAt approval :=
                    ⟨Bool.not_eq_true _ ▸ actor, mt (Time.isZero_iff _).mpr timed,
                      Int.not_lt.mp past⟩
                  simp only [shown, true_and]
                  split
                  · exact ih seen
                  · split
                    · exact ih seen
                    · split
                      · exact ih _
                      · rcases ih (if requirement.distinctActors then approval.actor :: seen
                          else seen) with ⟨all, records, ok⟩ | ⟨some, text, known, failed⟩
                        · exact .inl ⟨all, _, by rw [ok]; rfl⟩
                        · exact .inr ⟨some, text, known, by rw [failed]; rfl⟩

/-- The checks of the input and of its records all pass. -/
def Presentable (input : ApprovalEvidenceInput) : Prop :=
  firstFailure input.checks = .ok () ∧
    ∀ approval ∈ input.change.approvals, Shown input.observedAt approval

/-- A change in agreement is presented, or one of the checks of the input fails. -/
theorem buildApprovalEvidence_cases (consistent : Consistent input.change) :
    Presentable input ∧ (∃ evidence, buildApprovalEvidence input = .ok evidence) ∨
      ¬ Presentable input ∧ ∃ text ∈ inputErrors, buildApprovalEvidence input = .error text := by
  unfold buildApprovalEvidence Presentable
  cases checked : firstFailure input.checks with
  | error text => exact .inr ⟨nofun, text, checks_error checked, rfl⟩
  | ok =>
      simp only [true_and]
      rcases eligibleApprovalRecords_cases input.change.requester
          input.change.decision.requirement input.observedAt input.change.approvals [] with
        ⟨shown, eligible, listed⟩ | ⟨hidden, text, known, failed⟩
      · refine .inl ⟨shown, ?_⟩
        have same : decide (checkApprovals input.change.requester
            input.change.decision.requirement input.change.approvals = .ok ()) =
            decide (input.change.decision.requirement.minimum ≤ eligible.length) :=
          decide_eq_decide.mpr (policySatisfied_iff consistent checked listed)
        obtain ⟨state, satisfied, stated, agrees⟩ := approvalState_consistent consistent
        change approvalState input.change (decide (checkApprovals input.change.requester
          input.change.decision.requirement input.change.approvals = .ok ())) = _ at stated
        rw [same] at stated
        simp only [listed, same, ne_eq, not_true_eq_false, if_false, stated, agrees]
        exact ⟨_, rfl⟩
      · exact .inr ⟨hidden, text, known, by simp only [failed]⟩

/-- **No execution without approvals, and the projection agrees.** After any calls on a new
change, a change that has been approved has an allowing decision and the approvals it asks
for. Its evidence is built exactly when the checks of the input pass, and is never refused
because the projection differs from the policy or from the state. -/
theorem approval_evidence_agrees {id action requester revisionID : String} {decision : Decision}
    {now : Time} {m : Snapshot}
    (created : Change.new id action requester revisionID decision now = .ok m)
    (ops : List ChangeOp) :
    (Progressed (changeMachine.exec m ops).state →
      (changeMachine.exec m ops).decision.effect = .allow ∧
      (0 < (changeMachine.exec m ops).decision.requirement.minimum →
        checkApprovals (changeMachine.exec m ops).requester
          (changeMachine.exec m ops).decision.requirement
          (changeMachine.exec m ops).approvals = .ok ())) ∧
    ∀ revisionDigest observedAt,
      ((∃ evidence, buildApprovalEvidence ⟨changeMachine.exec m ops, revisionDigest, observedAt⟩ =
        .ok evidence) ↔ Presentable ⟨changeMachine.exec m ops, revisionDigest, observedAt⟩) ∧
      ∀ text, buildApprovalEvidence ⟨changeMachine.exec m ops, revisionDigest, observedAt⟩ =
        .error text → text ≠ projectionDiffers ∧ text ∉ stateConsistencyErrors := by
  have consistent := exec_consistent (.new created) ops
  refine ⟨consistent.progressed, fun revisionDigest observedAt => ?_⟩
  have apart : ∀ text ∈ inputErrors, text ≠ projectionDiffers ∧ text ∉ stateConsistencyErrors := by
    decide +kernel
  have cases := buildApprovalEvidence_cases
    (show Consistent (ApprovalEvidenceInput.mk (changeMachine.exec m ops) revisionDigest
      observedAt).change from consistent)
  rcases cases with ⟨presentable, evidence, built⟩ | ⟨hidden, text, known, failed⟩
  · refine ⟨⟨fun _ => presentable, fun _ => ⟨evidence, built⟩⟩, fun text failed => ?_⟩
    rw [built] at failed
    cases failed
  · refine ⟨⟨?_, fun presentable => absurd presentable hidden⟩, fun other failed' => ?_⟩
    · rintro ⟨evidence, built⟩
      rw [failed] at built
      cases built
    · rw [failed] at failed'
      cases failed'
      exact apart text known

/-- A decision that asks for one approval. -/
def oneApproval : Decision :=
  ⟨.allow, .high, "risk", ⟨1, "change.approve", true, true⟩, "policy-1"⟩

/-- A change as `change.New` makes it. -/
def newChange : Snapshot :=
  ⟨"change-1", "restart", "alice", "revision-1", .high, .pendingApproval, oneApproval, [], 1, 10⟩

theorem approval_evidence_agrees_approved :
    Change.new "change-1" "restart" "alice" "revision-1" oneApproval 10 = .ok newChange ∧
    (changeMachine.exec newChange [.approve ⟨"bob", ["change.approve"], 20⟩ 1 20]).state =
      .approved ∧
    checkApprovals "alice" oneApproval.requirement [⟨"bob", ["change.approve"], 20⟩] = .ok () := by
  have created : Change.new "change-1" "restart" "alice" "revision-1" oneApproval 10 =
      .ok newChange := by decide +kernel
  have approved : (changeMachine.exec newChange
      [.approve ⟨"bob", ["change.approve"], 20⟩ 1 20]).state = .approved := by decide +kernel
  have agrees := (approval_evidence_agrees created
    [.approve ⟨"bob", ["change.approve"], 20⟩ 1 20]).1 (approved ▸ trivial)
  exact ⟨created, approved, agrees.2 (by decide +kernel)⟩

end ControlCenter.Orchestration.OperationsView
