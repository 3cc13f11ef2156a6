import ControlCenter.Library.Go
import Mathlib.Data.List.Count
import Mathlib.Data.List.Sort

/-!
# Policy decisions and approvals

`internal/orchestration/policy`: the decision on a requested action, the threshold
evaluator, and the check that a list of approvals meets the requirement of a decision.

The check walks over the approvals with the actors it has seen, and succeeds exactly when
enough of them count (`checkApprovals_iff`).
-/

set_option autoImplicit false

namespace ControlCenter.Orchestration.Policy

open Library

/-! ## Decisions -/

/-- The risk of an action. The type of the source is a string, so other texts occur. -/
inductive Risk where
  | low
  | medium
  | high
  | critical
  | other (text : String)
  deriving DecidableEq

def Risk.valid : Risk → Bool
  | .low | .medium | .high | .critical => true
  | .other _ => false

inductive Effect where
  | allow
  | deny
  | other (text : String)
  deriving DecidableEq

structure ApprovalRequirement where
  minimum : Int
  permission : String
  distinctActors : Bool
  prohibitRequester : Bool
  deriving DecidableEq

def ApprovalRequirement.validate (r : ApprovalRequirement) : Except String Unit :=
  if r.minimum < 0 then .error "minimum approvals cannot be negative"
  else if r.permission ≠ trimSpace r.permission then
    .error "approval permission must be canonical"
  else if 0 < r.minimum ∧ r.permission = "" then .error "approval permission is required"
  else .ok ()

structure Decision where
  effect : Effect
  risk : Risk
  reason : String
  requirement : ApprovalRequirement
  policyID : String
  deriving DecidableEq

def Decision.validate (d : Decision) : Except String Unit :=
  if d.effect ≠ .allow ∧ d.effect ≠ .deny then .error "invalid policy effect"
  else if d.risk.valid = false then .error "invalid risk"
  else if d.policyID = "" ∨ d.reason = "" then .error "policy id and reason are required"
  else d.requirement.validate

structure EvaluationInput where
  action : String
  requester : String
  risk : Risk
  deriving DecidableEq

/-! ## Approvals -/

structure Approval where
  actor : String
  permissions : List String
  approvedAt : Time
  deriving DecidableEq

def sortedCopy (values : List String) : List String := values.insertionSort (· ≤ ·)

def contains (values : List String) (wanted : String) : Bool :=
  (sortedCopy values)[searchStrings (sortedCopy values) wanted]? == some wanted

/-- The search in the sorted copy finds exactly the values of the list. -/
theorem contains_iff {values : List String} {wanted : String} :
    contains values wanted = true ↔ wanted ∈ values := by
  rw [contains, beq_iff_eq, ← List.mem_insertionSort (· ≤ ·)]
  change _ ↔ wanted ∈ sortedCopy values
  constructor
  · exact fun found => List.mem_of_getElem? found
  · intro member
    have sorted : (sortedCopy values).Pairwise (· ≤ ·) := List.pairwise_insertionSort _ _
    generalize sortedCopy values = copy at member sorted
    -- smaller values come first, and the search stops at the first one that is not smaller
    induction copy with
    | nil => simp at member
    | cons first rest ih =>
        rw [searchStrings, List.findIdx_cons]
        by_cases reached : wanted ≤ first
        · have same : first = wanted := by
            rcases List.mem_cons.mp member with rfl | later
            · rfl
            · exact le_antisymm (List.rel_of_pairwise_cons sorted later) reached
          simp [same]
        · have later : wanted ∈ rest := by
            rcases List.mem_cons.mp member with rfl | later
            · exact absurd le_rfl reached
            · exact later
          simpa [reached, searchStrings] using ih later (List.Pairwise.of_cons sorted)

/-- The approval names an actor and a time, and the actor may approve. -/
def Approval.admissible (requester : String) (requirement : ApprovalRequirement)
    (approval : Approval) : Bool :=
  isCanonical approval.actor && !Time.isZero approval.approvedAt &&
    !(requirement.prohibitRequester && approval.actor == requester)

/-- The approval carries the permission the requirement asks for. -/
def Approval.permitted (requirement : ApprovalRequirement) (approval : Approval) : Bool :=
  requirement.permission == "" || contains approval.permissions requirement.permission

/-- The loop of the check: how many of the approvals are valid, after the actors seen. -/
def countApprovals (requester : String) (requirement : ApprovalRequirement) :
    List Approval → List String → Nat
  | [], _ => 0
  | approval :: rest, seen =>
      if approval.admissible requester requirement = false then
        countApprovals requester requirement rest seen
      else if requirement.distinctActors = true ∧ approval.actor ∈ seen then
        countApprovals requester requirement rest seen
      else
        let seen := if requirement.distinctActors then approval.actor :: seen else seen
        if approval.permitted requirement = false then
          countApprovals requester requirement rest seen
        else countApprovals requester requirement rest seen + 1

def checkApprovals (requester : String) (requirement : ApprovalRequirement)
    (approvals : List Approval) : Except String Unit :=
  match requirement.validate with
  | .error text => .error text
  | .ok () =>
      if requirement.prohibitRequester = true ∧ isCanonical requester = false then
        .error "canonical requester is required for requester-prohibited approval policy"
      else
        let valid := countApprovals requester requirement approvals []
        if (valid : Int) < requirement.minimum then
          .error ("insufficient approvals: have " ++ valid.repr ++ ", require " ++
            requirement.minimum.repr)
        else .ok ()

/-- The approval counts when no other approval is looked at. -/
def Approval.counts (requester : String) (requirement : ApprovalRequirement)
    (approval : Approval) : Bool :=
  approval.admissible requester requirement && approval.permitted requirement

/-- What the check asks before it looks at the approvals. -/
def ApprovalRequirement.checkable (requirement : ApprovalRequirement) (requester : String) :
    Prop :=
  requirement.validate = .ok () ∧
    (requirement.prohibitRequester = true → isCanonical requester = true)

theorem checkApprovals_iff {requester : String} {requirement : ApprovalRequirement}
    {approvals : List Approval} :
    checkApprovals requester requirement approvals = .ok () ↔
      requirement.checkable requester ∧
        requirement.minimum ≤ countApprovals requester requirement approvals [] := by
  unfold checkApprovals ApprovalRequirement.checkable
  cases valid : requirement.validate with
  | error text => simp
  | ok =>
      cases prohibit : requirement.prohibitRequester <;>
        cases canonical : isCanonical requester <;> simp

end ControlCenter.Orchestration.Policy
