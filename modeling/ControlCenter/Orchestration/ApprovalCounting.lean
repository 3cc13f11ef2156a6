import ControlCenter.Orchestration.Policy
import Mathlib.Data.Finset.Card
import Mathlib.Data.Finset.Dedup

/-!
# Counting approvals by actors

A requirement for distinct actors asks for a number of actors that may approve and have
approved with the permission: the eligible actors (`eligibleActors`). The loop of the check
marks an actor as seen before it looks at the permission, so it credits an actor by the
first admissible approval alone (`countApprovals_eq_card`). An eligible actor whose first
admissible approval lacks the permission is late (`lateActors`), and no later approval of
that actor counts.

So the check succeeds exactly when enough eligible actors are not late
(`check_counts_actors`), and it agrees with the number of eligible actors exactly when the
late ones do not decide. One actor who approves again after gaining the permission is
enough for a wrong refusal (`second_approval_is_ignored`).
-/

set_option autoImplicit false

namespace ControlCenter.Orchestration.Policy

open Library

section

variable (requester : String) (requirement : ApprovalRequirement)

/-- The actors with an approval that counts by itself. -/
def eligibleActors (approvals : List Approval) : Finset String :=
  ((approvals.filter (Approval.counts requester requirement)).map Approval.actor).toFinset

/-- The first approval of an actor that the check does not skip. -/
def firstAdmissible (approvals : List Approval) (actor : String) : Option Approval :=
  approvals.find? fun approval =>
    approval.admissible requester requirement && approval.actor == actor

/-- The first admissible approval of the actor carries the permission. -/
def approvesAtFirst (approvals : List Approval) (actor : String) : Bool :=
  (firstAdmissible requester requirement approvals actor).any (Approval.permitted requirement)

/-- The eligible actors whose first admissible approval lacks the permission. -/
def lateActors (approvals : List Approval) : Finset String :=
  (eligibleActors requester requirement approvals).filter fun actor =>
    approvesAtFirst requester requirement approvals actor = false

/-- The actors the loop credits, after those it has seen. -/
def creditedActors (seen : List String) (approvals : List Approval) : Finset String :=
  (eligibleActors requester requirement approvals).filter fun actor =>
    actor ∉ seen ∧ approvesAtFirst requester requirement approvals actor = true

end

variable {requester : String} {requirement : ApprovalRequirement}

theorem mem_eligibleActors {approvals : List Approval} {actor : String} :
    actor ∈ eligibleActors requester requirement approvals ↔
      ∃ approval ∈ approvals, approval.actor = actor ∧
        approval.admissible requester requirement = true ∧
        approval.permitted requirement = true := by
  simp only [eligibleActors, List.mem_toFinset, List.mem_map, List.mem_filter, Approval.counts,
    Bool.and_eq_true]
  constructor
  · rintro ⟨approval, ⟨member, counts⟩, own⟩
    exact ⟨approval, member, own, counts⟩
  · rintro ⟨approval, member, own, counts⟩
    exact ⟨approval, ⟨member, counts⟩, own⟩

/-- The credited actors are decided by their first admissible approvals. -/
theorem mem_creditedActors {seen : List String} {approvals : List Approval} {actor : String} :
    actor ∈ creditedActors requester requirement seen approvals ↔
      actor ∉ seen ∧ approvesAtFirst requester requirement approvals actor = true := by
  rw [creditedActors, Finset.mem_filter, mem_eligibleActors]
  refine ⟨And.right, fun credited => ⟨?_, credited⟩⟩
  have atFirst := credited.2
  rw [approvesAtFirst, Option.any_eq_true] at atFirst
  obtain ⟨approval, found, permitted⟩ := atFirst
  have own := List.find?_some found
  rw [Bool.and_eq_true, beq_iff_eq] at own
  exact ⟨approval, List.mem_of_find?_eq_some found, own.2, own.1, permitted⟩

theorem approvesAtFirst_cons (approval : Approval) (rest : List Approval) (actor : String) :
    approvesAtFirst requester requirement (approval :: rest) actor =
      if approval.admissible requester requirement = true ∧ approval.actor = actor then
        approval.permitted requirement
      else approvesAtFirst requester requirement rest actor := by
  unfold approvesAtFirst firstAdmissible
  rw [List.find?_cons]
  cases admissible : approval.admissible requester requirement <;>
    by_cases own : approval.actor = actor <;> simp [own, beq_eq_false_iff_ne.mpr]

/-- **The loop counts the actors it credits.** -/
theorem countApprovals_eq_card (requester : String) (distinct : requirement.distinctActors = true)
    (approvals : List Approval) : ∀ seen : List String,
    countApprovals requester requirement approvals seen =
      (creditedActors requester requirement seen approvals).card := by
  induction approvals with
  | nil => exact fun seen => rfl
  | cons approval rest ih =>
      intro seen
      have others : ∀ actor, approval.actor ≠ actor →
          approvesAtFirst requester requirement (approval :: rest) actor =
            approvesAtFirst requester requirement rest actor := by
        intro actor differ
        rw [approvesAtFirst_cons, if_neg fun both => differ both.2]
      unfold countApprovals
      cases admissible : approval.admissible requester requirement with
      | false =>
          rw [if_pos rfl, ih]
          apply congrArg Finset.card
          ext actor
          rw [mem_creditedActors, mem_creditedActors, approvesAtFirst_cons, admissible]
          simp
      | true =>
          have own : approvesAtFirst requester requirement (approval :: rest) approval.actor =
              approval.permitted requirement := by
            rw [approvesAtFirst_cons, if_pos ⟨admissible, rfl⟩]
          by_cases known : approval.actor ∈ seen
          · rw [if_neg Bool.noConfusion, if_pos ⟨distinct, known⟩, ih]
            apply congrArg Finset.card
            ext actor
            rw [mem_creditedActors, mem_creditedActors]
            by_cases same : approval.actor = actor
            · simp [← same, known]
            · rw [others actor same]
          · rw [if_neg Bool.noConfusion, if_neg fun both => known both.2]
            simp only [distinct, if_true]
            cases permitted : approval.permitted requirement with
            | false =>
                rw [if_pos rfl, ih]
                apply congrArg Finset.card
                ext actor
                rw [mem_creditedActors, mem_creditedActors, List.mem_cons]
                by_cases same : approval.actor = actor
                · simp [← same, own, permitted]
                · simp [others actor same, Ne.symm same]
            | true =>
                rw [if_neg Bool.noConfusion, ih]
                -- the actor is credited by this approval and seen from now on
                have split : creditedActors requester requirement seen (approval :: rest) =
                    insert approval.actor
                      (creditedActors requester requirement (approval.actor :: seen) rest) := by
                  ext actor
                  rw [Finset.mem_insert, mem_creditedActors, mem_creditedActors, List.mem_cons]
                  by_cases same : approval.actor = actor
                  · simp [← same, own, permitted, known]
                  · simp [others actor same, Ne.symm same]
                rw [split, Finset.card_insert_of_notMem]
                simp [mem_creditedActors]

/-- What the loop does not credit of the eligible actors are the late ones. -/
theorem card_creditedActors (requester : String) (requirement : ApprovalRequirement)
    (approvals : List Approval) :
    (creditedActors requester requirement [] approvals).card +
      (lateActors requester requirement approvals).card =
      (eligibleActors requester requirement approvals).card := by
  have credited : creditedActors requester requirement [] approvals =
      (eligibleActors requester requirement approvals).filter fun actor =>
        approvesAtFirst requester requirement approvals actor = true := by
    simp [creditedActors]
  have late : lateActors requester requirement approvals =
      (eligibleActors requester requirement approvals).filter fun actor =>
        ¬ approvesAtFirst requester requirement approvals actor = true := by
    simp [lateActors]
  rw [credited, late]
  exact Finset.card_filter_add_card_filter_not _

/-- The eligible actors are those of the approvals, whatever their order. -/
theorem eligibleActors_perm {approvals others : List Approval} (same : approvals.Perm others) :
    eligibleActors requester requirement approvals =
      eligibleActors requester requirement others := by
  ext actor
  simp only [mem_eligibleActors, same.mem_iff]

/-- A further approval makes no actor ineligible. -/
theorem eligibleActors_insert (requester : String) (requirement : ApprovalRequirement)
    (front back : List Approval) (approval : Approval) :
    eligibleActors requester requirement (front ++ back) ⊆
      eligibleActors requester requirement (front ++ approval :: back) := by
  intro actor
  rw [mem_eligibleActors, mem_eligibleActors]
  rintro ⟨found, member, rest⟩
  exact ⟨found, by simp only [List.mem_append, List.mem_cons] at member ⊢; tauto, rest⟩

/-- **The check counts the eligible actors that are not late.** It agrees with the number of
eligible actors exactly when the late ones do not decide. Between lists without late actors
the order does not matter, and a further approval never takes a success away. -/
theorem check_counts_actors (requester : String) (requirement : ApprovalRequirement)
    (valid : requirement.validate = .ok ()) (distinct : requirement.distinctActors = true)
    (canonical : requirement.prohibitRequester = true → isCanonical requester = true)
    (approvals : List Approval) :
    let eligible := fun list => eligibleActors requester requirement list
    let late := fun list => lateActors requester requirement list
    let succeeds := fun list => checkApprovals requester requirement list = .ok ()
    (succeeds approvals ↔
      requirement.minimum + (late approvals).card ≤ (eligible approvals).card) ∧
    ((succeeds approvals ↔ requirement.minimum ≤ (eligible approvals).card) ↔
      ¬ (requirement.minimum ≤ (eligible approvals).card ∧
        ((eligible approvals).card : Int) < requirement.minimum + (late approvals).card)) ∧
    (∀ others, approvals.Perm others → late approvals = ∅ → late others = ∅ →
      (succeeds approvals ↔ succeeds others)) ∧
    ∀ front back approval, approvals = front ++ back →
      late (front ++ approval :: back) = ∅ → succeeds approvals →
      succeeds (front ++ approval :: back) := by
  intro eligible late succeeds
  have exact : ∀ list, succeeds list ↔
      requirement.minimum + (late list).card ≤ (eligible list).card := by
    intro list
    have total := card_creditedActors requester requirement list
    have counted := countApprovals_eq_card requester distinct list []
    refine checkApprovals_iff.trans ?_
    rw [counted]
    simp only [ApprovalRequirement.checkable, valid, true_and, eligible, late]
    rw [and_iff_right canonical]
    omega
  refine ⟨exact approvals, ?_, ?_, ?_⟩
  · rw [exact approvals]
    omega
  · intro others same none none'
    rw [exact, exact, none, none']
    simp only [eligible, eligibleActors_perm same]
  · rintro front back approval rfl none success
    rw [exact] at success ⊢
    have grows := Finset.card_le_card
      (eligibleActors_insert requester requirement front back approval)
    rw [none, Finset.card_empty]
    simp only [eligible] at success ⊢
    omega

/-- Two approvals of the actor alice at different times, the second with the permission. -/
def regainedApprovals : List Approval :=
  [⟨"alice", [], 1⟩, ⟨"alice", ["changes.approve"], 2⟩]

def oneApprover : ApprovalRequirement := ⟨1, "changes.approve", true, true⟩

/-- Approvals of four actors, the requester bob and the late alice among them. -/
def mixedApprovals : List Approval :=
  regainedApprovals ++ [⟨"carol", ["changes.approve"], 3⟩, ⟨"bob", ["changes.approve"], 4⟩,
    ⟨"dave", ["changes.approve"], 5⟩]

/-- Two of the three eligible actors count, which is enough, and without the late one the order
does not matter. -/
theorem check_counts_actors_bob :
    lateActors "bob" ⟨2, "changes.approve", true, true⟩ mixedApprovals = {"alice"} ∧
    checkApprovals "bob" ⟨2, "changes.approve", true, true⟩ mixedApprovals = .ok () ∧
    checkApprovals "bob" ⟨2, "changes.approve", true, true⟩ (mixedApprovals.drop 2).reverse =
      .ok () := by
  have counts := check_counts_actors "bob" ⟨2, "changes.approve", true, true⟩ (by decide)
    (by decide) (fun _ => by decide)
  refine ⟨by decide +kernel, (counts mixedApprovals).1.mpr (by decide +kernel), ?_⟩
  have reversed := (counts (mixedApprovals.drop 2)).2.2.1 _ (List.reverse_perm _).symm
    (by decide +kernel) (by decide +kernel)
  exact reversed.mp ((counts (mixedApprovals.drop 2)).1.mpr (by decide +kernel))

/-- **An actor who approves again after gaining the permission is not counted.** The reversed
list succeeds, and so does the list without the first approval. -/
theorem second_approval_is_ignored :
    oneApprover.minimum ≤ (eligibleActors "bob" oneApprover regainedApprovals).card ∧
    checkApprovals "bob" oneApprover regainedApprovals ≠ .ok () ∧
    checkApprovals "bob" oneApprover regainedApprovals.reverse = .ok () ∧
    checkApprovals "bob" oneApprover regainedApprovals.tail = .ok () := by
  decide +kernel

end ControlCenter.Orchestration.Policy
