import ControlCenter.Library.Chain
import ControlCenter.NodeLifecycle.Lifecycle

/-!
# Histories of a node

A history is what a storage adapter can have written for one node: an initial object and
then transitions, each accepted from the object before it (`History`).

Along every history the generation counts the operator's transitions, the time of the state
advances, and the node is drained whenever an operation runs on it
(`History.drain_guarantee`). The last part needs the whole history: maintenance is entered
again from the operations themselves, without new proof of the drain, so the proof follows
the drained states back to the step that left draining (`History.drained`).

An operation is not settled along every history. A node that leaves an operation for
`degraded` or `offline` can become ready again on health checks alone
(`abandonedUpdate_unsettled`). What is left open is a function of the steps so far
(`openChecks`). The table settles every operation that is not left that way, so a history
settles its operations exactly when the checks that such detours leave open are passed before
the node is ready (`History.settled_iff`).
-/

set_option autoImplicit false

namespace ControlCenter.Lifecycle

open Library CoreContracts

/-- One stored transition. -/
structure Transition where
  current : NodeLifecycle
  next : NodeLifecycle
  request : TransitionRequest
  deriving DecidableEq

/-- The checks the transition passed. -/
def Transition.passed (t : Transition) : List EvidenceCheck := t.request.evidence.passedChecks

/-- An initial object and accepted transitions, each from the object before it. -/
structure History where
  initial : NodeLifecycle
  steps : List Transition
  started : validateInitial initial = .ok ()
  linked : Linked Transition.current Transition.next initial steps
  accepted : ∀ step ∈ steps, validateTransition step.current step.next step.request = .ok ()

namespace History

variable (h : History)

/-- The object after some of the steps. -/
def objectAfter (steps : List Transition) : NodeLifecycle := tip Transition.next h.initial steps

@[simp] theorem objectAfter_nil : h.objectAfter [] = h.initial := rfl

@[simp] theorem objectAfter_concat (steps : List Transition) (step : Transition) :
    h.objectAfter (steps ++ [step]) = step.next := tip_concat

variable {h}

theorem initial_discovered : h.initial.state = .discovered :=
  (validateInitial_ok.mp h.started).2.1

/-- What a step of the history is. -/
theorem step_accepted {before after : List Transition} {step : Transition}
    (split : h.steps = before ++ step :: after) : step.current = h.objectAfter before ∧
      ∃ rule, Accepted step.current step.next step.request rule := by
  have linked := h.linked
  rw [split] at linked
  refine ⟨linked.source_eq, validateTransition_ok.mp (h.accepted step ?_)⟩
  rw [split]
  exact List.mem_append_right before List.mem_cons_self

/-- **What every step keeps holds after every part of the history.** -/
theorem keeps {P : List Transition → Prop} (start : P [])
    (keep : ∀ before step after rule, h.steps = before ++ step :: after →
      step.current = h.objectAfter before → Accepted step.current step.next step.request rule →
      P before → P (before ++ [step]))
    {before : List Transition} (part : before <+: h.steps) : P before := by
  induction before using List.reverseRecOn with
  | nil => exact start
  | append_singleton before step ih =>
      obtain ⟨after, split⟩ := part
      rw [List.append_assoc, List.singleton_append] at split
      obtain ⟨current, rule, accepted⟩ := step_accepted split.symm
      exact keep before step after rule split.symm current accepted (ih ⟨_, split⟩)

/-! ## Generation, time and scope -/

/-- The transitions the operator asked for. -/
def desired (steps : List Transition) : Nat :=
  steps.countP fun step => step.request.typeOf == .desired

theorem generation_counts {before : List Transition} (part : before <+: h.steps) :
    (h.objectAfter before).generation.toNat = 1 + desired before := by
  refine keeps (P := fun steps => (h.objectAfter steps).generation.toNat = 1 + desired steps)
    ?_ ?_ part
  · rw [objectAfter_nil, (validateInitial_ok.mp h.started).2.2.1]
    rfl
  · intro before step after rule _ current accepted counted
    have generation := accepted.successor.generation
    rw [objectAfter_concat, desired, List.countP_append, ← desired, List.countP_singleton]
    rw [← current] at counted
    cases wanted : (step.request.typeOf == .desired) with
    | false =>
        rw [wanted] at generation
        rw [generation]
        exact counted
    | true =>
        have room := accepted.successor.room wanted
        have bound : step.current.generation.toNat ≠ 18446744073709551615 :=
          fun full => room (UInt64.toNat_inj.mp full)
        have small := step.current.generation.toNat_lt
        rw [wanted] at generation
        rw [generation, wantGeneration, if_pos rfl, UInt64.toNat_add, UInt64.toNat_one,
          Nat.mod_eq_of_lt (by omega), counted, if_pos rfl, Nat.add_assoc]

theorem isChain_changed {root : NodeLifecycle} {steps : List Transition}
    (linked : Linked Transition.current Transition.next root steps)
    (accepted : ∀ step ∈ steps, validateTransition step.current step.next step.request = .ok ()) :
    (root :: steps.map Transition.next).IsChain fun a b => a.stateChangedAt < b.stateChangedAt := by
  induction steps generalizing root with
  | nil => exact .singleton root
  | cons step rest ih =>
      obtain ⟨rfl, linked⟩ := linked
      rw [List.forall_mem_cons] at accepted
      obtain ⟨_, first⟩ := validateTransition_ok.mp accepted.1
      exact .cons_cons first.advanced (ih linked accepted.2)

theorem changed_increases :
    (h.initial :: h.steps.map Transition.next).Pairwise
      fun a b => a.stateChangedAt < b.stateChangedAt := by
  have transitive : IsTrans NodeLifecycle fun a b => a.stateChangedAt < b.stateChangedAt :=
    ⟨fun _ _ _ first second => Int.lt_trans first second⟩
  exact (isChain_changed h.linked h.accepted).pairwise

theorem scope_kept {before : List Transition} (part : before <+: h.steps) :
    (h.objectAfter before).scopeID = h.initial.scopeID ∧
      (h.objectAfter before).ownerScope = h.initial.ownerScope := by
  refine keeps (P := fun steps => (h.objectAfter steps).scopeID = h.initial.scopeID ∧
    (h.objectAfter steps).ownerScope = h.initial.ownerScope) ⟨rfl, rfl⟩ ?_ part
  intro before step after rule _ current accepted kept
  rw [objectAfter_concat, accepted.scopeID, accepted.ownerScope, current]
  exact kept

/-! ## The drain -/

/-- The step completed the drain of the node. -/
structure CompletesDrain (step : Transition) : Prop where
  left : step.current.state = .draining
  entered : step.next.state = .maintenance
  preflight : .maintenancePreflightPassed ∈ step.passed
  scheduling : .schedulingDisabled ∈ step.passed
  complete : .drainComplete ∈ step.passed
  jobs : .noActiveJobs ∈ step.passed
  placements : .noActivePlacements ∈ step.passed
  stateful : .statefulWorkloadsSafe ∈ step.passed

/-- One step completed the drain, and the node has been drained since. -/
def DrainedSince (steps : List Transition) : Prop :=
  ∃ before drain since, steps = before ++ drain :: since ∧ CompletesDrain drain ∧
    ∀ step ∈ since, step.next.state.drained = true

/-- A drained node was drained by a step of its history. -/
theorem drained {before : List Transition} (part : before <+: h.steps) :
    (h.objectAfter before).state.drained = true → DrainedSince before := by
  refine keeps (P := fun steps => (h.objectAfter steps).state.drained = true → DrainedSince steps)
    ?_ ?_ part
  · intro drained
    rw [objectAfter_nil, initial_discovered] at drained
    cases drained
  · intro before step after rule _ current accepted known drained
    rw [objectAfter_concat] at drained
    rcases rule_drained accepted.allowed drained with still | ⟨left, entered, drain⟩
    · rw [current] at still
      obtain ⟨earlier, drain, since, rfl, completes, kept⟩ := known still
      refine ⟨earlier, drain, since ++ [step], by simp, completes, ?_⟩
      rw [List.forall_mem_append, List.forall_mem_singleton]
      exact ⟨kept, drained⟩
    · have passed : drainChecks ⊆ step.passed := drain ▸ accepted.passed
      simp only [drainChecks, List.cons_subset, List.nil_subset, and_true] at passed
      obtain ⟨preflight, scheduling, complete, jobs, placements, stateful⟩ := passed
      exact ⟨before, step, [], rfl, ⟨left, entered, preflight, scheduling, complete, jobs,
        placements, stateful⟩, by simp⟩

/-! ## Retirement -/

/-- The grounds on which a step retires the node. -/
def RetirementGround (step : Transition) : Prop :=
  ((step.current.state = .discovered ∨ step.current.state = .enrolling ∨
        step.current.state = .offline) ∧
      .noManagedState ∈ step.passed ∧ .retirementApproved ∈ step.passed) ∨
    (step.current.state = .replacing ∧ .switchoverVerified ∈ step.passed ∧
      .replacementHealthVerified ∈ step.passed) ∨
    (step.current.state = .removing ∧ .removalVerified ∈ step.passed)

theorem retirement_ground {before after : List Transition} {step : Transition}
    (split : h.steps = before ++ step :: after) (retired : step.next.state = .retired) :
    RetirementGround step := by
  obtain ⟨_, rule, accepted⟩ := step_accepted split
  have allowed := accepted.allowed
  rw [retired] at allowed
  rcases rule_retired allowed with ⟨source, managed, approved⟩ | ⟨source, switched, healthy⟩ |
    ⟨source, removed⟩
  · exact .inl ⟨source, accepted.passed managed, accepted.passed approved⟩
  · exact .inr (.inl ⟨source, accepted.passed switched, accepted.passed healthy⟩)
  · exact .inr (.inr ⟨source, accepted.passed removed⟩)

theorem nothing_after_retired {before after : List Transition} {step : Transition}
    (split : h.steps = before ++ step :: after) (retired : step.next.state = .retired) :
    after = [] := by
  cases after with
  | nil => rfl
  | cons later rest =>
      have split' : h.steps = (before ++ [step]) ++ later :: rest := by simp [split]
      obtain ⟨current, rule, accepted⟩ := step_accepted split'
      have allowed := accepted.allowed
      rw [current, objectAfter_concat, retired, rule_after_retired] at allowed
      cases allowed

/-- **The drain guarantee.** Along every history the generation counts the operator's
transitions, the state's time strictly increases and the scope stays; an operation runs on a
drained node only; a node retires on one of the known grounds, and nothing follows. -/
theorem drain_guarantee (h : History) :
    (∀ before, before <+: h.steps →
      (h.objectAfter before).generation.toNat = 1 + desired before ∧
      (h.objectAfter before).scopeID = h.initial.scopeID ∧
      (h.objectAfter before).ownerScope = h.initial.ownerScope ∧
      ((h.objectAfter before).state = .updating ∨ (h.objectAfter before).state = .replacing ∨
        (h.objectAfter before).state = .removing → DrainedSince before)) ∧
    ((h.initial :: h.steps.map Transition.next).Pairwise
      fun a b => a.stateChangedAt < b.stateChangedAt) ∧
    ∀ before step after, h.steps = before ++ step :: after → step.next.state = .retired →
      RetirementGround step ∧ after = [] := by
  refine ⟨fun before part => ?_, changed_increases, fun before step after split retired =>
    ⟨retirement_ground split retired, nothing_after_retired split retired⟩⟩
  obtain ⟨scope, owner⟩ := scope_kept part
  refine ⟨generation_counts part, scope, owner, fun operation => drained part ?_⟩
  rcases operation with state | state | state <;> rw [state] <;> rfl

end History

/-! ## Operations left open -/

/-- The check that settles an operation once it has been entered. -/
def State.settledBy : State → Option EvidenceCheck
  | .draining => some .schedulingEnabled
  | .updating => some .updateVerified
  | .replacing | .removing => some .rollbackVerified
  | _ => none

/-- Between the entry into an operation and the node's next visit to `ready`, some step
passes the check that settles the operation. -/
def Settled (steps : List Transition) : Prop :=
  ∀ before entry during arrival after check,
    steps = before ++ entry :: (during ++ arrival :: after) →
    entry.next.state.settledBy = some check → (∀ step ∈ during, step.next.state ≠ .ready) →
    arrival.next.state = .ready → ∃ step ∈ during ++ [arrival], check ∈ step.passed

/-- The checks left open after a step. -/
def openAfter (opened : List EvidenceCheck) (step : Transition) : List EvidenceCheck :=
  if step.next.state = .ready then []
  else (opened.filter fun check => check ∉ step.passed) ++ step.next.state.settledBy.toList

/-- The checks left open by the operations since the node was last ready. -/
def openChecks (steps : List Transition) : List EvidenceCheck := steps.foldl openAfter []

@[simp] theorem openChecks_concat (steps : List Transition) (step : Transition) :
    openChecks (steps ++ [step]) = openAfter (openChecks steps) step := by
  simp [openChecks]

/-- A check is open when an operation it settles was entered and no later step passed it. -/
theorem mem_openChecks {steps : List Transition} {check : EvidenceCheck} :
    check ∈ openChecks steps ↔ ∃ before entry during, steps = before ++ entry :: during ∧
      entry.next.state.settledBy = some check ∧
      ∀ step ∈ during, step.next.state ≠ .ready ∧ check ∉ step.passed := by
  induction steps using List.reverseRecOn with
  | nil => simp [openChecks]
  | append_singleton steps step ih =>
      rw [openChecks_concat, openAfter]
      constructor
      · intro opened
        split at opened
        · cases opened
        next busy =>
          rw [List.mem_append, List.mem_filter, ih, Option.mem_toList] at opened
          rcases opened with ⟨⟨before, entry, during, rfl, settles, kept⟩, missing⟩ | settles
          · refine ⟨before, entry, during ++ [step], by simp, settles, ?_⟩
            rw [List.forall_mem_append, List.forall_mem_singleton]
            exact ⟨kept, busy, of_decide_eq_true missing⟩
          · exact ⟨steps, step, [], rfl, settles, by simp⟩
      · rintro ⟨before, entry, during, split, settles, kept⟩
        rcases List.eq_nil_or_concat' during with rfl | ⟨during, last, rfl⟩
        · obtain ⟨rfl, ⟨⟩⟩ := List.append_inj' split rfl
          have busy : step.next.state ≠ .ready := by
            intro ready
            rw [ready] at settles
            cases settles
          rw [if_neg busy, List.mem_append, Option.mem_toList]
          exact .inr settles
        · rw [← List.cons_append, ← List.append_assoc] at split
          obtain ⟨rfl, ⟨⟩⟩ := List.append_inj' split rfl
          rw [List.forall_mem_append, List.forall_mem_singleton] at kept
          rw [if_neg kept.2.1, List.mem_append, List.mem_filter, ih]
          exact .inl ⟨⟨before, entry, during, rfl, settles, kept.1⟩, decide_eq_true kept.2.2⟩

/-- Operations are settled when every step into `ready` carries the checks left open. -/
theorem settled_iff_openChecks {steps : List Transition} :
    Settled steps ↔ ∀ before arrival after, steps = before ++ arrival :: after →
      arrival.next.state = .ready → openChecks before ⊆ arrival.passed := by
  constructor
  · rintro settled before arrival after rfl ready check opened
    obtain ⟨earlier, entry, during, rfl, settles, kept⟩ := mem_openChecks.mp opened
    obtain ⟨step, listed, passed⟩ := settled earlier entry during arrival after check (by simp)
      settles (fun step listed => (kept step listed).1) ready
    rw [List.mem_append, List.mem_singleton] at listed
    rcases listed with listed | rfl
    · exact absurd passed (kept step listed).2
    · exact passed
  · rintro carried before entry during arrival after check rfl settles busy ready
    by_cases passed : ∃ step ∈ during, check ∈ step.passed
    · obtain ⟨step, listed, passed⟩ := passed
      exact ⟨step, List.mem_append_left _ listed, passed⟩
    · have missing : ∀ step ∈ during, check ∉ step.passed :=
        fun step listed found => passed ⟨step, listed, found⟩
      refine ⟨arrival, by simp, carried (before ++ entry :: during) arrival after (by simp) ready
        (mem_openChecks.mpr ⟨before, entry, during, rfl, settles, fun step listed =>
          ⟨busy step listed, missing step listed⟩⟩)⟩

/-- The step leaves a drain or an operation for `degraded` or `offline`. -/
def Transition.abandons (t : Transition) : Bool :=
  (t.current.state == .draining || t.current.state.drained) &&
    (t.next.state == .degraded || t.next.state == .offline)

/-- What a detour leaves open is passed before the node is ready. -/
def DetoursSettled (steps : List Transition) : Prop :=
  ∀ before detour during arrival after,
    steps = before ++ detour :: (during ++ arrival :: after) → detour.abandons = true →
    (∀ step ∈ during, step.next.state ≠ .ready) → arrival.next.state = .ready →
    ∀ check ∈ openChecks (before ++ [detour]), ∃ step ∈ during ++ [arrival], check ∈ step.passed

/-- The check is open since a detour. -/
def OpenSinceDetour (steps : List Transition) (check : EvidenceCheck) : Prop :=
  ∃ before detour during, steps = before ++ detour :: during ∧ detour.abandons = true ∧
    check ∈ openChecks (before ++ [detour]) ∧
    ∀ step ∈ during, step.next.state ≠ .ready ∧ check ∉ step.passed

theorem Settled.detours {steps : List Transition} (settled : Settled steps) :
    DetoursSettled steps := by
  rintro before detour during arrival after rfl - busy ready check opened
  obtain ⟨earlier, entry, between, split, settles, kept⟩ := mem_openChecks.mp opened
  obtain ⟨step, listed, passed⟩ := settled earlier entry (between ++ during) arrival after check
    (by simpa using congrArg (· ++ (during ++ arrival :: after)) split) settles
    (by
      rw [List.forall_mem_append]
      exact ⟨fun step listed => (kept step listed).1, busy⟩) ready
  rw [List.append_assoc, List.mem_append] at listed
  rcases listed with listed | listed
  · exact absurd passed (kept step listed).2
  · exact ⟨step, listed, passed⟩

/-- The checks that can be open in a state while no operation has been abandoned. -/
def State.mayOpen : State → List EvidenceCheck
  | .draining | .maintenance => [.schedulingEnabled]
  | .updating => [.schedulingEnabled, .updateVerified]
  | .replacing | .removing | .retired => [.schedulingEnabled, .rollbackVerified]
  | _ => []

theorem State.settledBy_mayOpen {state : State} {check : EvidenceCheck}
    (settles : state.settledBy = some check) : check ∈ state.mayOpen := by
  cases state <;> cases settles <;> simp [mayOpen]

theorem rule_mem {source target : State} {rule : TransitionRule}
    (allowed : transitionRuleFor source target = some rule) :
    (target, rule) ∈ transitionRules source := by
  obtain ⟨before, after, split, _⟩ := List.lookup_eq_some_iff.mp allowed
  rw [split]
  exact List.mem_append_right before List.mem_cons_self

/-- An edge that abandons nothing passes the checks it does not leave open. -/
theorem rule_mayOpen {source target : State} {rule : TransitionRule}
    (allowed : transitionRuleFor source target = some rule)
    (kept : ((source == .draining || source.drained) &&
      (target == .degraded || target == .offline)) = false) :
    ∀ check ∈ source.mayOpen, check ∈ target.mayOpen ∨ check ∈ rule.requiredChecks := by
  have table : ∀ edge ∈ transitionRules source, ((source == .draining || source.drained) &&
      (edge.1 == .degraded || edge.1 == .offline)) = false →
      ∀ check ∈ source.mayOpen, check ∈ edge.1.mayOpen ∨ check ∈ edge.2.requiredChecks := by
    cases source with
    | other text => exact nofun
    | _ => decide
  exact table _ (rule_mem allowed) kept

namespace History

variable {h : History}

/-- **An open check belongs to the state or to a detour.** -/
theorem openChecks_cases {before : List Transition} (part : before <+: h.steps) :
    ∀ check ∈ openChecks before,
      check ∈ (h.objectAfter before).state.mayOpen ∨ OpenSinceDetour before check := by
  refine keeps (P := fun steps => ∀ check ∈ openChecks steps,
    check ∈ (h.objectAfter steps).state.mayOpen ∨ OpenSinceDetour steps check) ?_ ?_ part
  · simp [openChecks]
  intro before step after rule split current accepted known check opened
  have now := opened
  rw [openChecks_concat, openAfter] at opened
  split at opened
  · cases opened
  next busy =>
    rw [List.mem_append, List.mem_filter, Option.mem_toList] at opened
    rw [objectAfter_concat]
    rcases opened with ⟨opened, missing⟩ | settles
    · rcases known check opened with possible | ⟨earlier, detour, during, rfl, left, then', kept⟩
      · cases abandons : step.abandons with
        | true => exact .inr ⟨before, step, [], rfl, abandons, now, by simp⟩
        | false =>
            rw [← current] at possible
            rcases rule_mayOpen accepted.allowed abandons check possible with still | required
            · exact .inl still
            · exact absurd (accepted.passed required) (of_decide_eq_true missing)
      · refine .inr ⟨earlier, detour, during ++ [step], by simp, left, then', ?_⟩
        rw [List.forall_mem_append, List.forall_mem_singleton]
        exact ⟨kept, busy, of_decide_eq_true missing⟩
    · exact .inl (State.settledBy_mayOpen settles)

theorem settled_of_detours (detours : DetoursSettled h.steps) : Settled h.steps := by
  rw [settled_iff_openChecks]
  intro before arrival after split ready check opened
  obtain ⟨current, rule, accepted⟩ := step_accepted split
  rcases openChecks_cases ⟨_, split.symm⟩ check opened with
    possible | ⟨earlier, detour, during, rfl, left, then', kept⟩
  · -- the edge into `ready` asks for what the state can leave open
    have stays : arrival.abandons = false := by simp [Transition.abandons, ready]
    rw [← current] at possible
    rcases rule_mayOpen accepted.allowed stays check possible with still | required
    · rw [ready] at still
      cases still
    · exact accepted.passed required
  · obtain ⟨step, listed, passed⟩ := detours earlier detour during arrival after (by simp [split])
      left (fun step listed => (kept step listed).1) ready check then'
    rw [List.mem_append, List.mem_singleton] at listed
    rcases listed with listed | rfl
    · exact absurd passed (kept step listed).2
    · exact passed

/-- **When operations are settled.** A history settles its operations exactly when the checks
open after each step that leaves a drain or an operation for `degraded` or `offline` are passed
before the node is ready. So it does when there is no such step. -/
theorem settled_iff (h : History) :
    (Settled h.steps ↔ DetoursSettled h.steps) ∧
    ((∀ step ∈ h.steps, step.abandons = false) → Settled h.steps) := by
  refine ⟨⟨Settled.detours, settled_of_detours⟩, fun kept => settled_of_detours ?_⟩
  intro before detour during arrival after split left
  have listed : detour ∈ h.steps := by
    rw [split]
    exact List.mem_append_right before List.mem_cons_self
  rw [kept detour listed] at left
  cases left

end History

/-! ## An abandoned update -/

/-- The object of one node at a given second. -/
def nodeAt (state : State) (second : Nat) (generation : UInt64) (reason : String) :
    NodeLifecycle where
  objectID := "node-1"
  scopeID := "site-1"
  ownerScope := "site-1"
  generation := generation
  resourceVersion := "v" ++ second.repr
  createdAt := 1000000000
  updatedAt := second * 1000000000
  state := state
  stateChangedAt := second * 1000000000
  reason := reason

/-- A transition between two objects of the node. -/
def moveTo (current next : NodeLifecycle) (typeOf : TransitionType)
    (checks : List EvidenceCheck) : Transition where
  current := current
  next := next
  request :=
    { target := next.state
      typeOf := typeOf
      reason := next.reason
      precondition := ⟨current.objectID, current.resourceVersion, some current.generation⟩
      evidence := ⟨checks⟩ }

/-- A node is drained and updated, degrades in the middle of the update and is reported ready
again with the checks. -/
def interruptedSteps (checks : List EvidenceCheck) : List Transition :=
  [moveTo (nodeAt .discovered 1 1 "") (nodeAt .enrolling 2 2 "") .desired
      [.enrollmentAuthorized],
    moveTo (nodeAt .enrolling 2 2 "") (nodeAt .ready 3 2 "") .observation
      [.identityVerified, .readinessPassed],
    moveTo (nodeAt .ready 3 2 "") (nodeAt .draining 4 3 "") .desired
      [.maintenancePreflightPassed, .schedulingDisabled],
    moveTo (nodeAt .draining 4 3 "") (nodeAt .maintenance 5 3 "") .observation drainChecks,
    moveTo (nodeAt .maintenance 5 3 "") (nodeAt .updating 6 4 "") .desired
      [.operationApproved, .maintenancePreflightPassed],
    moveTo (nodeAt .updating 6 4 "") (nodeAt .degraded 7 4 "disk pressure") .observation [],
    moveTo (nodeAt .degraded 7 4 "disk pressure") (nodeAt .ready 8 4 "") .observation checks]

theorem interruptedSteps_linked (checks : List EvidenceCheck) :
    Linked Transition.current Transition.next (nodeAt .discovered 1 1 "")
      (interruptedSteps checks) := by
  simp [interruptedSteps, Linked, moveTo]

/-- The node is reported ready by a readiness check alone. -/
def abandonedUpdate : History :=
  ⟨nodeAt .discovered 1 1 "", interruptedSteps [.readinessPassed], by decide +kernel,
    interruptedSteps_linked _, by decide +kernel⟩

/-- The node is reported ready with the update verified and scheduling enabled. -/
def verifiedUpdate : History :=
  ⟨nodeAt .discovered 1 1 "",
    interruptedSteps [.readinessPassed, .updateVerified, .schedulingEnabled], by decide +kernel,
    interruptedSteps_linked _, by decide +kernel⟩

/-- The update runs on a drained node. -/
theorem drain_guarantee_update : History.DrainedSince (abandonedUpdate.steps.take 5) :=
  ((abandonedUpdate.drain_guarantee.1 (abandonedUpdate.steps.take 5)
    (List.take_prefix 5 _)).2.2.2 (.inl rfl))

/-- The update of the second history is settled after its detour. -/
theorem settled_iff_verified : Settled verifiedUpdate.steps := by
  refine verifiedUpdate.settled_iff.1.mpr ?_
  intro before detour during arrival after split left busy ready
  -- the only detour is the sixth step
  have only : ∀ place < 7, verifiedUpdate.steps[place]?.any Transition.abandons = true →
      place = 5 := by decide +kernel
  have short : before.length < 7 := by
    have length : 7 = (before ++ detour :: (during ++ arrival :: after)).length :=
      congrArg List.length split
    simp only [List.length_append, List.length_cons] at length
    omega
  have sixth : before.length = 5 := by
    refine only before.length short ?_
    rw [split, List.getElem?_append_right le_rfl, Nat.sub_self]
    exact left
  have parts := split.symm.trans (List.take_append_drop 5 verifiedUpdate.steps).symm
  obtain ⟨rfl, rest⟩ := List.append_inj parts sixth
  obtain ⟨rfl, last⟩ := List.cons.inj rest
  cases during with
  | cons step during => simp at last
  | nil =>
      obtain ⟨rfl, -⟩ := List.cons.inj last
      decide +kernel

/-- The node is ready with an update nobody verified and scheduling nobody enabled. -/
theorem abandonedUpdate_unsettled : ¬ Settled abandonedUpdate.steps ∧
    openChecks (abandonedUpdate.steps.take 6) = [.schedulingEnabled, .updateVerified] := by
  refine ⟨fun settled => ?_, by decide +kernel⟩
  have carried := settled_iff_openChecks.mp settled (abandonedUpdate.steps.take 6) _ [] rfl rfl
  exact absurd carried (by decide +kernel)

end ControlCenter.Lifecycle
