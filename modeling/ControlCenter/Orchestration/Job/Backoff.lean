import ControlCenter.Orchestration.Job.Basic
import Mathlib.Algebra.Order.Ring.Int

/-!
# The retry backoff

`RetryDelay` of `internal/orchestration/job/retry.go` doubles a 64-bit duration in a loop with
two early exits. It computes the exponential backoff of unbounded integers, cut at the cap of
the policy (`retryDelay_saturates`): the loop leaves before a product can overflow, and where it
leaves early the cap is what the unbounded product would be cut to.
-/

set_option autoImplicit false

namespace ControlCenter.Orchestration

open Library

/-- The delay before the second attempt, in nanoseconds. -/
def RetryPolicy.base (policy : RetryPolicy) : Int :=
  if 0 < policy.baseDelay then policy.baseDelay.toInt else 1000000000

/-- The largest delay, in nanoseconds. -/
def RetryPolicy.cap (policy : RetryPolicy) : Int :=
  if 0 < policy.maxDelay then policy.maxDelay.toInt else 2 ^ 63 - 1

/-- The delays that the loop of `retryDelay` doubles. -/
def doubledDelays (policy : RetryPolicy) : Nat → Duration → List Duration
  | 0, _ => []
  | remaining + 1, delay =>
      if 0 < policy.maxDelay ∧ policy.maxDelay ≤ delay then []
      else if maxRetryDelay / 2 < delay then []
      else delay :: doubledDelays policy remaining (delay * 2)

theorem duration_pos_iff {d : Duration} : 0 < d ↔ 0 < d.toInt := by
  rw [Int64.lt_iff_toInt_lt]
  rfl

theorem RetryPolicy.cap_of_pos {policy : RetryPolicy} (capped : 0 < policy.maxDelay) :
    policy.cap = policy.maxDelay.toInt := if_pos capped

theorem RetryPolicy.cap_pos (policy : RetryPolicy) : 0 < policy.cap := by
  unfold cap
  split
  · next capped => exact duration_pos_iff.mp capped
  · decide

/-- A cap never exceeds the largest duration. -/
theorem RetryPolicy.cap_lt (policy : RetryPolicy) : policy.cap < 2 ^ 63 := by
  unfold cap
  split
  · exact Int64.toInt_lt _
  · decide

/-- The first exit: the cap is reached. -/
theorem RetryPolicy.capped_iff {policy : RetryPolicy} {delay : Duration} :
    0 < policy.maxDelay ∧ policy.maxDelay ≤ delay ↔
      0 < policy.maxDelay ∧ policy.cap ≤ delay.toInt := by
  refine and_congr_right fun capped => ?_
  rw [policy.cap_of_pos capped, Int64.le_iff_toInt_le]

/-- The second exit: twice the delay would not fit. -/
theorem half_lt_iff {delay : Duration} : maxRetryDelay / 2 < delay ↔ 2 ^ 62 ≤ delay.toInt := by
  have half : (maxRetryDelay / 2).toInt = 2 ^ 62 - 1 := by decide
  rw [Int64.lt_iff_toInt_lt, half]
  omega

/-- Below that, doubling does not overflow. -/
theorem double_toInt {delay : Duration} (positive : 0 < delay.toInt)
    (fits : delay.toInt < 2 ^ 62) : (delay * 2).toInt = 2 * delay.toInt := by
  have two : Int64.toInt 2 = 2 := by decide
  rw [Int64.toInt_mul, two, Int.bmod_eq_of_le (by omega) (by omega), Int.mul_comm]

/-- **The loop computes a cut power of two.** The induction is on the doublings that remain. -/
theorem retryDelayLoop_toInt (policy : RetryPolicy) (remaining : Nat) {delay : Duration}
    (positive : 0 < delay.toInt) :
    (retryDelayLoop policy remaining delay).toInt =
      min (delay.toInt * 2 ^ remaining) policy.cap := by
  induction remaining generalizing delay with
  | zero =>
      rw [retryDelayLoop, pow_zero, mul_one]
      by_cases capped : 0 < policy.maxDelay
      · rw [policy.cap_of_pos capped]
        by_cases above : policy.maxDelay < delay
        · rw [if_pos ⟨capped, above⟩, min_eq_right (Int64.lt_iff_toInt_lt.mp above).le]
        · rw [if_neg fun both => above both.2,
            min_eq_left (not_lt.mp (mt Int64.lt_iff_toInt_lt.mpr above))]
      · have unbounded : policy.cap = 2 ^ 63 - 1 := if_neg capped
        have := Int64.toInt_lt delay
        rw [if_neg fun both => capped both.1, unbounded, min_eq_left (by omega)]
  | succ remaining ih =>
      have grows : delay.toInt * 2 ≤ delay.toInt * 2 ^ (remaining + 1) := by
        have power : (1 : Int) ≤ 2 ^ remaining := one_le_pow₀ (by decide)
        have twice : (2 : Int) ≤ 2 ^ (remaining + 1) := by
          rw [pow_succ]
          omega
        exact mul_le_mul_of_nonneg_left twice positive.le
      rw [retryDelayLoop]
      by_cases capped : 0 < policy.maxDelay ∧ policy.maxDelay ≤ delay
      · have reached := (policy.capped_iff.mp capped).2
        rw [if_pos capped, min_eq_right (by omega), policy.cap_of_pos capped.1]
      · rw [if_neg capped]
        by_cases large : maxRetryDelay / 2 < delay
        · have := half_lt_iff.mp large
          have := policy.cap_lt
          rw [if_pos large, min_eq_right (by omega)]
          by_cases bounded : 0 < policy.maxDelay
          · rw [if_pos bounded, policy.cap_of_pos bounded]
          · rw [if_neg bounded, RetryPolicy.cap, if_neg bounded]
            decide
        · have fits : delay.toInt < 2 ^ 62 := not_le.mp (mt half_lt_iff.mpr large)
          have doubled := double_toInt positive fits
          rw [if_neg large, ih (by omega), doubled, pow_succ, mul_comm 2 delay.toInt, mul_assoc,
            mul_comm 2 (2 ^ remaining)]

/-- Every product of the loop fits. -/
theorem doubledDelays_fit (policy : RetryPolicy) (remaining : Nat) {delay : Duration}
    (positive : 0 < delay.toInt) :
    ∀ d ∈ doubledDelays policy remaining delay, (d * 2).toInt = 2 * d.toInt := by
  induction remaining generalizing delay with
  | zero => nofun
  | succ remaining ih =>
      rw [doubledDelays]
      split
      · nofun
      · split
        · nofun
        · next small =>
            have doubled := double_toInt positive (not_le.mp (mt half_lt_iff.mpr small))
            rw [List.forall_mem_cons]
            exact ⟨doubled, ih (by omega)⟩

/-- The base of a policy is what the loop starts from. -/
theorem RetryPolicy.base_toInt (policy : RetryPolicy) :
    (if policy.baseDelay ≤ 0 then second else policy.baseDelay).toInt = policy.base := by
  by_cases unset : policy.baseDelay ≤ 0
  · rw [if_pos unset, base, if_neg (Int64.not_lt.mpr unset)]
    decide
  · rw [if_neg unset, base, if_pos (Int64.not_le.mp unset)]

theorem RetryPolicy.base_pos (policy : RetryPolicy) : 0 < policy.base := by
  unfold base
  split
  · next set => exact duration_pos_iff.mp set
  · decide

theorem retryDelay_toInt (attempt : Int) (policy : RetryPolicy) :
    (retryDelay attempt policy).toInt =
      min (policy.base * 2 ^ (max attempt 1 - 1).toNat) policy.cap := by
  have exponent : (max attempt 1 - 1).toNat = (attempt - 1).toNat := by omega
  have start := policy.base_toInt
  have positive := policy.base_pos
  rw [retryDelay, exponent]
  by_cases capped : 0 < policy.maxDelay ∧
      policy.maxDelay ≤ if policy.baseDelay ≤ 0 then second else policy.baseDelay
  · have reached := (policy.capped_iff.mp capped).2
    have power : (1 : Int) ≤ 2 ^ (attempt - 1).toNat := one_le_pow₀ (by decide)
    have grows : policy.base ≤ policy.base * 2 ^ (attempt - 1).toNat :=
      le_mul_of_one_le_right positive.le power
    rw [start] at reached
    rw [if_pos capped, min_eq_right (reached.trans grows), policy.cap_of_pos capped.1]
  · rw [if_neg capped, retryDelayLoop_toInt policy _ (start ▸ positive), start]

/-- **The backoff is exponential and saturates.** It is the base doubled for every attempt but
the first, cut at the cap, as for unbounded integers; so it is positive, bounded and never
decreases, and no product of the loop overflows. -/
theorem retryDelay_saturates (attempt : Int) (policy : RetryPolicy) :
    (retryDelay attempt policy).toInt =
        min (policy.base * 2 ^ (max attempt 1 - 1).toNat) policy.cap ∧
      0 < (retryDelay attempt policy).toInt ∧
      (retryDelay attempt policy).toInt ≤ policy.cap ∧
      (∀ later, attempt ≤ later → retryDelay attempt policy ≤ retryDelay later policy) ∧
      ∀ d ∈ doubledDelays policy (attempt - 1).toNat
          (if policy.baseDelay ≤ 0 then second else policy.baseDelay),
        (d * 2).toInt = 2 * d.toInt := by
  have positive := policy.base_pos
  refine ⟨retryDelay_toInt attempt policy, ?_, ?_, ?_, ?_⟩
  · rw [retryDelay_toInt]
    exact lt_min (mul_pos positive (pow_pos (by decide) _)) policy.cap_pos
  · rw [retryDelay_toInt]
    exact min_le_right _ _
  · intro later ordered
    have exponents : (max attempt 1 - 1).toNat ≤ (max later 1 - 1).toNat := by omega
    rw [Int64.le_iff_toInt_le, retryDelay_toInt, retryDelay_toInt]
    refine min_le_min_right _ (mul_le_mul_of_nonneg_left ?_ positive.le)
    exact pow_le_pow_right₀ (by decide) exponents
  · exact doubledDelays_fit policy _ (policy.base_toInt ▸ positive)

/-- Two seconds, doubled up to a cap of five. -/
theorem retryDelay_saturates_capped :
    (1 : Int) ≤ 3 ∧ retryDelay 1 ⟨2000000000, 5000000000⟩ ≤ retryDelay 3 ⟨2000000000, 5000000000⟩ :=
  ⟨by decide, (retryDelay_saturates 1 _).2.2.2.1 3 (by decide)⟩

end ControlCenter.Orchestration
