import Mathlib.Data.Char
import Mathlib.Order.Compare
import Mathlib.Tactic.Ring

/-!
# Decimal numerals

The value of a run of decimal digits is below the power of ten of its length (`value_lt_pow`),
and a run that does not start with a zero reaches the power below (`pow_le_value`). Hence of two
runs without leading zeros the shorter one is smaller, and runs of one length are ordered as
texts (`compare_eq_compare_value`).
-/

set_option autoImplicit false

namespace ControlCenter.Library.Decimal

/-! ## Digits and values -/

/-- All characters are decimal digits. -/
def Digits (text : List Char) : Prop := ∀ c ∈ text, c.isDigit = true

def digit (c : Char) : Nat := c.toNat - '0'.toNat

/-- The positional value. -/
def value : List Char → Nat
  | [] => 0
  | c :: rest => digit c * 10 ^ rest.length + value rest

theorem Digits.head {c : Char} {rest : List Char} (digits : Digits (c :: rest)) :
    c.isDigit = true :=
  digits c List.mem_cons_self

theorem Digits.tail {c : Char} {rest : List Char} (digits : Digits (c :: rest)) : Digits rest :=
  fun d member => digits d (List.mem_cons_of_mem c member)

theorem toNat_of_isDigit {c : Char} (digit : c.isDigit = true) : 48 ≤ c.toNat ∧ c.toNat ≤ 57 := by
  unfold Char.isDigit at digit
  simp only [Bool.and_eq_true, decide_eq_true_eq, UInt32.le_iff_toNat_le, ge_iff_le] at digit
  have value : c.toNat = c.val.toNat := rfl
  have zero : '0'.val.toNat = 48 := rfl
  have nine : '9'.val.toNat = 57 := rfl
  omega

theorem digit_lt_ten {c : Char} (isDigit : c.isDigit = true) : digit c < 10 := by
  have bounds := toNat_of_isDigit isDigit
  have zero : '0'.toNat = 48 := rfl
  unfold digit
  omega

/-- Digits are ordered as characters. -/
theorem compare_digit {c d : Char} (left : c.isDigit = true) (right : d.isDigit = true) :
    compare c d = compare (digit c) (digit d) := by
  have first := toNat_of_isDigit left
  have second := toNat_of_isDigit right
  have zero : '0'.toNat = 48 := rfl
  have less : c < d ↔ c.toNat < d.toNat := Iff.rfl
  rcases lt_trichotomy c d with smaller | rfl | larger
  · rw [compare_lt_iff_lt.mpr smaller, compare_lt_iff_lt.mpr]
    have := less.mp smaller
    unfold digit
    omega
  · rw [compare_eq_iff_eq.mpr rfl, compare_eq_iff_eq.mpr rfl]
  · rw [compare_gt_iff_gt.mpr larger, compare_gt_iff_gt.mpr]
    have : d.toNat < c.toNat := larger
    unfold digit
    omega

/-! ## Values and lengths -/

theorem value_lt_pow {text : List Char} (digits : Digits text) :
    value text < 10 ^ text.length := by
  induction text with
  | nil => simp [value]
  | cons c rest ih =>
      have small := digit_lt_ten digits.head
      have below := ih digits.tail
      calc digit c * 10 ^ rest.length + value rest
          < digit c * 10 ^ rest.length + 10 ^ rest.length := by omega
        _ = (digit c + 1) * 10 ^ rest.length := by ring
        _ ≤ 10 * 10 ^ rest.length := Nat.mul_le_mul_right _ small
        _ = 10 ^ (c :: rest).length := by rw [List.length_cons, pow_succ, mul_comm]

/-- A first digit other than zero reaches the power of the remaining length. -/
theorem pow_le_value {c : Char} {rest : List Char} (isDigit : c.isDigit = true)
    (nonzero : c ≠ '0') : 10 ^ rest.length ≤ value (c :: rest) := by
  have bounds := toNat_of_isDigit isDigit
  have apart : c.toNat ≠ '0'.toNat := fun same => nonzero (Char.toNat_inj.mp same)
  have zero : '0'.toNat = 48 := rfl
  have positive : 1 ≤ digit c := by
    unfold digit
    omega
  calc 10 ^ rest.length = 1 * 10 ^ rest.length := (one_mul _).symm
    _ ≤ digit c * 10 ^ rest.length := Nat.mul_le_mul_right _ positive
    _ ≤ value (c :: rest) := Nat.le_add_right _ _

/-- Leading zeros do not change the value. -/
theorem value_dropWhile_zero (text : List Char) :
    value (text.dropWhile (· == '0')) = value text := by
  induction text with
  | nil => rfl
  | cons c rest ih =>
      by_cases zero : c = '0'
      · subst zero
        have none : digit '0' = 0 := rfl
        simpa [value, none] using ih
      · simp [zero]

/-! ## Comparison -/

/-- Numbers in one base are compared from the leading place. -/
theorem compare_mul_add {base a b m n : Nat} (below : a < base) (below' : b < base) :
    compare (m * base + a) (n * base + b) = (compare m n).then (compare a b) := by
  have step : ∀ {i j x y : Nat}, i < j → x < base → i * base + x < j * base + y := by
    intro i j x y less small
    calc i * base + x < i * base + base := by omega
      _ = (i + 1) * base := by ring
      _ ≤ j * base := Nat.mul_le_mul_right _ less
      _ ≤ j * base + y := Nat.le_add_right _ _
  rcases lt_trichotomy m n with smaller | rfl | larger
  · rw [compare_lt_iff_lt.mpr smaller, compare_lt_iff_lt.mpr (step smaller below)]
    rfl
  · rw [compare_eq_iff_eq.mpr rfl]
    change _ = compare a b
    rcases lt_trichotomy a b with less | rfl | more
    · rw [compare_lt_iff_lt.mpr less, compare_lt_iff_lt.mpr (by omega)]
    · rw [compare_eq_iff_eq.mpr rfl, compare_eq_iff_eq.mpr rfl]
    · rw [compare_gt_iff_gt.mpr more, compare_gt_iff_gt.mpr (by omega)]
  · rw [compare_gt_iff_gt.mpr larger, compare_gt_iff_gt.mpr (step larger below')]
    rfl

/-- Runs of one length are ordered as texts. -/
theorem compare_eq_compare_value {left right : List Char} (digits : Digits left)
    (digits' : Digits right) (length : left.length = right.length) :
    compare left right = compare (value left) (value right) := by
  induction left generalizing right with
  | nil =>
      obtain rfl : right = [] := List.length_eq_zero_iff.mp length.symm
      rfl
  | cons c rest ih =>
      cases right with
      | nil => simp at length
      | cons d others =>
          have same : rest.length = others.length := by simpa using length
          have tails := ih digits.tail digits'.tail same
          have below := value_lt_pow digits.tail
          have below' := value_lt_pow digits'.tail
          rw [← same] at below'
          rw [List.compare_cons_cons, tails, compare_digit digits.head digits'.head]
          simp only [value, ← same]
          exact (compare_mul_add below below').symm

/-! ## Floating point -/

/-- `strconv.ParseFloat` takes the JSON number: its value does not round to 2^1024. -/
def fitsFloat64 (literal : List Char) : Bool :=
  let mantissa := literal.takeWhile fun c => c != 'e' && c != 'E'
  let exponent := literal.drop (mantissa.length + 1)
  let fraction := (mantissa.dropWhile (· != '.')).length - 1
  let power : Int := (if exponent.contains '-' then -1 else 1) *
    value (exponent.filter Char.isDigit) - fraction
  decide (value (mantissa.filter Char.isDigit) * 10 ^ power.toNat <
    (2 ^ 1024 - 2 ^ 970) * 10 ^ (-power).toNat)

example : fitsFloat64 "-1.5e308".toList = true ∧ fitsFloat64 "18e307".toList = false ∧
    fitsFloat64 "0e400".toList = true := by
  decide +kernel

end ControlCenter.Library.Decimal
