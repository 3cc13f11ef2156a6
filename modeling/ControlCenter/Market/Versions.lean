import Mathlib.Data.Char
import Mathlib.Data.Prod.Lex
import Mathlib.Order.Interval.Set.Basic
import ControlCenter.Library.Decimal
import ControlCenter.Library.Go

/-!
# Version constraints of market manifests

`internal/market/manifest_v2.go`: a dependency of a manifest names the versions it accepts by one
or two comparators. Two comparators are a lower and an upper bound, and the manifest is refused
when they exclude each other. Versions are compared as texts: component by component, without
leading zeros, the shorter text first and texts of one length by their bytes.

The comparison is the one of the numbers (`compareSemanticVersions_eq_compare`). The two bounds
are judged by their order alone. That is right unless both are strict and the upper one is the
next version after the lower one, as in `>1.0.0 <1.0.1`, which no version satisfies and the
manifest check accepts (`versionConstraints_exact_iff`).

The regular expressions are written out on lists of characters. Comparison results are of type
`Ordering` where the source has -1, 0 and 1, and an answer of `none` is an index out of range.
Lengths count characters, all compared texts being ASCII.
-/

set_option autoImplicit false

namespace ControlCenter.Market

open Library Library.Decimal

/-! ## Model -/

/-- `strings.Fields`. -/
def fields (text : List Char) : List (List Char) :=
  (text.splitOnP isSpace).filter (· ≠ [])

/-- What the first group of `versionComparatorParts` holds. -/
inductive Operator where
  | absent
  | equal
  | atLeast
  | atMost
  | above
  | below
  | caret
  | tilde
  deriving DecidableEq

def takeOperator : List Char → Operator × List Char
  | '=' :: rest => (.equal, rest)
  | '>' :: '=' :: rest => (.atLeast, rest)
  | '<' :: '=' :: rest => (.atMost, rest)
  | '>' :: rest => (.above, rest)
  | '<' :: rest => (.below, rest)
  | '^' :: rest => (.caret, rest)
  | '~' :: rest => (.tilde, rest)
  | rest => (.absent, rest)

/-- The expression `[0-9]+`. -/
def isDecimal (text : List Char) : Bool := text ≠ [] && text.all Char.isDigit

/-- The expression `[0-9]+\.[0-9]+\.[0-9]+` on a whole text. -/
def isVersion (text : List Char) : Bool :=
  (text.splitOn '.').length == 3 && (text.splitOn '.').all isDecimal

structure Bound where
  op : Operator
  version : List Char
  deriving DecidableEq

def versionComparatorParts (part : List Char) : Option Bound :=
  let (op, version) := takeOperator part
  if isVersion version then some ⟨op, version⟩ else none

/-- The same expression without groups. -/
def versionComparatorPattern (part : List Char) : Bool := (versionComparatorParts part).isSome

/-- `strings.TrimLeft` of zeros, with `0` for an empty rest. -/
def trimZeros (text : List Char) : List Char :=
  match text.dropWhile (· == '0') with
  | [] => ['0']
  | trimmed => trimmed

def compareDecimalStrings (left right : List Char) : Ordering :=
  let left := trimZeros left
  let right := trimZeros right
  if left.length < right.length then .lt
  else if left.length > right.length then .gt
  else compare left right

/-- The loop of `compareSemanticVersions`, which runs through the parts on the left. -/
def compareParts : List (List Char) → List (List Char) → Option Ordering
  | [], _ => some .eq
  | _ :: _, [] => none
  | left :: lefts, right :: rights =>
      let comparison := compareDecimalStrings left right
      if comparison ≠ .eq then some comparison else compareParts lefts rights

def compareSemanticVersions (left right : List Char) : Option Ordering :=
  compareParts (left.splitOn '.') (right.splitOn '.')

def Operator.isLower (op : Operator) : Bool := op = .above || op = .atLeast

def Operator.isUpper (op : Operator) : Bool := op = .below || op = .atMost

/-- The loop of `validVersionConstraint` that sorts the parts into the two bounds. -/
def collectBounds (lower upper : Option Bound) :
    List (List Char) → Option (Option Bound × Option Bound)
  | [] => some (lower, upper)
  | part :: rest =>
      match versionComparatorParts part with
      | none => none
      | some candidate =>
          if candidate.op.isLower then
            if lower.isSome then none else collectBounds (some candidate) upper rest
          else if candidate.op.isUpper then
            if upper.isSome then none else collectBounds lower (some candidate) rest
          else none

def boundsOrdered (lower upper : Bound) : Option Bool :=
  (compareSemanticVersions lower.version upper.version).map fun comparison =>
    comparison = .lt || comparison = .eq && lower.op = .atLeast && upper.op = .atMost

/-- What is left of `validVersionConstraint` after the loop. -/
def judgeBounds : Option (Option Bound × Option Bound) → Option Bool
  | some (some lower, some upper) => boundsOrdered lower upper
  | _ => some false

def validVersionConstraint (constraint : String) : Option Bool :=
  let parts := fields constraint.toList
  if parts.length = 0 ∨ parts.length > 2 then some false
  else if !parts.all versionComparatorPattern then some false
  else if parts.length = 1 then some true
  else judgeBounds (collectBounds none none parts)

/-! ## Versions as numbers -/

/-- A version `x.y.z`, ordered by `x`, then `y`, then `z`. -/
abbrev Version := ℕ ×ₗ ℕ ×ₗ ℕ

/-- The version with these parts. -/
def ofParts (x y z : ℕ) : Version := toLex (x, toLex (y, z))

/-- The numbers a version text spells. -/
def numbers (text : List Char) : Version :=
  match (text.splitOn '.').map value with
  | [x, y, z] => ofParts x y z
  | _ => ofParts 0 0 0

/-- The version after which no other comes before `next`. -/
def next (version : Version) : Version :=
  ofParts (ofLex version).1 (ofLex (ofLex version).2).1 ((ofLex (ofLex version).2).2 + 1)

/-- What a lower or an upper bound asks of a version. The other operators are no bounds. -/
def Bound.Admits (bound : Bound) (version : Version) : Prop :=
  match bound.op with
  | .above => numbers bound.version < version
  | .atLeast => numbers bound.version ≤ version
  | .below => version < numbers bound.version
  | .atMost => version ≤ numbers bound.version
  | _ => False

/-- A lower and an upper bound that some version satisfies. -/
def Satisfiable (lower upper : Bound) : Prop :=
  lower.op.isLower = true ∧ upper.op.isUpper = true ∧
    ∃ version, lower.Admits version ∧ upper.Admits version

/-- Two strict bounds with no version between them although the lower one is below. -/
def Adjacent (lower upper : Bound) : Prop :=
  lower.op = .above ∧ upper.op = .below ∧ numbers upper.version = next (numbers lower.version)

/-- The versions are compared as not above. -/
def VersionLE (left right : List Char) : Prop :=
  ∃ comparison, compareSemanticVersions left right = some comparison ∧ comparison ≠ .gt

/-! ## Comparison of decimal texts -/

theorem digits_of_isDecimal {text : List Char} (decimal : isDecimal text = true) :
    Digits text := by
  simp only [isDecimal, Bool.and_eq_true, List.all_eq_true] at decimal
  exact decimal.2

/-- Either the text is all zeros, or its first digit other than zero is kept with the rest. -/
theorem trimZeros_cases (text : List Char) :
    text.dropWhile (· == '0') = [] ∧ trimZeros text = ['0'] ∨
      ∃ c rest, text.dropWhile (· == '0') = c :: rest ∧ trimZeros text = c :: rest ∧ c ≠ '0' := by
  unfold trimZeros
  cases trimmed : text.dropWhile (· == '0') with
  | nil => exact .inl ⟨rfl, rfl⟩
  | cons c rest =>
      have kept : text.dropWhile (· == '0') ≠ [] := by simp [trimmed]
      have first := List.head_dropWhile_not (· == '0') kept
      simp only [trimmed, List.head_cons, beq_eq_false_iff_ne] at first
      exact .inr ⟨c, rest, rfl, rfl, first⟩

theorem value_trimZeros (text : List Char) : value (trimZeros text) = value text := by
  rw [← value_dropWhile_zero text]
  obtain ⟨empty, zero⟩ | ⟨c, rest, trimmed, kept, -⟩ := trimZeros_cases text
  · rw [empty, zero]
    rfl
  · rw [trimmed, kept]

theorem digits_trimZeros {text : List Char} (digits : Digits text) : Digits (trimZeros text) := by
  obtain ⟨-, zero⟩ | ⟨c, rest, trimmed, kept, -⟩ := trimZeros_cases text
  · rw [zero]
    intro d member
    rw [List.mem_singleton.mp member]
    rfl
  · rw [kept, ← trimmed]
    intro d member
    exact digits d ((List.dropWhile_sublist _).subset member)

/-- Of two trimmed texts the shorter one is smaller. -/
theorem value_lt_of_length_lt {left right : List Char} (digits : Digits left)
    (digits' : Digits right) (shorter : (trimZeros left).length < (trimZeros right).length) :
    value left < value right := by
  have below := value_lt_pow (digits_trimZeros digits)
  have own := digits_trimZeros digits'
  rw [← value_trimZeros left, ← value_trimZeros right]
  obtain ⟨-, zero⟩ | ⟨c, rest, -, kept, nonzero⟩ := trimZeros_cases right
  · -- A single zero has nothing shorter.
    obtain ⟨-, other⟩ | ⟨_, _, -, other, -⟩ := trimZeros_cases left
    · simp [zero, other] at shorter
    · simp [zero, other] at shorter
  · rw [kept] at own shorter ⊢
    have fits : (trimZeros left).length ≤ rest.length := Nat.le_of_lt_succ shorter
    calc value (trimZeros left) < 10 ^ (trimZeros left).length := below
      _ ≤ 10 ^ rest.length := Nat.pow_le_pow_right (by omega) fits
      _ ≤ value (c :: rest) := pow_le_value own.head nonzero

theorem compareDecimalStrings_eq_compare {left right : List Char} (digits : Digits left)
    (digits' : Digits right) :
    compareDecimalStrings left right = compare (value left) (value right) := by
  unfold compareDecimalStrings
  dsimp only
  split_ifs with shorter longer
  · exact (compare_lt_iff_lt.mpr (value_lt_of_length_lt digits digits' shorter)).symm
  · exact (compare_gt_iff_gt.mpr (value_lt_of_length_lt digits' digits longer)).symm
  · rw [compare_eq_compare_value (digits_trimZeros digits) (digits_trimZeros digits') (by omega),
      value_trimZeros, value_trimZeros]

/-! ## Comparison of versions -/

theorem point_notMem_of_isDecimal {text : List Char} (decimal : isDecimal text = true) :
    '.' ∉ text := by
  intro member
  have := digits_of_isDecimal decimal '.' member
  revert this
  decide

theorem splitOn_point {x y z : List Char} (first : isDecimal x = true)
    (second : isDecimal y = true) (third : isDecimal z = true) :
    (x ++ '.' :: y ++ '.' :: z).splitOn '.' = [x, y, z] := by
  have free : ∀ part ∈ [x, y, z], '.' ∉ part := by
    simp [point_notMem_of_isDecimal, first, second, third]
  have joined := List.splitOn_intercalate '.' free (by simp)
  simpa [List.intercalate] using joined

/-- The texts of the expression are three decimal texts with points between them. -/
theorem isVersion_iff (text : List Char) :
    isVersion text = true ↔ ∃ x y z, text = x ++ '.' :: y ++ '.' :: z ∧ isDecimal x = true ∧
      isDecimal y = true ∧ isDecimal z = true := by
  constructor
  · intro version
    simp only [isVersion, Bool.and_eq_true, beq_iff_eq] at version
    obtain ⟨three, decimal⟩ := version
    obtain ⟨x, y, z, parts⟩ := List.length_eq_three.mp three
    have joined : ['.'].intercalate (text.splitOn '.') = text := List.intercalate_splitOn '.'
    rw [parts] at joined decimal
    refine ⟨x, y, z, ?_, ?_⟩
    · rw [← joined]
      simp [List.intercalate]
    · simpa using decimal
  · rintro ⟨x, y, z, rfl, first, second, third⟩
    unfold isVersion
    rw [splitOn_point first second third]
    simp [first, second, third]

theorem isVersion_parts {text : List Char} (version : isVersion text = true) :
    ∃ x y z, text.splitOn '.' = [x, y, z] ∧ Digits x ∧ Digits y ∧ Digits z := by
  obtain ⟨x, y, z, rfl, first, second, third⟩ := (isVersion_iff text).mp version
  exact ⟨x, y, z, splitOn_point first second third, digits_of_isDecimal first,
    digits_of_isDecimal second, digits_of_isDecimal third⟩

theorem numbers_of_parts {text x y z : List Char} (parts : text.splitOn '.' = [x, y, z]) :
    numbers text = ofParts (value x) (value y) (value z) := by
  simp [numbers, parts]

theorem compare_ofParts (x y z x' y' z' : ℕ) :
    compare (ofParts x y z) (ofParts x' y' z') =
      (compare x x').then ((compare y y').then (compare z z')) := rfl

/-- **Versions are compared as their numbers.** -/
theorem compareSemanticVersions_eq_compare {left right : List Char}
    (version : isVersion left = true) (version' : isVersion right = true) :
    compareSemanticVersions left right = some (compare (numbers left) (numbers right)) := by
  obtain ⟨x, y, z, parts, first, second, third⟩ := isVersion_parts version
  obtain ⟨x', y', z', parts', first', second', third'⟩ := isVersion_parts version'
  rw [numbers_of_parts parts, numbers_of_parts parts', compare_ofParts]
  simp only [compareSemanticVersions, parts, parts', compareParts,
    compareDecimalStrings_eq_compare first first', compareDecimalStrings_eq_compare second second',
    compareDecimalStrings_eq_compare third third']
  cases compare (value x) (value x') <;> cases compare (value y) (value y') <;>
    cases compare (value z) (value z') <;> rfl

theorem versionLE_iff {left right : List Char} (version : isVersion left = true)
    (version' : isVersion right = true) :
    VersionLE left right ↔ numbers left ≤ numbers right := by
  unfold VersionLE
  rw [compareSemanticVersions_eq_compare version version']
  constructor
  · rintro ⟨comparison, same, notAbove⟩
    obtain rfl := Option.some.inj same
    exact compare_le_iff_le.mp notAbove
  · intro below
    exact ⟨_, rfl, compare_le_iff_le.mpr below⟩

/-! ## Accepted constraints -/

/-- How the source judges two bounds, on the numbers. -/
def Ordered (lower upper : Bound) : Prop :=
  lower.op.isLower = true ∧ upper.op.isUpper = true ∧
    (numbers lower.version < numbers upper.version ∨
      numbers lower.version = numbers upper.version ∧ lower.op = .atLeast ∧ upper.op = .atMost)

theorem isVersion_of_parts {part : List Char} {bound : Bound}
    (parts : versionComparatorParts part = some bound) : isVersion bound.version = true := by
  unfold versionComparatorParts at parts
  dsimp only at parts
  split at parts
  · obtain rfl := Option.some.inj parts
    assumption
  · cases parts

theorem boundsOrdered_iff {lower upper : Bound} (version : isVersion lower.version = true)
    (version' : isVersion upper.version = true) :
    boundsOrdered lower upper = some true ↔
      numbers lower.version < numbers upper.version ∨
        numbers lower.version = numbers upper.version ∧ lower.op = .atLeast ∧
          upper.op = .atMost := by
  unfold boundsOrdered
  rw [compareSemanticVersions_eq_compare version version']
  simp [compare_lt_iff_lt, compare_eq_iff_eq, and_assoc]

theorem isUpper_eq_false {op : Operator} (lower : op.isLower = true) : op.isUpper = false := by
  cases op with
  | above => rfl
  | atLeast => rfl
  | _ => cases lower

/-- The loop finds both bounds exactly when one part is a lower and the other an upper bound. -/
theorem collectBounds_two {first second : List Char} {c d : Bound}
    (parts : versionComparatorParts first = some c)
    (parts' : versionComparatorParts second = some d) :
    collectBounds none none [first, second] =
      if c.op.isLower = true ∧ d.op.isUpper = true then some (some c, some d)
      else if d.op.isLower = true ∧ c.op.isUpper = true then some (some d, some c)
      else none := by
  simp only [collectBounds, parts, parts']
  cases lower : c.op.isLower with
  | true =>
      have notUpper := isUpper_eq_false lower
      cases lower' : d.op.isLower with
      | true => simp [notUpper, isUpper_eq_false lower']
      | false => simp [notUpper]
  | false =>
      cases upper : c.op.isUpper with
      | true =>
          cases lower' : d.op.isLower with
          | true => simp
          | false => simp
      | false => simp

theorem validVersionConstraint_two {constraint : String} {first second : List Char} {c d : Bound}
    (split : fields constraint.toList = [first, second])
    (parts : versionComparatorParts first = some c)
    (parts' : versionComparatorParts second = some d) :
    validVersionConstraint constraint = some true ↔ Ordered c d ∨ Ordered d c := by
  have version := isVersion_of_parts parts
  have version' := isVersion_of_parts parts'
  have wellFormed : [first, second].all versionComparatorPattern = true := by
    simp [versionComparatorPattern, parts, parts']
  have answer : validVersionConstraint constraint =
      judgeBounds (collectBounds none none [first, second]) := by
    simp only [validVersionConstraint, split, wellFormed]
    rfl
  rw [answer, collectBounds_two parts parts']
  split_ifs with forward backward
  · have other : d.op.isLower = false := by
      by_contra lower
      have := isUpper_eq_false (Bool.eq_true_of_not_eq_false lower)
      simp [forward.2] at this
    simp only [judgeBounds, boundsOrdered_iff version version', Ordered, forward, other]
    simp
  · have other : c.op.isLower = false := by
      by_contra lower
      have := isUpper_eq_false (Bool.eq_true_of_not_eq_false lower)
      simp [backward.2] at this
    simp only [judgeBounds, boundsOrdered_iff version' version, Ordered, backward, other]
    simp
  · have refused : ¬ (Ordered c d ∨ Ordered d c) := by
      rintro (⟨lower, upper, -⟩ | ⟨lower, upper, -⟩)
      · exact forward ⟨lower, upper⟩
      · exact backward ⟨lower, upper⟩
    simp [judgeBounds, refused]

/-! ## Versions between two bounds -/

theorem ofParts_lt_iff {x y z x' y' z' : ℕ} :
    ofParts x y z < ofParts x' y' z' ↔
      x < x' ∨ x = x' ∧ (y < y' ∨ y = y' ∧ z < z') := by
  simp [ofParts, Prod.Lex.toLex_lt_toLex]

theorem exists_ofParts (version : Version) : ∃ x y z, version = ofParts x y z :=
  ⟨_, _, _, rfl⟩

/-- The next version is the least one above. -/
theorem next_le_iff_lt {version other : Version} : next version ≤ other ↔ version < other := by
  obtain ⟨x, y, z, rfl⟩ := exists_ofParts version
  obtain ⟨x', y', z', rfl⟩ := exists_ofParts other
  have successor : next (ofParts x y z) = ofParts x y (z + 1) := rfl
  rw [successor, ← not_lt, ofParts_lt_iff, ofParts_lt_iff]
  omega

theorem lt_next (version : Version) : version < next version := next_le_iff_lt.mp le_rfl

/-- Some version lies strictly between two others unless the second is the next one. -/
theorem exists_between_iff (low high : Version) :
    (∃ version, low < version ∧ version < high) ↔ low < high ∧ high ≠ next low := by
  constructor
  · rintro ⟨version, after, before⟩
    refine ⟨after.trans before, ?_⟩
    rintro rfl
    exact absurd (next_le_iff_lt.mpr after) (not_le.mpr before)
  · rintro ⟨ordered, apart⟩
    exact ⟨next low, lt_next low, lt_of_le_of_ne (next_le_iff_lt.mpr ordered) apart.symm⟩

/-- **Bounds in order are satisfiable, unless nothing lies between two strict ones.** -/
theorem satisfiable_iff (lower upper : Bound) :
    Satisfiable lower upper ↔ Ordered lower upper ∧ ¬ Adjacent lower upper := by
  unfold Satisfiable Ordered Adjacent Bound.Admits
  generalize numbers lower.version = low
  generalize numbers upper.version = high
  have openLow : (∃ version, low < version ∧ version ≤ high) ↔ low < high := Set.nonempty_Ioc
  have openHigh : (∃ version, low ≤ version ∧ version < high) ↔ low < high := Set.nonempty_Ico
  have closed : (∃ version, low ≤ version ∧ version ≤ high) ↔ low < high ∨ low = high :=
    Set.nonempty_Icc.trans le_iff_lt_or_eq
  cases lowerOp : lower.op with
  | above =>
      cases upperOp : upper.op with
      | below =>
          simp only [Operator.isLower, Operator.isUpper, exists_between_iff]
          simp
      | atMost =>
          simp only [Operator.isLower, Operator.isUpper, openLow]
          simp
      | _ => simp [Operator.isUpper]
  | atLeast =>
      cases upperOp : upper.op with
      | below =>
          simp only [Operator.isLower, Operator.isUpper, openHigh]
          simp
      | atMost =>
          simp only [Operator.isLower, Operator.isUpper, closed]
          simp
      | _ => simp [Operator.isUpper]
  | _ => simp [Operator.isLower]

theorem Adjacent.ordered {lower upper : Bound} (adjacent : Adjacent lower upper) :
    Ordered lower upper := by
  obtain ⟨low, high, next⟩ := adjacent
  refine ⟨by rw [low]; rfl, by rw [high]; rfl, .inl ?_⟩
  rw [next]
  exact lt_next _

/-- A bound that is below another as a lower bound is not above it as an upper bound. -/
theorem Ordered.not_swapped {lower upper : Bound} (ordered : Ordered lower upper) :
    ¬ Ordered upper lower := by
  intro swapped
  have notUpper := isUpper_eq_false ordered.1
  rw [swapped.2.1] at notUpper
  cases notUpper

/-- Two bounds are judged rightly in this order exactly when they are not adjacent. -/
theorem ordered_iff_satisfiable_iff (lower upper : Bound) :
    (Ordered lower upper ↔ Satisfiable lower upper) ↔ ¬ Adjacent lower upper := by
  rw [satisfiable_iff]
  constructor
  · intro agree adjacent
    exact (agree.mp adjacent.ordered).2 adjacent
  · intro apart
    exact ⟨fun ordered => ⟨ordered, apart⟩, And.left⟩

/-- **Versions are compared as numbers, and two bounds are accepted exactly when some version
satisfies both, unless they are strict and adjacent.** -/
theorem versionConstraints_exact_iff (left middle right : List Char) (constraint : String)
    (first second : List Char) (c d : Bound) :
    (isVersion left = true → isVersion right = true →
      compareSemanticVersions left right = some (compare (numbers left) (numbers right))) ∧
    (isVersion left = true → isVersion middle = true → isVersion right = true →
      VersionLE left left ∧ (VersionLE left right ∨ VersionLE right left) ∧
        (VersionLE left middle → VersionLE middle right → VersionLE left right)) ∧
    (fields constraint.toList = [first, second] → versionComparatorParts first = some c →
      versionComparatorParts second = some d →
      ((validVersionConstraint constraint = some true ↔ Satisfiable c d ∨ Satisfiable d c) ↔
        ¬ (Adjacent c d ∨ Adjacent d c))) := by
  refine ⟨compareSemanticVersions_eq_compare, ?_, ?_⟩
  · intro versionLeft versionMiddle versionRight
    rw [versionLE_iff versionLeft versionLeft, versionLE_iff versionLeft versionRight,
      versionLE_iff versionRight versionLeft, versionLE_iff versionLeft versionMiddle,
      versionLE_iff versionMiddle versionRight]
    exact ⟨le_rfl, le_total _ _, le_trans⟩
  · intro split parts parts'
    rw [validVersionConstraint_two split parts parts']
    constructor
    · rintro agree (adjacent | adjacent)
      · rcases agree.mp (.inl adjacent.ordered) with satisfiable | satisfiable
        · exact ((satisfiable_iff c d).mp satisfiable).2 adjacent
        · exact adjacent.ordered.not_swapped ((satisfiable_iff d c).mp satisfiable).1
      · rcases agree.mp (.inr adjacent.ordered) with satisfiable | satisfiable
        · exact adjacent.ordered.not_swapped ((satisfiable_iff c d).mp satisfiable).1
        · exact ((satisfiable_iff d c).mp satisfiable).2 adjacent
    · intro apart
      rw [(ordered_iff_satisfiable_iff c d).mpr fun adjacent => apart (.inl adjacent),
        (ordered_iff_satisfiable_iff d c).mpr fun adjacent => apart (.inr adjacent)]

/-- A half-open range of one version, and a version text with a leading zero. -/
theorem versionConstraints_exact_half_open :
    (isVersion "1.02.0".toList = true ∧ isVersion "1.2.9".toList = true ∧
      isVersion "1.10.0".toList = true ∧
      fields ">=1.0.0  <1.0.1".toList = [">=1.0.0".toList, "<1.0.1".toList] ∧
      versionComparatorParts ">=1.0.0".toList = some ⟨.atLeast, "1.0.0".toList⟩ ∧
      versionComparatorParts "<1.0.1".toList = some ⟨.below, "1.0.1".toList⟩) ∧
    compareSemanticVersions "1.02.0".toList "1.10.0".toList =
      some (compare (numbers "1.02.0".toList) (numbers "1.10.0".toList)) ∧
    (VersionLE "1.02.0".toList "1.10.0".toList ∨ VersionLE "1.10.0".toList "1.02.0".toList) ∧
    ((validVersionConstraint ">=1.0.0  <1.0.1" = some true ↔
      Satisfiable ⟨.atLeast, "1.0.0".toList⟩ ⟨.below, "1.0.1".toList⟩ ∨
        Satisfiable ⟨.below, "1.0.1".toList⟩ ⟨.atLeast, "1.0.0".toList⟩) ↔
      ¬ (Adjacent ⟨.atLeast, "1.0.0".toList⟩ ⟨.below, "1.0.1".toList⟩ ∨
        Adjacent ⟨.below, "1.0.1".toList⟩ ⟨.atLeast, "1.0.0".toList⟩)) := by
  have all := versionConstraints_exact_iff "1.02.0".toList "1.2.9".toList "1.10.0".toList
    ">=1.0.0  <1.0.1" ">=1.0.0".toList "<1.0.1".toList ⟨.atLeast, "1.0.0".toList⟩
    ⟨.below, "1.0.1".toList⟩
  refine ⟨by decide, all.1 (by decide) (by decide), ?_, ?_⟩
  · exact (all.2.1 (by decide) (by decide) (by decide)).2.1
  · exact all.2.2 (by decide) (by decide) (by decide)

/-- The constraint `>1.0.0 <1.0.1` is accepted and excludes every version. -/
theorem validVersionConstraint_empty_range :
    fields ">1.0.0 <1.0.1".toList = [">1.0.0".toList, "<1.0.1".toList] ∧
    versionComparatorParts ">1.0.0".toList = some ⟨.above, "1.0.0".toList⟩ ∧
    versionComparatorParts "<1.0.1".toList = some ⟨.below, "1.0.1".toList⟩ ∧
    validVersionConstraint ">1.0.0 <1.0.1" = some true ∧
    ¬ ∃ version, Bound.Admits ⟨.above, "1.0.0".toList⟩ version ∧
      Bound.Admits ⟨.below, "1.0.1".toList⟩ version := by
  refine ⟨by decide, by decide, by decide, by decide, ?_⟩
  rintro ⟨version, after, before⟩
  have adjacent : numbers "1.0.1".toList = next (numbers "1.0.0".toList) := by decide
  change version < numbers "1.0.1".toList at before
  rw [adjacent] at before
  exact absurd (next_le_iff_lt.mpr after) (not_le.mpr before)

end ControlCenter.Market
