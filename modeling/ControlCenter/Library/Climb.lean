import ControlCenter.Library.ParentWalk
import Mathlib.Data.Finset.Image
import Mathlib.Data.List.Nodup

/-!
# Climbing to the top

A loop that starts at a key, goes from parent to parent and keeps the keys it came through.
It ends at a key without a parent, or at a key it came through before.

The loop ends on any parents, when it is given more steps than there are keys
(`climb_some`). It reaches the top exactly from the keys that lead up to one
(`climb_ok_iff`). Above such keys the ancestors are ordered (`Grounded.antisymm`,
`above_total`), and there are fewer of them than keys (`Height.lt_length`).
-/

set_option autoImplicit false

namespace ControlCenter.Library.ParentWalk

variable {K : Type} {parent : K → Option K} {known : K → Bool}

/-! ## The order of the ancestors -/

/-- The ancestors of a key form a chain. -/
theorem above_total {key first second : K} (above : Above parent key first)
    (above' : Above parent key second) : Above parent first second ∨ Above parent second first := by
  refine Relation.ReflTransGen.total_of_right_unique (fun below up up' edge edge' => ?_) above
    above'
  rw [edge, Option.some.injEq] at edge'
  exact edge'

/-- An ancestor of the key lies below the end of its walk. -/
theorem above_top {key ancestor top : K} (ends : parent top = none) (reaches : Above parent key top)
    (above : Above parent key ancestor) : Above parent ancestor top := by
  rcases above_total above reaches with below | beyond
  · exact below
  · rcases Relation.ReflTransGen.cases_head beyond with rfl | ⟨up, edge, -⟩
    · exact .refl
    · rw [ends] at edge
      cases edge

/-- **Walks that meet end at one key.** -/
theorem top_eq_of_meet {key key' meet top top' : K} (ends : parent top = none)
    (ends' : parent top' = none) (reaches : Above parent key top)
    (reaches' : Above parent key' top') (above : Above parent key meet)
    (above' : Above parent key' meet) : top = top' := by
  have below := above_top ends reaches above
  have below' := above_top ends' reaches' above'
  rcases Relation.ReflTransGen.cases_head (above_top ends' below' below) with same | ⟨_, edge, -⟩
  · exact same
  · rw [ends] at edge
    cases edge

/-- Keys that lead up to a top are not ancestors of one another. -/
theorem Grounded.antisymm {key other : K} (grounded : Grounded parent known key)
    (above : Above parent key other) (below : Above parent other key) : key = other := by
  rcases Relation.ReflTransGen.cases_head above with same | ⟨up, edge, rest⟩
  · exact same
  · exact absurd (rest.trans below) (grounded.acyclic edge)

/-- Above a key there is an ancestor of every smaller height. -/
theorem Height.exists_above {key : K} {n : Nat} (height : Height parent known key n) {m : Nat}
    (le : m ≤ n) : ∃ ancestor, Above parent key ancestor ∧ Height parent known ancestor m := by
  induction height with
  | @root key top =>
      obtain rfl : m = 0 := by omega
      exact ⟨key, .refl, .root top⟩
  | @up key next n edge isKnown above ih =>
      by_cases last : m = n + 1
      · subst last
        exact ⟨key, .refl, .up edge isKnown above⟩
      · obtain ⟨ancestor, rest, height⟩ := ih (by omega)
        exact ⟨ancestor, .head edge rest, height⟩

theorem Above.mem {keys : List K} (closed : ∀ key ∈ keys, ∀ up, parent key = some up → up ∈ keys)
    {key ancestor : K} (listed : key ∈ keys) (above : Above parent key ancestor) :
    ancestor ∈ keys := by
  induction above with
  | refl => exact listed
  | tail _ edge ih => exact closed _ ih _ edge

/-- **The height of a key is less than the number of keys.** -/
theorem Height.lt_length [DecidableEq K] {keys : List K}
    (closed : ∀ key ∈ keys, ∀ up, parent key = some up → up ∈ keys) {key : K} {n : Nat}
    (listed : key ∈ keys) (height : Height parent known key n) : n < keys.length := by
  have exists_ : ∀ m ∈ Finset.range (n + 1),
      ∃ ancestor ∈ keys.toFinset, Height parent known ancestor m := by
    intro m below
    obtain ⟨ancestor, above, height'⟩ :=
      height.exists_above (Nat.lt_succ_iff.mp (Finset.mem_range.mp below))
    exact ⟨ancestor, List.mem_toFinset.mpr (Above.mem closed listed above), height'⟩
  have : Nonempty K := ⟨key⟩
  choose! ancestor inside heights using exists_
  -- ancestors of different heights are different keys
  have injective : Set.InjOn ancestor (Finset.range (n + 1) : Set Nat) := by
    intro m below m' below' same
    exact (heights m below).unique (same ▸ heights m' below')
  have few := Finset.card_le_card_of_injOn ancestor inside injective
  rw [Finset.card_range] at few
  exact few.trans (List.toFinset_card_le keys)

/-! ## The loop -/

section Climb

variable [DecidableEq K] (parent)

/-- Go up from a key. The answer is the top, or the key that was met twice; `none` means that
the steps did not suffice. -/
def climb : (fuel : Nat) → (visited : List K) → K → Option (Except K K)
  | 0, _, _ => none
  | fuel + 1, visited, key =>
      if key ∈ visited then some (.error key)
      else
        match parent key with
        | none => some (.ok key)
        | some up => climb fuel (key :: visited) up

variable {parent}

/-- **The loop ends when there are more steps than keys it did not come through.** -/
theorem climb_some {keys : List K}
    (closed : ∀ key ∈ keys, ∀ up, parent key = some up → up ∈ keys) {fuel : Nat}
    {visited : List K} {key : K} (listed : key ∈ keys) (distinct : visited.Nodup)
    (inside : visited ⊆ keys) (enough : keys.length < fuel + visited.length) :
    ∃ result, climb parent fuel visited key = some result := by
  induction fuel generalizing visited key with
  | zero =>
      have few := (List.subperm_of_subset distinct inside).length_le
      omega
  | succ fuel ih =>
      rw [climb]
      split
      · exact ⟨_, rfl⟩
      · next fresh =>
          split
          · exact ⟨_, rfl⟩
          · next up edge =>
              refine ih (closed key listed up edge) (List.nodup_cons.mpr ⟨fresh, distinct⟩)
                (List.cons_subset.mpr ⟨listed, inside⟩) ?_
              rw [List.length_cons]
              omega

/-- A loop that ends at the top came up from the key. -/
theorem climb_ok {fuel : Nat} {visited : List K} {key top : K}
    (climbed : climb parent fuel visited key = some (.ok top)) :
    parent top = none ∧ Above parent key top ∧ Grounded parent (fun _ => true) key := by
  induction fuel generalizing visited key with
  | zero => cases climbed
  | succ fuel ih =>
      rw [climb] at climbed
      split at climbed
      · cases climbed
      · split at climbed
        · next isTop =>
            cases climbed
            exact ⟨isTop, .refl, 0, .root isTop⟩
        · next up edge =>
            obtain ⟨isTop, above, n, height⟩ := ih climbed
            exact ⟨isTop, .head edge above, n + 1, .up edge rfl height⟩

/-- From a key that leads up to a top the loop meets no key twice. -/
theorem climb_not_error {fuel : Nat} {visited : List K} {key again : K}
    (grounded : Grounded parent (fun _ => true) key)
    (free : ∀ ancestor, Above parent key ancestor → ancestor ∉ visited) :
    climb parent fuel visited key ≠ some (.error again) := by
  intro climbed
  induction fuel generalizing visited key with
  | zero => cases climbed
  | succ fuel ih =>
      rw [climb, if_neg (free key .refl)] at climbed
      split at climbed
      · cases climbed
      · next up edge =>
          refine ih (grounded.up edge).2 (fun ancestor above => ?_) climbed
          rw [List.mem_cons, not_or]
          refine ⟨?_, free ancestor (.head edge above)⟩
          rintro rfl
          exact grounded.acyclic edge above

/-- **The loop reaches the top exactly from the keys that lead up to one.** -/
theorem climb_ok_iff {keys : List K}
    (closed : ∀ key ∈ keys, ∀ up, parent key = some up → up ∈ keys) {fuel : Nat} {key : K}
    (listed : key ∈ keys) (enough : keys.length < fuel) :
    (∃ top, climb parent fuel [] key = some (.ok top)) ↔ Grounded parent (fun _ => true) key := by
  constructor
  · rintro ⟨top, climbed⟩
    exact (climb_ok climbed).2.2
  · intro grounded
    obtain ⟨result, climbed⟩ : ∃ result, climb parent fuel [] key = some result :=
      climb_some closed listed List.nodup_nil (List.nil_subset _) (by simpa using enough)
    cases result with
    | ok top => exact ⟨top, climbed⟩
    | error again =>
        exact absurd climbed (climb_not_error grounded fun _ _ => List.not_mem_nil)

end Climb

end ControlCenter.Library.ParentWalk
