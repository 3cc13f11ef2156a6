import Mathlib.Data.List.Sort

/-!
# Sorting

A list sorted by a key that tells its items apart does not depend on the order in which the
items were given (`insertionSort_eq_of_perm`).
-/

set_option autoImplicit false

namespace ControlCenter.Library

variable {α : Type*}

/-- Sorting by a relation that tells the items apart forgets the order they came in. -/
theorem insertionSort_eq_of_perm (le : α → α → Prop) [DecidableRel le] [Std.Total le]
    [IsTrans α le] {first second : List α} (perm : first.Perm second)
    (apart : ∀ a ∈ first, ∀ b ∈ first, le a b → le b a → a = b) :
    first.insertionSort le = second.insertionSort le := by
  refine List.Perm.eq_of_pairwise ?_ (List.pairwise_insertionSort le first)
    (List.pairwise_insertionSort le second) ?_
  · intro a b member member'
    rw [List.mem_insertionSort] at member member'
    exact apart a member b (perm.mem_iff.mpr member')
  · exact (List.perm_insertionSort le first).trans
      (perm.trans (List.perm_insertionSort le second).symm)

end ControlCenter.Library
