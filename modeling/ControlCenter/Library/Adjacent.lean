import ControlCenter.Library.Checks
import Mathlib.Data.List.Chain

/-!
# Tests of neighbours

A loop over a sorted list that compares each item with the one before it. It passes when every
item stands well to its successor (`passes_adjacentChecks`); when the relation is transitive on
the sorted list, that is a statement about all pairs. In particular a sorted list has no equal
neighbours exactly when it has no repeated key (`isChain_ne_iff_nodup`).
-/

set_option autoImplicit false

namespace ControlCenter.Library

variable {α κ ε : Type*}

/-- The tests of each item against its successor. -/
def adjacentChecks (bad : α → α → Bool) (error : α → α → ε) : List α → List (Bool × ε)
  | first :: second :: rest =>
      (bad first second, error first second) :: adjacentChecks bad error (second :: rest)
  | _ => []

theorem passes_adjacentChecks {bad : α → α → Bool} {error : α → α → ε} {items : List α} :
    Passes (adjacentChecks bad error items) ↔
      items.IsChain fun first second => bad first second = false := by
  induction items with
  | nil => simp [adjacentChecks]
  | cons first rest ih =>
      cases rest with
      | nil => simp [adjacentChecks]
      | cons second rest => rw [adjacentChecks, passes_cons, List.isChain_cons_cons, ih]

theorem isChain_and {R S : α → α → Prop} {items : List α} (first : items.IsChain R)
    (second : items.IsChain S) : items.IsChain fun a b => R a b ∧ S a b := by
  rw [List.isChain_iff_forall_rel_of_append_cons_cons] at *
  exact fun _ _ _ _ split => ⟨first split, second split⟩

/-- **A sorted list repeats no key when no neighbours have one key.** -/
theorem isChain_ne_iff_nodup [PartialOrder κ] {key : α → κ} {items : List α}
    (sorted : items.Pairwise fun a b => key a ≤ key b) :
    items.IsChain (fun a b => key a ≠ key b) ↔ (items.map key).Nodup := by
  rw [List.Nodup, List.pairwise_map]
  constructor
  · intro apart
    have : IsTrans α fun a b => key a < key b := ⟨fun _ _ _ => lt_trans⟩
    have ascending : items.IsChain fun a b => key a < key b :=
      (isChain_and apart sorted.isChain).imp fun _ _ both => lt_of_le_of_ne both.2 both.1
    exact ascending.pairwise.imp fun below => below.ne
  · exact fun distinct => distinct.isChain

end ControlCenter.Library
