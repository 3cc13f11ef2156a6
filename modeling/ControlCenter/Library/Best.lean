import Mathlib.Data.List.Basic

/-!
# Keeping the best item of a loop

A loop keeps the best item seen so far and replaces it by an item that is strictly better. When
"better" is irreflexive and transitive, what it keeps is one of the items and none of them is
better (`Best.pick`, `Best.foldl`). When any two items can be compared, that item is determined
by the items alone, whatever their order (`Best.unique`).

When "not better" is transitive as well, the loop may keep the best item of each part of the list
and then the best of those (`foldl_pick_some`).
-/

set_option autoImplicit false

namespace ControlCenter.Library

variable {α : Type*}

/-- Replace the item that is kept by a better one. -/
def pick (better : α → α → Bool) (current : Option α) (candidate : α) : Option α :=
  match current with
  | none => some candidate
  | some kept => if better candidate kept then some candidate else some kept

/-- The item that is kept is one of the items, and none of them is better. -/
structure Best (better : α → α → Bool) (kept : Option α) (items : List α) : Prop where
  empty : kept = none → items = []
  listed : ∀ a, kept = some a → a ∈ items
  best : ∀ a, kept = some a → ∀ other ∈ items, better other a = false

section Best

variable {better : α → α → Bool}

theorem Best.nil : Best better none [] := ⟨fun _ => rfl, nofun, nofun⟩

/-- **One turn of the loop keeps the best item.** -/
theorem Best.pick (irrefl : ∀ a, better a a = false)
    (trans : ∀ a b c, better a b = true → better b c = true → better a c = true)
    {kept : Option α} {items : List α} (best : Best better kept items) (candidate : α) :
    Best better (pick better kept candidate) (items ++ [candidate]) := by
  cases kept with
  | none =>
      rw [best.empty rfl]
      refine ⟨nofun, ?_, ?_⟩
      · rintro _ ⟨⟩
        exact List.mem_singleton_self candidate
      · rintro _ ⟨⟩ other listed
        rw [List.mem_singleton.mp listed]
        exact irrefl candidate
  | some current =>
      unfold Library.pick
      by_cases replaces : better candidate current = true
      · simp only [if_pos replaces]
        refine ⟨nofun, ?_, ?_⟩
        · rintro _ ⟨⟩
          exact List.mem_append_right _ (List.mem_singleton_self candidate)
        · rintro _ ⟨⟩ other listed
          rcases List.mem_append.mp listed with earlier | last
          · -- An earlier item that beats the candidate would beat what was kept.
            rw [← Bool.not_eq_true]
            intro beats
            have := best.best current rfl other earlier
            rw [trans other candidate current beats replaces] at this
            cases this
          · rw [List.mem_singleton.mp last]
            exact irrefl candidate
      · simp only [if_neg replaces]
        refine ⟨nofun, ?_, ?_⟩
        · rintro _ ⟨⟩
          exact List.mem_append_left _ (best.listed current rfl)
        · rintro _ ⟨⟩ other listed
          rcases List.mem_append.mp listed with earlier | last
          · exact best.best current rfl other earlier
          · rw [List.mem_singleton.mp last]
            exact Bool.not_eq_true _ ▸ replaces

/-- The whole loop. -/
theorem Best.foldl (irrefl : ∀ a, better a a = false)
    (trans : ∀ a b c, better a b = true → better b c = true → better a c = true)
    {kept : Option α} {items : List α} (best : Best better kept items) (more : List α) :
    Best better (more.foldl (Library.pick better) kept) (items ++ more) := by
  induction more generalizing kept items with
  | nil => rwa [List.append_nil]
  | cons candidate more ih =>
      rw [← List.singleton_append, ← List.append_assoc]
      exact ih (best.pick irrefl trans candidate)

/-- **The items determine the best one** when any two of them can be compared. -/
theorem Best.unique {kept kept' : Option α} {items items' : List α}
    (best : Best better kept items) (best' : Best better kept' items')
    (same : ∀ a, a ∈ items ↔ a ∈ items')
    (total : ∀ a ∈ items, ∀ b ∈ items, a ≠ b → better a b = true ∨ better b a = true) :
    kept = kept' := by
  cases kept with
  | none =>
      cases kept' with
      | none => rfl
      | some b =>
          have listed := (same b).mpr (best'.listed b rfl)
          rw [best.empty rfl] at listed
          cases listed
  | some a =>
      have listed := best.listed a rfl
      cases kept' with
      | none =>
          have listed' := (same a).mp listed
          rw [best'.empty rfl] at listed'
          cases listed'
      | some b =>
          have listed' := (same b).mpr (best'.listed b rfl)
          by_contra different
          have apart : a ≠ b := fun equal => different (equal ▸ rfl)
          rcases total a listed b listed' apart with beats | beats
          · rw [best'.best b rfl a ((same a).mp listed)] at beats
            cases beats
          · rw [best.best a rfl b listed'] at beats
            cases beats

/-- The best of three items, from the left or from the right. -/
theorem pick_pick (trans : ∀ a b c, better a b = true → better b c = true → better a c = true)
    (negTrans : ∀ a b c, better a b = false → better b c = false → better a c = false)
    (kept first second : α) :
    pick better (pick better (some kept) first) second =
      (pick better (some first) second).bind (pick better (some kept)) := by
  cases replaces : better first kept <;> cases later : better second first
  · simp [pick, replaces, later, negTrans _ _ _ later replaces]
  · simp [pick, replaces, later]
  · simp [pick, replaces, later]
  · simp [pick, replaces, later, trans _ _ _ later replaces]

/-- **What was kept before is compared with the best item alone.** -/
theorem foldl_pick_some
    (trans : ∀ a b c, better a b = true → better b c = true → better a c = true)
    (negTrans : ∀ a b c, better a b = false → better b c = false → better a c = false)
    (kept first : α) (items : List α) :
    items.foldl (pick better) (pick better (some kept) first) =
      (items.foldl (pick better) (some first)).bind (pick better (some kept)) := by
  induction items generalizing first with
  | nil => rfl
  | cons item rest ih =>
      rw [List.foldl_cons, List.foldl_cons, pick_pick trans negTrans]
      unfold pick at ih ⊢
      dsimp only
      split_ifs
      · exact ih item
      · exact ih first

end Best

end ControlCenter.Library
