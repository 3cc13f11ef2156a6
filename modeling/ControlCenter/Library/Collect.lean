import Mathlib.Data.List.Basic
import Mathlib.Data.List.Nodup
import Mathlib.Data.List.Forall2
import Mathlib.Data.List.Perm.Basic

/-!
# Collecting canonical items

A loop that puts each item of a list into its canonical form, in order, and refuses the
first item whose key an earlier one has. It succeeds exactly when every item has a
canonical form and their keys differ (`collect_ok`).
-/

set_option autoImplicit false

namespace ControlCenter.Library

variable {α β κ ε : Type*} [DecidableEq κ]

section

variable (canonical : α → Except ε β) (key : β → κ) (duplicate : β → ε)

/-- The canonical forms of the items after those already seen. -/
def collect : List β → List α → Except ε (List β)
  | seen, [] => .ok seen
  | seen, raw :: rest =>
      match canonical raw with
      | .error e => .error e
      | .ok item =>
          if key item ∈ seen.map key then .error (duplicate item)
          else collect (seen ++ [item]) rest

variable {canonical key duplicate}

theorem collect_append {raws : List α} : ∀ {seen items : List β}, (seen.map key).Nodup →
    (collect canonical key duplicate seen raws = .ok items ↔
      ∃ new, items = seen ++ new ∧ raws.Forall₂ (fun raw item => canonical raw = .ok item) new ∧
        (items.map key).Nodup) := by
  induction raws with
  | nil =>
      intro seen items distinct
      simp only [collect, Except.ok.injEq, List.forall₂_nil_left_iff]
      constructor
      · rintro rfl
        exact ⟨[], by simp, rfl, distinct⟩
      · rintro ⟨_, rfl, rfl, _⟩
        simp
  | cons raw rest ih =>
      intro seen items distinct
      unfold collect
      cases form : canonical raw with
      | error e =>
          simp only [reduceCtorEq, false_iff]
          rintro ⟨_, _, forms, _⟩
          cases forms with
          | cons head _ => simp [form] at head
      | ok item =>
          by_cases clash : key item ∈ seen.map key
          · simp only [clash, if_true, reduceCtorEq, false_iff]
            rintro ⟨_, rfl, forms, keys⟩
            cases forms with
            | cons head _ =>
                cases form.symm.trans head
                rw [List.map_append, List.map_cons] at keys
                exact (List.nodup_append.mp keys).2.2 _ clash _ List.mem_cons_self rfl
          · have extended : ((seen ++ [item]).map key).Nodup := by
              rw [List.map_append, List.nodup_append]
              refine ⟨distinct, by simp, fun k old k' new => ?_⟩
              rw [List.map_singleton, List.mem_singleton] at new
              rintro rfl
              exact clash (new ▸ old)
            simp only [clash, if_false]
            rw [ih extended]
            constructor
            · rintro ⟨new, rfl, forms, keys⟩
              exact ⟨item :: new, by simp, .cons form forms, keys⟩
            · rintro ⟨_, rfl, forms, keys⟩
              cases forms with
              | @cons _ first _ new head tail =>
                  cases form.symm.trans head
                  exact ⟨new, by simp, tail, keys⟩

/-- **Every item has a canonical form and their keys differ.** -/
theorem collect_ok {raws : List α} {items : List β} :
    collect canonical key duplicate [] raws = .ok items ↔
      raws.Forall₂ (fun raw item => canonical raw = .ok item) items ∧ (items.map key).Nodup := by
  rw [collect_append (by simp)]
  simp

/-- What every error of an item and of a repetition satisfies, an error of the loop satisfies. -/
theorem collect_error {bad : ε → Prop} (refused : ∀ raw e, canonical raw = .error e → bad e)
    (repeated : ∀ item, bad (duplicate item)) {seen : List β} {raws : List α} {e : ε}
    (failed : collect canonical key duplicate seen raws = .error e) : bad e := by
  induction raws generalizing seen with
  | nil => cases failed
  | cons raw rest ih =>
      unfold collect at failed
      cases form : canonical raw with
      | error e' =>
          rw [form] at failed
          cases failed
          exact refused raw e form
      | ok item =>
          rw [form] at failed
          dsimp only at failed
          split at failed
          · cases failed
            exact repeated item
          · exact ih failed

/-- What the canonical form keeps of an item, the loop keeps of the list. -/
theorem map_eq_of_forall₂ {γ : Type*} {form : α → β → Prop} {f : α → γ} {g : β → γ}
    (kept : ∀ raw item, form raw item → f raw = g item) {raws : List α} {items : List β}
    (forms : raws.Forall₂ form items) : raws.map f = items.map g := by
  induction forms with
  | nil => rfl
  | cons head _ ih => rw [List.map_cons, List.map_cons, kept _ _ head, ih]

/-- Every item has a partner. -/
theorem exists_of_forall₂ {form : α → β → Prop} {raws : List α} {items : List β}
    (forms : raws.Forall₂ form items) : ∀ raw ∈ raws, ∃ item ∈ items, form raw item := by
  induction forms with
  | nil => simp
  | cons head _ ih =>
      rw [List.forall_mem_cons]
      refine ⟨⟨_, List.mem_cons_self, head⟩, fun raw member => ?_⟩
      obtain ⟨item, listed, form⟩ := ih raw member
      exact ⟨item, List.mem_cons_of_mem _ listed, form⟩

omit [DecidableEq κ] in
/-- Reordered items have reordered forms. -/
theorem forms_perm {form : α → β → Prop} {raws raws' : List α} {items : List β}
    (perm : raws.Perm raws') (forms : raws.Forall₂ form items) (distinct : (items.map key).Nodup) :
    ∃ items', raws'.Forall₂ form items' ∧ (items'.map key).Nodup ∧ items.Perm items' := by
  have composed : Relation.Comp List.Perm (List.Forall₂ form) raws' items :=
    ⟨raws, perm.symm, forms⟩
  rw [← List.forall₂_comp_perm_eq_perm_comp_forall₂] at composed
  obtain ⟨items', forms', perm'⟩ := composed
  exact ⟨items', forms', (perm'.map key).nodup_iff.mpr distinct, perm'.symm⟩

end

end ControlCenter.Library
