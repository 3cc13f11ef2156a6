import ControlCenter.Library.Go

/-!
# Parts joined by a separator

Two parts with a separator between them can be read back when neither first part holds the
separator (`separator_append_inj`), or neither second part does (`append_separator_inj`).
-/

set_option autoImplicit false

namespace ControlCenter.Library

/-- Joined fields are read back from the left when neither left part holds the separator. -/
theorem separator_append_inj {α : Type*} {separator : α} {left left' right right' : List α}
    (free : separator ∉ left) (free' : separator ∉ left')
    (same : left ++ [separator] ++ right = left' ++ [separator] ++ right') :
    left = left' ∧ right = right' := by
  have reversed : right.reverse ++ [separator] ++ left.reverse =
      right'.reverse ++ [separator] ++ left'.reverse := by
    have := congrArg List.reverse same
    simpa only [List.reverse_append, List.reverse_singleton, List.append_assoc] using this
  obtain ⟨rights, lefts⟩ := append_separator_inj (mt List.mem_reverse.mp free)
    (mt List.mem_reverse.mp free') reversed
  exact ⟨List.reverse_injective lefts, List.reverse_injective rights⟩

/-- The parts can be read back from the joined text. -/
def Separable {α : Type*} (separator : α) (left right left' right' : List α) : Prop :=
  separator ∉ left ∧ separator ∉ left' ∨ separator ∉ right ∧ separator ∉ right'

theorem Separable.inj {α : Type*} {separator : α} {left left' right right' : List α}
    (separable : Separable separator left right left' right')
    (same : left ++ [separator] ++ right = left' ++ [separator] ++ right') :
    left = left' ∧ right = right' := by
  rcases separable with ⟨free, free'⟩ | ⟨free, free'⟩
  · exact separator_append_inj free free' same
  · exact append_separator_inj free free' same

end ControlCenter.Library
