import ControlCenter.Library.Go
import Mathlib.Data.List.DropRight

/-!
# Trimmed texts

What `strings.TrimSpace` returns begins and ends with characters that are not white space
(`Bare`), and exactly such texts are left as they are. So trimming twice is trimming once
(`trimSpace_trimSpace`).
-/

set_option autoImplicit false

namespace ControlCenter.Library

/-- The text has no white space at either end. -/
structure Bare (text : List Char) : Prop where
  front : ∀ c ∈ text.head?, isSpace c = false
  back : ∀ c ∈ text.getLast?, isSpace c = false

theorem dropWhile_of_bare {text : List Char} (bare : Bare text) :
    (text.dropWhile isSpace).rdropWhile isSpace = text := by
  have front : text.dropWhile isSpace = text := by
    cases text with
    | nil => rfl
    | cons c rest => simp [bare.front c (by simp)]
  rw [front]
  rcases List.eq_nil_or_concat text with rfl | ⟨rest, c, rfl⟩
  · rfl
  · rw [List.concat_eq_append] at bare ⊢
    have visible : ¬ isSpace c = true := by simp [bare.back c (by simp)]
    exact List.rdropWhile_concat_neg _ _ _ visible

theorem bare_trim (text : List Char) :
    Bare ((text.dropWhile isSpace).rdropWhile isSpace) := by
  constructor
  · intro c first
    obtain ⟨rest, split⟩ := List.rdropWhile_prefix isSpace (text.dropWhile isSpace)
    have first' : c ∈ (text.dropWhile isSpace).head? := by
      rw [← split]
      exact Option.mem_def.mpr (by rw [List.head?_append, Option.mem_def.mp first]; rfl)
    have := List.head?_dropWhile_not isSpace text
    rw [Option.mem_def.mp first'] at this
    simpa using this
  · intro c last
    have ne : (text.dropWhile isSpace).rdropWhile isSpace ≠ [] := by
      rintro empty
      rw [empty] at last
      cases last
    have visible := List.rdropWhile_last_not isSpace _ ne
    rw [List.getLast?_eq_getLast_of_ne_nil ne] at last
    cases last
    simpa using visible

/-- A text is trimmed when it has no white space at either end. -/
theorem trimSpace_eq_self_iff {s : String} : trimSpace s = s ↔ Bare s.toList := by
  constructor
  · intro trimmed
    have bare := bare_trim s.toList
    have chars := congrArg String.toList trimmed
    rw [trimSpace, String.toList_ofList] at chars
    rwa [chars] at bare
  · intro bare
    rw [trimSpace, dropWhile_of_bare bare, String.ofList_toList]

@[simp]
theorem trimSpace_trimSpace (s : String) : trimSpace (trimSpace s) = trimSpace s := by
  rw [trimSpace_eq_self_iff, trimSpace, String.toList_ofList]
  exact bare_trim s.toList

end ControlCenter.Library
