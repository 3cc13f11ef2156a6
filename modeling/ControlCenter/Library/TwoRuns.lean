import Mathlib.Logic.Relation

/-!
# Two runs of a fallible computation

Two runs are alike when both fail with related errors or both succeed with related results
(`Alike`). Alike steps make alike chains (`Alike.bind`), so that two runs on related inputs are
compared one step at a time.
-/

set_option autoImplicit false

namespace ControlCenter.Library

variable {ε α β α' β' : Type}

/-- Both runs fail with related errors or succeed with related results. -/
inductive Alike (errors : ε → ε → Prop) (results : α → α' → Prop) :
    Except ε α → Except ε α' → Prop where
  | error {e e' : ε} (related : errors e e') : Alike errors results (.error e) (.error e')
  | ok {a : α} {a' : α'} (related : results a a') : Alike errors results (.ok a) (.ok a')

variable {errors : ε → ε → Prop} {results : α → α' → Prop} {results' : β → β' → Prop}

theorem Alike.refl (reflexive : ∀ e, errors e e) (x : Except ε α) : Alike errors Eq x x := by
  cases x with
  | error e => exact .error (reflexive e)
  | ok a => exact .ok rfl

/-- **Alike steps make alike chains.** -/
theorem Alike.bind {x : Except ε α} {x' : Except ε α'} {f : α → Except ε β} {f' : α' → Except ε β'}
    (first : Alike errors results x x')
    (next : ∀ a a', results a a' → Alike errors results' (f a) (f' a')) :
    Alike errors results' (x >>= f) (x' >>= f') := by
  cases first with
  | error related => exact .error related
  | ok related => exact next _ _ related

theorem Alike.map {x : Except ε α} {x' : Except ε α'} {f : α → β} {f' : α' → β'}
    (first : Alike errors results x x') (next : ∀ a a', results a a' → results' (f a) (f' a')) :
    Alike errors results' (x.map f) (x'.map f') := by
  cases first with
  | error related => exact .error related
  | ok related => exact .ok (next _ _ related)

/-- Runs with equal results whose errors have one code. -/
theorem Alike.mapError_eq {γ : Type} {code : ε → γ} {x x' : Except ε α}
    (alike : Alike (fun e e' => code e = code e') Eq x x') :
    x.mapError code = x'.mapError code := by
  cases alike with
  | error related => exact congrArg Except.error related
  | ok related => rw [related]

/-- What a run that was found to succeed returns. -/
theorem exists_of_isOk {x : Except ε α} (ok : x.isOk = true) : ∃ a, x = .ok a := by
  cases x with
  | error e => cases ok
  | ok a => exact ⟨a, rfl⟩

end ControlCenter.Library
