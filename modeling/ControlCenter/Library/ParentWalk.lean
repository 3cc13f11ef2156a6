import Mathlib.Data.Finset.Card
import Mathlib.Data.List.Basic
import Mathlib.Logic.Relation

/-!
# Walking up parents

Every key may name a parent. The walk goes up from each key, marks the keys on its way and
those it has finished, and fails at a key that is still on its way or at a parent that is not
known. It is a depth-first search in which each key has at most one successor.

The walk ends when it is given more steps than there are keys (`visit_some`), whatever the
parents are. It succeeds exactly when each key leads up to a key without a parent
(`visitAll_ok`).
-/

set_option autoImplicit false

namespace ControlCenter.Library.ParentWalk

variable {K : Type}

/-! ## Heights -/

section Height

variable (parent : K → Option K) (known : K → Bool)

/-- The key leads up to one without a parent, in so many steps. -/
inductive Height : K → Nat → Prop where
  | root {key : K} (top : parent key = none) : Height key 0
  | up {key next : K} {n : Nat} (edge : parent key = some next) (exists_ : known next = true)
      (above : Height next n) : Height key (n + 1)

/-- The key leads up to one without a parent. -/
def Grounded (key : K) : Prop := ∃ n, Height parent known key n

/-- The second key is the first one or one of its ancestors. -/
def Above : K → K → Prop := Relation.ReflTransGen fun key next => parent key = some next

variable {parent known}

theorem Height.unique {key : K} {m n : Nat} (first : Height parent known key m)
    (second : Height parent known key n) : m = n := by
  induction first generalizing n with
  | root top =>
      cases second with
      | root => rfl
      | up edge => rw [top] at edge; cases edge
  | up edge _ _ ih =>
      cases second with
      | root top => rw [edge] at top; cases top
      | up edge' _ above' =>
          rw [edge] at edge'
          cases edge'
          rw [ih above']

/-- Ancestors are lower. -/
theorem Height.above {key ancestor : K} {n : Nat} (height : Height parent known key n)
    (above : Above parent key ancestor) : ∃ m ≤ n, Height parent known ancestor m := by
  induction above with
  | refl => exact ⟨n, le_refl n, height⟩
  | tail _ edge ih =>
      obtain ⟨m, le, height'⟩ := ih
      cases height' with
      | root top => rw [edge] at top; cases top
      | up edge' _ above' =>
          rw [edge] at edge'
          cases edge'
          exact ⟨_, by omega, above'⟩

theorem Grounded.up {key next : K} (grounded : Grounded parent known key)
    (edge : parent key = some next) : known next = true ∧ Grounded parent known next := by
  obtain ⟨n, height⟩ := grounded
  cases height with
  | root top => rw [edge] at top; cases top
  | up edge' known' above =>
      rw [edge] at edge'
      cases edge'
      exact ⟨known', _, above⟩

/-- A key that leads up to an end is not its own proper ancestor. -/
theorem Grounded.acyclic {key next : K} (grounded : Grounded parent known key)
    (edge : parent key = some next) : ¬ Above parent next key := by
  intro above
  obtain ⟨n, height⟩ := grounded
  cases height with
  | root top => rw [edge] at top; cases top
  | up edge' known' height =>
      rw [edge] at edge'
      cases edge'
      obtain ⟨m, le, again⟩ := height.above above
      have same := again.unique (.up edge known' height)
      omega

end Height

/-! ## The walk -/

inductive Mark where
  | visiting
  | visited
  deriving DecidableEq

/-- Why the walk fails: it came back to a key, or the parent of a key is not known. -/
inductive WalkError (K : Type) where
  | cycle (key : K)
  | missing (key : K)

section Walk

variable [DecidableEq K] (parent : K → Option K) (known : K → Bool)

/-- Walk up from a key. `none` means that the steps did not suffice. -/
def visit : (fuel : Nat) → (marks : List (K × Mark)) → K →
    Option (Except (WalkError K) (List (K × Mark)))
  | 0, _, _ => none
  | fuel + 1, marks, key =>
      match marks.lookup key with
      | some .visiting => some (.error (.cycle key))
      | some .visited => some (.ok marks)
      | none =>
          match parent key with
          | none => some (.ok ((key, .visited) :: (key, .visiting) :: marks))
          | some up =>
              if known up then
                match visit fuel ((key, .visiting) :: marks) up with
                | none => none
                | some (.error e) => some (.error e)
                | some (.ok marks) => some (.ok ((key, .visited) :: marks))
              else some (.error (.missing key))

/-- Walk up from each key in turn. -/
def visitAll (fuel : Nat) : (marks : List (K × Mark)) → List K → Option (Except (WalkError K) Unit)
  | _, [] => some (.ok ())
  | marks, key :: rest =>
      match visit parent known fuel marks key with
      | none => none
      | some (.error e) => some (.error e)
      | some (.ok marks) => visitAll fuel marks rest

variable {parent known}

/-! ## The marks -/

/-- The key is on the way of the walk. -/
def Busy (marks : List (K × Mark)) (key : K) : Prop := marks.lookup key = some .visiting

theorem lookup_cons_ite (key other : K) (mark : Mark) (marks : List (K × Mark)) :
    ((other, mark) :: marks).lookup key = if key = other then some mark else marks.lookup key := by
  rw [List.lookup_cons]
  by_cases same : key = other
  · simp [same]
  · rw [beq_false_of_ne same, if_neg same]

variable {fuel : Nat} {marks : List (K × Mark)} {key : K}

/-- **What one visit does.** -/
theorem visit_cases {result : Except (WalkError K) (List (K × Mark))}
    (visits : visit parent known (fuel + 1) marks key = some result) :
    (Busy marks key ∧ ∃ e, result = .error e) ∨
    (marks.lookup key = some .visited ∧ result = .ok marks) ∨
    (marks.lookup key = none ∧ parent key = none ∧
      result = .ok ((key, .visited) :: (key, .visiting) :: marks)) ∨
    (∃ up, marks.lookup key = none ∧ parent key = some up ∧
      (known up = false ∧ (∃ e, result = .error e) ∨
        known up = true ∧ ∃ inner,
          visit parent known fuel ((key, .visiting) :: marks) up = some inner ∧
          ((∃ e, inner = .error e ∧ result = .error e) ∨
            ∃ marks', inner = .ok marks' ∧ result = .ok ((key, .visited) :: marks')))) := by
  unfold visit at visits
  split at visits
  · next busy =>
      cases visits
      exact .inl ⟨busy, _, rfl⟩
  · next done =>
      cases visits
      exact .inr (.inl ⟨done, rfl⟩)
  · next fresh =>
      split at visits
      · next top =>
          cases visits
          exact .inr (.inr (.inl ⟨fresh, top, rfl⟩))
      · next up edge =>
          refine .inr (.inr (.inr ⟨up, fresh, edge, ?_⟩))
          split at visits
          · next isKnown =>
              refine .inr ⟨isKnown, ?_⟩
              split at visits
              · cases visits
              · next e failed =>
                  cases visits
                  exact ⟨_, failed, .inl ⟨e, rfl, rfl⟩⟩
              · next marks' went =>
                  cases visits
                  exact ⟨_, went, .inr ⟨marks', rfl, rfl⟩⟩
          · next unknown =>
              cases visits
              exact .inl ⟨Bool.not_eq_true _ ▸ unknown, _, rfl⟩

/-- A visit leaves the keys on the way as they were. -/
theorem visit_busy {marks' : List (K × Mark)}
    (visits : visit parent known fuel marks key = some (.ok marks')) (other : K) :
    Busy marks' other ↔ Busy marks other := by
  induction fuel generalizing marks marks' key with
  | zero => cases visits
  | succ fuel ih =>
      rcases visit_cases visits with ⟨_, _, failed⟩ | ⟨_, same⟩ | ⟨fresh, _, same⟩ |
        ⟨up, fresh, _, ⟨_, _, failed⟩ | ⟨_, inner, went, ⟨_, _, failed⟩ | ⟨middle, rfl, same⟩⟩⟩
      · cases failed
      · cases same
        exact Iff.rfl
      · cases same
        unfold Busy
        rw [lookup_cons_ite, lookup_cons_ite]
        by_cases own : other = key
        · simp [own, fresh]
        · simp [own]
      · cases failed
      · cases failed
      · cases same
        have below := ih went
        unfold Busy at below ⊢
        rw [lookup_cons_ite] at below ⊢
        by_cases own : other = key
        · simp [own, fresh]
        · simpa [own] using below

/-- Every finished key leads up to an end. -/
def Finished (parent : K → Option K) (known : K → Bool) (marks : List (K × Mark)) : Prop :=
  ∀ key, marks.lookup key = some .visited → Grounded parent known key

/-- **A visit that succeeds reached an end.** -/
theorem visit_ok {marks' : List (K × Mark)} (finished : Finished parent known marks)
    (visits : visit parent known fuel marks key = some (.ok marks')) :
    Grounded parent known key ∧ Finished parent known marks' := by
  induction fuel generalizing marks marks' key with
  | zero => cases visits
  | succ fuel ih =>
      have busy : Finished parent known ((key, .visiting) :: marks) := by
        intro other done
        rw [lookup_cons_ite] at done
        split at done
        · cases done
        · exact finished other done
      have close : ∀ {rest : List (K × Mark)}, Grounded parent known key →
          Finished parent known rest → Finished parent known ((key, .visited) :: rest) := by
        intro rest grounded below other done
        rw [lookup_cons_ite] at done
        split at done
        · next same => exact same ▸ grounded
        · exact below other done
      rcases visit_cases visits with ⟨_, _, failed⟩ | ⟨done, same⟩ | ⟨_, top, same⟩ |
        ⟨up, _, edge, ⟨_, _, failed⟩ | ⟨isKnown, inner, went, ⟨_, _, failed⟩ | ⟨_, rfl, same⟩⟩⟩
      · cases failed
      · cases same
        exact ⟨finished key done, finished⟩
      · cases same
        have grounded : Grounded parent known key := ⟨0, .root top⟩
        exact ⟨grounded, close grounded busy⟩
      · cases failed
      · cases failed
      · cases same
        obtain ⟨⟨n, height⟩, below⟩ := ih busy went
        have grounded : Grounded parent known key := ⟨n + 1, .up edge isKnown height⟩
        exact ⟨grounded, close grounded below⟩

/-- **A key that leads up to an end is not refused,** unless the walk is on its way through
an ancestor. -/
theorem visit_not_error {e : WalkError K} (grounded : Grounded parent known key)
    (free : ∀ ancestor, Above parent key ancestor → ¬ Busy marks ancestor) :
    visit parent known fuel marks key ≠ some (.error e) := by
  intro visits
  induction fuel generalizing marks key with
  | zero => cases visits
  | succ fuel ih =>
      rcases visit_cases visits with ⟨busy, _⟩ | ⟨_, failed⟩ | ⟨_, _, failed⟩ |
        ⟨up, _, edge, ⟨unknown, _⟩ | ⟨_, inner, went, ⟨_, rfl, same⟩ | ⟨_, _, failed⟩⟩⟩
      · exact free key .refl busy
      · cases failed
      · cases failed
      · rw [(grounded.up edge).1] at unknown
        cases unknown
      · cases same
        refine ih (grounded.up edge).2 (fun ancestor above busy => ?_) went
        rw [Busy, lookup_cons_ite] at busy
        split at busy
        · next own =>
            subst own
            exact grounded.acyclic edge above
        · exact free ancestor (.head edge above) busy
      · cases failed

/-! ## Enough steps -/

/-- The keys without a mark. -/
def unmarked (keys : List K) (marks : List (K × Mark)) : Finset K :=
  keys.toFinset.filter fun key => marks.lookup key = none

theorem unmarked_cons_subset (keys : List K) (key : K) (mark : Mark) (marks : List (K × Mark)) :
    unmarked keys ((key, mark) :: marks) ⊆ unmarked keys marks := by
  intro other free
  rw [unmarked, Finset.mem_filter, lookup_cons_ite] at free
  rw [unmarked, Finset.mem_filter]
  refine ⟨free.1, ?_⟩
  have none := free.2
  split at none
  · cases none
  · exact none

variable {keys rest : List K}

theorem card_unmarked_cons_lt (listed : key ∈ keys) (fresh : marks.lookup key = none)
    (mark : Mark) : (unmarked keys ((key, mark) :: marks)).card < (unmarked keys marks).card := by
  apply Finset.card_lt_card
  refine ⟨unmarked_cons_subset keys key mark marks, fun subset => ?_⟩
  have free : key ∈ unmarked keys marks := by
    rw [unmarked, Finset.mem_filter, List.mem_toFinset]
    exact ⟨listed, fresh⟩
  have again := subset free
  rw [unmarked, Finset.mem_filter, lookup_cons_ite, if_pos rfl] at again
  cases again.2

/-- **A visit ends when there are more steps than unmarked keys,** and marks no fewer keys. -/
theorem visit_some (all : ∀ key, known key = true → key ∈ keys) (listed : key ∈ keys)
    (enough : (unmarked keys marks).card < fuel) :
    ∃ result, visit parent known fuel marks key = some result ∧
      ∀ marks', result = .ok marks' → unmarked keys marks' ⊆ unmarked keys marks := by
  induction fuel generalizing marks key with
  | zero => omega
  | succ fuel ih =>
      unfold visit
      split
      · exact ⟨_, rfl, fun _ failed => nomatch failed⟩
      · refine ⟨_, rfl, fun _ same => ?_⟩
        cases same
        exact Finset.Subset.refl _
      · next fresh =>
          split
          · refine ⟨_, rfl, fun _ same => ?_⟩
            cases same
            exact (unmarked_cons_subset _ _ _ _).trans (unmarked_cons_subset _ _ _ _)
          · next up _ =>
              split
              · next isKnown =>
                  have fewer := card_unmarked_cons_lt listed fresh .visiting
                  obtain ⟨inner, went, shrinks⟩ :=
                    @ih ((key, .visiting) :: marks) up (all up isKnown) (by omega)
                  rw [went]
                  cases inner with
                  | error e => exact ⟨_, rfl, fun _ failed => nomatch failed⟩
                  | ok middle =>
                      refine ⟨_, rfl, fun _ same => ?_⟩
                      cases same
                      exact ((unmarked_cons_subset _ _ _ _).trans (shrinks middle rfl)).trans
                        (unmarked_cons_subset _ _ _ _)
              · exact ⟨_, rfl, fun _ failed => nomatch failed⟩

theorem visitAll_some (all : ∀ key, known key = true → key ∈ keys)
    (listed : ∀ key ∈ rest, key ∈ keys) (enough : (unmarked keys marks).card < fuel) :
    ∃ result, visitAll parent known fuel marks rest = some result := by
  induction rest generalizing marks with
  | nil => exact ⟨_, rfl⟩
  | cons key rest ih =>
      rw [List.forall_mem_cons] at listed
      obtain ⟨result, went, shrinks⟩ : ∃ result, visit parent known fuel marks key = some result ∧
          ∀ marks', result = .ok marks' → unmarked keys marks' ⊆ unmarked keys marks :=
        visit_some all listed.1 enough
      rw [visitAll, went]
      cases result with
      | error e => exact ⟨_, rfl⟩
      | ok marks' =>
          have fewer := Finset.card_le_card (shrinks marks' rfl)
          exact ih listed.2 (by omega)

/-- More steps do not change a result. -/
theorem visit_more {more : Nat} (le : fuel ≤ more)
    {result : Except (WalkError K) (List (K × Mark))}
    (visits : visit parent known fuel marks key = some result) :
    visit parent known more marks key = some result := by
  induction fuel generalizing more marks key result with
  | zero => cases visits
  | succ fuel ih =>
      obtain ⟨more, rfl⟩ : ∃ n, more = n + 1 := ⟨more - 1, by omega⟩
      cases found : marks.lookup key with
      | some mark => cases mark <;> simpa [visit, found] using visits
      | none =>
          cases edge : parent key with
          | none => simpa [visit, found, edge] using visits
          | some up =>
              simp only [visit, found, edge] at visits ⊢
              split at visits
              · next isKnown =>
                  rw [if_pos isKnown]
                  split at visits
                  · cases visits
                  · next e failed =>
                      rw [ih (by omega) failed]
                      exact visits
                  · next marks' went =>
                      rw [ih (by omega) went]
                      exact visits
              · next unknown =>
                  rw [if_neg unknown]
                  exact visits

theorem visitAll_more {more : Nat} (le : fuel ≤ more) {result : Except (WalkError K) Unit}
    (visits : visitAll parent known fuel marks rest = some result) :
    visitAll parent known more marks rest = some result := by
  induction rest generalizing marks with
  | nil => exact visits
  | cons key rest ih =>
      rw [visitAll] at visits ⊢
      split at visits
      · cases visits
      · next e failed =>
          rw [visit_more le failed]
          exact visits
      · next marks' went =>
          rw [visit_more le went]
          exact ih visits

/-- **The walk succeeds exactly when each key leads up to an end.** -/
theorem visitAll_ok {result : Except (WalkError K) Unit} (finished : Finished parent known marks)
    (idle : ∀ key, ¬ Busy marks key)
    (visits : visitAll parent known fuel marks rest = some result) :
    result = .ok () ↔ ∀ key ∈ rest, Grounded parent known key := by
  induction rest generalizing marks with
  | nil =>
      cases visits
      simp
  | cons key rest ih =>
      rw [visitAll] at visits
      rw [List.forall_mem_cons]
      split at visits
      · cases visits
      · next e failed =>
          cases visits
          refine iff_of_false (fun ok => nomatch ok) fun all => ?_
          exact visit_not_error all.1 (fun ancestor _ => idle ancestor) failed
      · next marks' went =>
          obtain ⟨grounded, finished'⟩ := visit_ok finished went
          have idle' : ∀ other, ¬ Busy marks' other := fun other busy =>
            idle other ((visit_busy went other).mp busy)
          rw [ih finished' idle' visits]
          exact (and_iff_right grounded).symm

end Walk

end ControlCenter.Library.ParentWalk
