import Mathlib.Data.Finset.Card
import Mathlib.Data.List.Basic
import Mathlib.Data.List.Nodup
import Mathlib.Logic.Relation

/-!
# Depth-first post-order

A depth-first search over a graph whose edges lead from a key to the keys it needs. A key on
the way is busy, a key that is done is in the order, behind everything it needs. Coming back
to a busy key is an error.

The search ends when it is given more steps than there are keys that are not busy
(`visitList_some`). What it returns is topological (`visitList_ok`): each key once, and behind the
keys it needs. So it succeeds exactly on graphs without a cycle (`visitList_ok_iff`).
-/

set_option autoImplicit false

namespace ControlCenter.Library.PostOrder

variable {K : Type} [DecidableEq K] (needs : K → List K)

/-! ## The search -/

/-- Visit one key after the other. -/
def visitEach (visit : List K → K → Option (Except K (List K))) :
    (order : List K) → List K → Option (Except K (List K))
  | order, [] => some (.ok order)
  | order, key :: rest =>
      match visit order key with
      | some (.ok order') => visitEach visit order' rest
      | some (.error cycle) => some (.error cycle)
      | none => none

/-- Visit a key with the keys on the way to it and the keys that are done. `none` means that
the steps did not suffice. -/
def visit : (fuel : Nat) → (busy order : List K) → K → Option (Except K (List K))
  | 0, _, _, _ => none
  | fuel + 1, busy, order, key =>
      if key ∈ busy then some (.error key)
      else if key ∈ order then some (.ok order)
      else
        match visitEach (visit fuel (key :: busy)) order (needs key) with
        | some (.ok order') => some (.ok (order' ++ [key]))
        | other => other

/-- Visit all keys of a list. -/
def visitList (fuel : Nat) (keys : List K) : Option (Except K (List K)) :=
  visitEach (visit needs fuel []) [] keys

/-! ## Orders -/

/-- The key needs the other one. -/
def Needs (key other : K) : Prop := other ∈ needs key

/-- Each key stands once, behind the keys it needs. -/
structure Topological (order : List K) : Prop where
  nodup : order.Nodup
  behind : ∀ before key after, order = before ++ key :: after → ∀ other ∈ needs key, other ∈ before

variable {needs}

omit [DecidableEq K] in
theorem Topological.nil : Topological needs [] := ⟨.nil, by simp⟩

omit [DecidableEq K] in
/-- A new key whose needs are met goes to the end. -/
theorem Topological.push {order : List K} {key : K} (topological : Topological needs order)
    (fresh : key ∉ order) (met : ∀ other ∈ needs key, other ∈ order) :
    Topological needs (order ++ [key]) := by
  refine ⟨?_, fun before last after split other needed => ?_⟩
  · rw [List.nodup_append]
    exact ⟨topological.nodup, by simp, fun a old b new => by
      rw [List.mem_singleton.mp new]
      exact fun same => fresh (same ▸ old)⟩
  · rcases List.eq_nil_or_concat after with rfl | ⟨front, tail, rfl⟩
    · obtain ⟨rfl, last'⟩ := List.append_inj' split rfl
      cases last'
      exact met other needed
    · have split' : order ++ [key] = (before ++ last :: front) ++ [tail] := by simpa using split
      obtain ⟨rfl, -⟩ := List.append_inj' split' rfl
      exact topological.behind before last front rfl other needed

omit [DecidableEq K] in
/-- What a key of the order needs stands before it, at any distance. -/
theorem Topological.transGen {order : List K} (topological : Topological needs order)
    {key other : K} (reach : Relation.TransGen (Needs needs) key other) :
    ∀ before after, order = before ++ key :: after → other ∈ before := by
  induction reach with
  | single needed =>
      exact fun before after split => topological.behind before _ after split _ needed
  | tail _ needed ih =>
      intro before after split
      obtain ⟨front, back, rfl⟩ := List.append_of_mem (ih before after split)
      have inner := topological.behind front _ (back ++ key :: after) (by simp [split]) _ needed
      exact List.mem_append_left _ inner

omit [DecidableEq K] in
/-- A key of a topological order lies on no cycle. -/
theorem Topological.acyclic {order : List K} (topological : Topological needs order) {key : K}
    (listed : key ∈ order) : ¬ Relation.TransGen (Needs needs) key key := by
  intro cycle
  obtain ⟨before, after, rfl⟩ := List.append_of_mem listed
  have earlier := topological.transGen cycle before after rfl
  exact (List.nodup_append.mp topological.nodup).2.2 key earlier key List.mem_cons_self rfl

/-! ## What a visit does -/

/-- The order after visits: it is longer, topological, and holds the visited keys. New are only
keys that are not on the way and that the visited keys lead to. -/
structure Visited (needs : K → List K) (busy order visited order' : List K) : Prop where
  keeps : order <+: order'
  topological : Topological needs order'
  done : ∀ key ∈ visited, key ∈ order'
  fresh : ∀ key ∈ order', key ∈ order ∨ key ∉ busy ∧
    ∃ start ∈ visited, Relation.ReflTransGen (Needs needs) start key

omit [DecidableEq K] in
theorem visitEach_visited {step : List K → K → Option (Except K (List K))} {busy : List K}
    (visits : ∀ order key order', Topological needs order → step order key = some (.ok order') →
      Visited needs busy order [key] order') {keys : List K} :
    ∀ {order order' : List K}, Topological needs order →
      visitEach step order keys = some (.ok order') → Visited needs busy order keys order' := by
  induction keys with
  | nil =>
      intro order order' topological ran
      cases ran
      exact ⟨List.prefix_refl _, topological, by simp, fun key listed => .inl listed⟩
  | cons key keys ih =>
      intro order order' topological ran
      rw [visitEach] at ran
      split at ran
      · next order₁ first =>
          have one := visits order key order₁ topological first
          have rest := ih one.topological ran
          refine ⟨one.keeps.trans rest.keeps, rest.topological, fun other listed => ?_,
            fun other listed => ?_⟩
          · rcases List.mem_cons.mp listed with rfl | later
            · exact rest.keeps.subset (one.done _ List.mem_cons_self)
            · exact rest.done other later
          · rcases rest.fresh other listed with early | ⟨off, start, later, reach⟩
            · rcases one.fresh other early with old | ⟨off, start, first, reach⟩
              · exact .inl old
              · rw [List.mem_singleton.mp first] at reach
                exact .inr ⟨off, key, List.mem_cons_self, reach⟩
            · exact .inr ⟨off, start, List.mem_cons_of_mem _ later, reach⟩
      · cases ran
      · cases ran

theorem visit_visited {fuel : Nat} : ∀ {busy order order' : List K} {key : K},
    Topological needs order → visit needs fuel busy order key = some (.ok order') →
      Visited needs busy order [key] order' := by
  induction fuel with
  | zero => exact fun _ ran => nomatch ran
  | succ fuel ih =>
      intro busy order order' key topological ran
      rw [visit] at ran
      split at ran
      · cases ran
      next free =>
      split at ran
      · next finished =>
          cases ran
          exact ⟨List.prefix_refl _, topological, by simpa using finished,
            fun other listed => .inl listed⟩
      next unfinished =>
      split at ran
      · next order₁ children =>
          cases ran
          have below := visitEach_visited
            (fun order key order' good found => ih good found) topological children
          -- the key itself was on the way, so it is not among the new ones
          have absent : key ∉ order₁ := by
            intro listed
            rcases below.fresh key listed with old | ⟨off, -⟩
            · exact unfinished old
            · exact off List.mem_cons_self
          refine ⟨below.keeps.trans (List.prefix_append _ _),
            below.topological.push absent below.done, by simp, fun other listed => ?_⟩
          rcases List.mem_append.mp listed with early | last
          · rcases below.fresh other early with old | ⟨off, start, needed, reach⟩
            · exact .inl old
            · exact .inr ⟨fun onWay => off (List.mem_cons_of_mem _ onWay), key,
                List.mem_cons_self, .head needed reach⟩
          · rw [List.mem_singleton.mp last]
            exact .inr ⟨free, key, List.mem_cons_self, .refl⟩
      · next stopped =>
          cases found : visitEach (visit needs fuel (key :: busy)) order (needs key) with
          | none => simp [found] at ran
          | some result =>
              cases result with
              | error cycle => simp [found] at ran
              | ok order₁ => exact absurd found (stopped order₁)

/-! ## Errors are cycles -/

omit [DecidableEq K] in
theorem visitEach_error {step : List K → K → Option (Except K (List K))} {keys : List K}
    {cycle : K} : ∀ {order : List K}, visitEach step order keys = some (.error cycle) →
      ∃ order', ∃ key ∈ keys, step order' key = some (.error cycle) := by
  induction keys with
  | nil => exact fun ran => nomatch ran
  | cons key keys ih =>
      intro order ran
      rw [visitEach] at ran
      split at ran
      · obtain ⟨order', other, later, failed⟩ := ih ran
        exact ⟨order', other, List.mem_cons_of_mem _ later, failed⟩
      · next failed =>
          cases ran
          exact ⟨order, key, List.mem_cons_self, failed⟩
      · cases ran

/-- A visit from keys that lead to the visited one fails at a cycle only. -/
theorem visit_error {fuel : Nat} : ∀ {busy order : List K} {key cycle : K},
    (∀ other ∈ busy, Relation.TransGen (Needs needs) other key) →
    visit needs fuel busy order key = some (.error cycle) →
      Relation.TransGen (Needs needs) cycle cycle ∧
        Relation.ReflTransGen (Needs needs) key cycle := by
  induction fuel with
  | zero => exact fun _ ran => nomatch ran
  | succ fuel ih =>
      intro busy order key cycle leads ran
      rw [visit] at ran
      split at ran
      · next again =>
          cases ran
          exact ⟨leads _ again, .refl⟩
      next free =>
      split at ran
      · cases ran
      split at ran
      · cases ran
      · obtain ⟨order', other, needed, failed⟩ := visitEach_error ran
        have below := ih (fun before onWay => ?_) failed
        · exact ⟨below.1, .head needed below.2⟩
        · rcases List.mem_cons.mp onWay with rfl | earlier
          · exact .single needed
          · exact (leads before earlier).tail needed

/-! ## The search ends -/

omit [DecidableEq K] in
theorem visitEach_some {step : List K → K → Option (Except K (List K))} {keys : List K}
    (ends : ∀ order, ∀ key ∈ keys, step order key ≠ none) :
    ∀ order, visitEach step order keys ≠ none := by
  induction keys with
  | nil => exact fun _ => nofun
  | cons key keys ih =>
      intro order
      rw [visitEach]
      split
      · exact ih (fun order other later => ends order other (List.mem_cons_of_mem _ later)) _
      · exact nofun
      · next unfinished => exact absurd unfinished (ends order key List.mem_cons_self)

/-- With more steps than keys off the way, a visit ends. -/
theorem visit_some {keys : List K} (closed : ∀ key ∈ keys, ∀ other ∈ needs key, other ∈ keys)
    {fuel : Nat} : ∀ {busy order : List K} {key : K}, key ∈ keys →
      (keys.toFinset \ busy.toFinset).card < fuel → visit needs fuel busy order key ≠ none := by
  induction fuel with
  | zero => exact fun _ few => absurd few (Nat.not_lt_zero _)
  | succ fuel ih =>
      intro busy order key known few
      rw [visit]
      split
      · exact nofun
      next free =>
      split
      · exact nofun
      have fewer : (keys.toFinset \ (key :: busy).toFinset).card < fuel := by
        have smaller : keys.toFinset \ (key :: busy).toFinset ⊂ keys.toFinset \ busy.toFinset := by
          refine Finset.ssubset_iff_of_subset (fun other listed => ?_) |>.mpr ⟨key, ?_, ?_⟩
          · simp only [Finset.mem_sdiff, List.mem_toFinset, List.mem_cons, not_or] at listed ⊢
            exact ⟨listed.1, listed.2.2⟩
          · simpa using ⟨known, free⟩
          · simp
        have := Finset.card_lt_card smaller
        omega
      have below := visitEach_some (fun order other needed =>
        @ih (key :: busy) order other (closed key known other needed) fewer) order
      split
      · exact nofun
      · exact below

section

variable {keys : List K} {fuel : Nat}

theorem visitList_some (closed : ∀ key ∈ keys, ∀ other ∈ needs key, other ∈ keys)
    (enough : keys.length < fuel) : visitList needs fuel keys ≠ none := by
  refine visitEach_some (fun order key known => visit_some closed known ?_) []
  have := keys.toFinset_card_le
  simpa using by omega

omit [DecidableEq K] in
theorem mem_of_reach (closed : ∀ key ∈ keys, ∀ other ∈ needs key, other ∈ keys)
    {start key : K} (first : start ∈ keys)
    (reach : Relation.ReflTransGen (Needs needs) start key) : key ∈ keys := by
  induction reach with
  | refl => exact first
  | tail _ needed ih => exact closed _ ih _ needed

/-- **What the search returns is a topological order of the keys.** -/
theorem visitList_ok (closed : ∀ key ∈ keys, ∀ other ∈ needs key, other ∈ keys)
    {order : List K} (ran : visitList needs fuel keys = some (.ok order)) :
    Topological needs order ∧ ∀ key, key ∈ order ↔ key ∈ keys := by
  have visited := visitEach_visited (fun _ _ _ good found => visit_visited good found) .nil ran
  refine ⟨visited.topological, fun key => ⟨fun listed => ?_, visited.done key⟩⟩
  rcases visited.fresh key listed with old | ⟨-, start, first, reach⟩
  · cases old
  · exact mem_of_reach closed first reach

/-- **The search succeeds exactly when no key leads back to itself.** -/
theorem visitList_ok_iff (closed : ∀ key ∈ keys, ∀ other ∈ needs key, other ∈ keys)
    (enough : keys.length < fuel) :
    (∃ order, visitList needs fuel keys = some (.ok order)) ↔
      ∀ key ∈ keys, ¬ Relation.TransGen (Needs needs) key key := by
  constructor
  · rintro ⟨order, ran⟩ key known
    obtain ⟨topological, listed⟩ := visitList_ok closed ran
    exact topological.acyclic ((listed key).mpr known)
  · intro acyclic
    cases ran : visitList needs fuel keys with
    | none => exact absurd ran (visitList_some closed enough)
    | some result =>
        cases result with
        | ok order => exact ⟨order, rfl⟩
        | error cycle =>
            obtain ⟨order, key, known, failed⟩ := visitEach_error ran
            obtain ⟨round, met⟩ := visit_error (by simp) failed
            exact absurd round (acyclic cycle (mem_of_reach closed known met))

end

end ControlCenter.Library.PostOrder
