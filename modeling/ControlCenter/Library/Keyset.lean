import Mathlib.Data.List.Sort
import Mathlib.Data.List.Nodup

/-!
# Keyset pagination

A list is read page by page in the order of a key. A cursor names the last key that was read;
a page holds the first items after the cursor, and a next cursor when more are left.

The reader follows the cursors through snapshots of a store that may change between two
reads. What it collects is strictly ordered by key, so no key occurs twice, and a key that is
in every snapshot it read is collected (`followPages_spec`). When the store does not change, or
changes before the cursor only, the reader ends with exactly the items the store had after the
cursor, in order (`followPages_const`, `followPages_frozen`).
-/

set_option autoImplicit false

namespace ControlCenter.Library

variable {α κ : Type*} [LinearOrder κ] (key : α → κ)

/-- The key lies after the cursor. -/
def afterCursor (cursor : Option κ) (k : κ) : Prop := ∀ c ∈ cursor, c < k

instance (cursor : Option κ) (k : κ) : Decidable (afterCursor cursor k) := by
  unfold afterCursor
  infer_instance

/-- The items after a cursor, in the order of their keys. -/
def remaining (cursor : Option κ) (items : List α) : List α :=
  (items.filter fun a => afterCursor cursor (key a)).insertionSort fun a b => key a ≤ key b

/-- A page and the cursor of the next one, if there is one. -/
structure KeyPage (α κ : Type*) where
  items : List α
  next : Option κ

/-- The first items after a cursor. -/
def readPage (limit : Nat) (cursor : Option κ) (items : List α) : KeyPage α κ :=
  let found := remaining key cursor items
  if limit < found.length then ⟨found.take limit, (found.take limit).getLast?.map key⟩
  else ⟨found, none⟩

/-- The items of all pages, each page read from the next snapshot. -/
def followPages (limit : Nat) (store : Nat → List α) :
    (fuel : Nat) → (read : Nat) → (cursor : Option κ) → Option (List α)
  | 0, _, _ => none
  | fuel + 1, read, cursor =>
      match (readPage key limit cursor (store read)).next with
      | none => some (readPage key limit cursor (store read)).items
      | some next => (followPages limit store fuel (read + 1) (some next)).map
          ((readPage key limit cursor (store read)).items ++ ·)

variable {key}

@[simp] theorem afterCursor_none (k : κ) : afterCursor none k := by simp [afterCursor]

@[simp] theorem afterCursor_some {c k : κ} : afterCursor (some c) k ↔ c < k := by
  simp [afterCursor]

@[simp] theorem mem_remaining {cursor : Option κ} {items : List α} {a : α} :
    a ∈ remaining key cursor items ↔ a ∈ items ∧ afterCursor cursor (key a) := by
  simp [remaining]

theorem remaining_perm (cursor : Option κ) (items : List α) :
    (remaining key cursor items).Perm (items.filter fun a => afterCursor cursor (key a)) :=
  List.perm_insertionSort _ _

theorem remaining_pairwise (cursor : Option κ) {items : List α}
    (distinct : (items.map key).Nodup) :
    (remaining key cursor items).Pairwise fun a b => key a < key b := by
  have sorted : (remaining key cursor items).Pairwise fun a b => key a ≤ key b :=
    List.pairwise_insertionSort _ _
  have apart : ((remaining key cursor items).map key).Nodup := by
    rw [((remaining_perm cursor items).map key).nodup_iff]
    exact distinct.sublist (List.filter_sublist.map key)
  rw [List.Nodup, List.pairwise_map] at apart
  exact (sorted.and apart).imp fun ⟨le, ne⟩ => lt_of_le_of_ne le ne

/-- A list in the order of its keys is the sorted list of its members. -/
theorem eq_of_pairwise_of_mem_iff {first second : List α}
    (ordered : first.Pairwise fun a b => key a < key b)
    (ordered' : second.Pairwise fun a b => key a < key b) (same : ∀ a, a ∈ first ↔ a ∈ second) :
    first = second := by
  have antisymmetric : Std.Antisymm fun a b : α => key a < key b :=
    ⟨fun _ _ first second => absurd (first.trans second) (lt_irrefl _)⟩
  have irreflexive : Std.Irrefl fun a b : α => key a < key b := ⟨fun _ => lt_irrefl _⟩
  exact ordered.eq_of_mem_iff ordered' same

/-- Items of one key occur once in the order of the keys. -/
theorem countP_eq_one {items : List α} (ordered : items.Pairwise fun a b => key a < key b)
    {p : α → Bool} {a : α} (member : a ∈ items) (holds : p a = true)
    (same : ∀ b ∈ items, p b = true → key b = key a) : items.countP p = 1 := by
  have listed : a ∈ items.filter p := List.mem_filter.mpr ⟨member, holds⟩
  have keys : ∀ b ∈ items.filter p, key b = key a := by
    intro b inFilter
    obtain ⟨inItems, holds'⟩ := List.mem_filter.mp inFilter
    exact same b inItems holds'
  have sorted := ordered.filter p
  rw [List.countP_eq_length_filter]
  generalize items.filter p = found at listed keys sorted
  match found with
  | [] => cases listed
  | [_] => rfl
  | b :: c :: rest =>
      have lower := (List.pairwise_cons.mp sorted).1 c List.mem_cons_self
      rw [keys b List.mem_cons_self,
        keys c (List.mem_cons_of_mem b List.mem_cons_self)] at lower
      exact absurd lower (lt_irrefl _)

variable (key) in
/-- A page is the last one, or it ends before the first item that is left. -/
theorem readPage_cases {limit : Nat} (positive : 0 < limit) (cursor : Option κ) (items : List α) :
    readPage key limit cursor items = ⟨remaining key cursor items, none⟩ ∨
      ∃ init last rest, remaining key cursor items = init ++ last :: rest ∧
        readPage key limit cursor items = ⟨init ++ [last], some (key last)⟩ := by
  unfold readPage
  by_cases more : limit < (remaining key cursor items).length
  · have some_ : (remaining key cursor items).take limit ≠ [] := by
      rw [Ne, List.take_eq_nil_iff, not_or]
      exact ⟨by omega, List.ne_nil_of_length_pos (by omega)⟩
    obtain ⟨init, last, taken⟩ := (List.eq_nil_or_concat _).resolve_left some_
    refine .inr ⟨init, last, (remaining key cursor items).drop limit, ?_, ?_⟩
    · have whole := List.take_append_drop limit (remaining key cursor items)
      rw [taken] at whole
      simpa using whole.symm
    · simp only [if_pos more]
      rw [taken]
      simp
  · exact .inl (if_neg more)

theorem remaining_split {cursor : Option κ} {items init rest : List α} {last : α}
    (distinct : (items.map key).Nodup)
    (split : remaining key cursor items = init ++ last :: rest) :
    (∀ a ∈ init, key a < key last) ∧ (∀ a ∈ rest, key last < key a) ∧
      ∀ c ∈ cursor, c < key last := by
  have ordered := remaining_pairwise cursor distinct
  rw [split, List.pairwise_append, List.pairwise_cons] at ordered
  refine ⟨fun a member => ordered.2.2 a member last List.mem_cons_self, ordered.2.1.1, ?_⟩
  have listed : last ∈ remaining key cursor items := by
    rw [split]
    exact List.mem_append_right init List.mem_cons_self
  exact (mem_remaining.mp listed).2

/-- What is left after a page. -/
theorem remaining_next {cursor : Option κ} {items init rest : List α} {last : α}
    (distinct : (items.map key).Nodup)
    (split : remaining key cursor items = init ++ last :: rest) :
    remaining key (some (key last)) items = rest := by
  obtain ⟨before, after, past⟩ := remaining_split distinct split
  have ordered := remaining_pairwise cursor distinct
  rw [split, List.pairwise_append, List.pairwise_cons] at ordered
  refine eq_of_pairwise_of_mem_iff (remaining_pairwise _ distinct) ordered.2.1.2 fun a => ?_
  rw [mem_remaining, afterCursor_some]
  constructor
  · rintro ⟨member, later⟩
    have listed : a ∈ remaining key cursor items :=
      mem_remaining.mpr ⟨member, fun c at_ => (past c at_).trans later⟩
    rw [split, List.mem_append, List.mem_cons] at listed
    rcases listed with inInit | rfl | inRest
    · exact absurd later (before a inInit).asymm
    · exact absurd later (lt_irrefl _)
    · exact inRest
  · intro inRest
    have listed : a ∈ remaining key cursor items := by
      rw [split]
      exact List.mem_append_right init (List.mem_cons_of_mem last inRest)
    exact ⟨(mem_remaining.mp listed).1, after a inRest⟩

/-- **Reading a store that changes before the cursor only** ends with the items that were after
the cursor when the reading began, in order. -/
theorem followPages_frozen {limit : Nat} (positive : 0 < limit) {items : List α}
    (distinct : (items.map key).Nodup) {store : Nat → List α} {fuel read : Nat}
    {cursor : Option κ} (now : remaining key cursor (store read) = remaining key cursor items)
    (later : ∀ n, read < n → ∀ a ∈ items,
      remaining key (some (key a)) (store n) = remaining key (some (key a)) items)
    (enough : (remaining key cursor items).length < fuel) :
    followPages key limit store fuel read cursor = some (remaining key cursor items) := by
  induction fuel generalizing read cursor with
  | zero => omega
  | succ fuel ih =>
      have same : readPage key limit cursor (store read) = readPage key limit cursor items := by
        rw [readPage, readPage, now]
      rw [followPages, same]
      rcases readPage_cases key positive cursor items with page | ⟨init, last, rest, split, page⟩
      · simp only [page]
      · have next := remaining_next distinct split
        have listed : last ∈ items := by
          have member : last ∈ remaining key cursor items := by
            rw [split]
            exact List.mem_append_right init List.mem_cons_self
          exact (mem_remaining.mp member).1
        have shorter : (remaining key (some (key last)) items).length < fuel := by
          rw [next]
          rw [split, List.length_append, List.length_cons] at enough
          omega
        have followed := ih (later (read + 1) (by omega) last listed)
          (fun n past => later n (by omega)) shorter
        simp only [page, followed]
        rw [next, split]
        simp

/-- **Reading a store that does not change** ends with its items after the cursor, in order. -/
theorem followPages_const {limit : Nat} (positive : 0 < limit) {items : List α}
    (distinct : (items.map key).Nodup) {fuel : Nat} (read : Nat) {cursor : Option κ}
    (enough : (remaining key cursor items).length < fuel) :
    followPages key limit (fun _ => items) fuel read cursor =
      some (remaining key cursor items) :=
  followPages_frozen positive distinct rfl (fun _ _ _ _ => rfl) enough

/-- What a reader of changing snapshots collects. -/
structure Collected (key : α → κ) (store : Nat → List α) (first last : Nat) (cursor : Option κ)
    (all : List α) : Prop where
  ordered : all.Pairwise fun a b => key a < key b
  past : ∀ a ∈ all, afterCursor cursor (key a)
  stored : ∀ a ∈ all, ∃ n, first ≤ n ∧ n < last ∧ a ∈ store n
  kept : ∀ k, afterCursor cursor k →
    (∀ n, first ≤ n → n < last → ∃ a ∈ store n, key a = k) → ∃ a ∈ all, key a = k

/-- **Reading a store that changes** collects no key twice and misses no key that stays. -/
theorem followPages_spec {limit : Nat} (positive : 0 < limit) {store : Nat → List α}
    (distinct : ∀ n, ((store n).map key).Nodup) {fuel read : Nat} {cursor : Option κ}
    {all : List α} (done : followPages key limit store fuel read cursor = some all) :
    Collected key store read (read + fuel) cursor all := by
  induction fuel generalizing read cursor all with
  | zero => cases done
  | succ fuel ih =>
      rw [followPages] at done
      rcases readPage_cases key positive cursor (store read) with
        page | ⟨init, last, rest, split, page⟩
      · simp only [page, Option.some.injEq] at done
        subst done
        refine ⟨remaining_pairwise cursor (distinct read),
          fun a listed => (mem_remaining.mp listed).2,
          fun a listed => ⟨read, le_refl _, by omega, (mem_remaining.mp listed).1⟩,
          fun k past stays => ?_⟩
        obtain ⟨a, member, rfl⟩ := stays read (le_refl _) (by omega)
        exact ⟨a, mem_remaining.mpr ⟨member, past⟩, rfl⟩
      · simp only [page, Option.map_eq_some_iff] at done
        obtain ⟨later, followed, rfl⟩ := done
        obtain ⟨ordered, past, stored, kept⟩ := ih followed
        obtain ⟨before, after, start⟩ := remaining_split (distinct read) split
        have sorted := remaining_pairwise cursor (distinct read)
        have listed : ∀ a ∈ init ++ [last], a ∈ remaining key cursor (store read) := by
          intro a member
          rw [split, List.append_cons]
          exact List.mem_append_left rest member
        have upTo : ∀ a ∈ init ++ [last], key a ≤ key last := by
          rw [List.forall_mem_append, List.forall_mem_singleton]
          exact ⟨fun a member => (before a member).le, le_refl _⟩
        refine ⟨?_, ?_, ?_, ?_⟩
        · rw [List.pairwise_append]
          refine ⟨?_, ordered, fun a first b second => ?_⟩
          · rw [split, List.append_cons] at sorted
            exact (List.pairwise_append.mp sorted).1
          · exact (upTo a first).trans_lt (afterCursor_some.mp (past b second))
        · rw [List.forall_mem_append]
          refine ⟨fun a member => (mem_remaining.mp (listed a member)).2, fun a member c at_ => ?_⟩
          exact (start c at_).trans (afterCursor_some.mp (past a member))
        · rw [List.forall_mem_append]
          constructor
          · exact fun a member =>
              ⟨read, le_refl _, by omega, (mem_remaining.mp (listed a member)).1⟩
          · intro a member
            obtain ⟨n, low, high, inStore⟩ := stored a member
            exact ⟨n, by omega, by omega, inStore⟩
        · intro k past stays
          obtain ⟨a, member, rfl⟩ := stays read (le_refl _) (by omega)
          have found : a ∈ remaining key cursor (store read) := mem_remaining.mpr ⟨member, past⟩
          rw [split, List.append_cons, List.mem_append] at found
          rcases found with now | later'
          · exact ⟨a, List.mem_append_left _ now, rfl⟩
          · obtain ⟨b, collected, same⟩ := kept (key a) (afterCursor_some.mpr (after a later'))
              fun n low high => stays n (by omega) (by omega)
            exact ⟨b, List.mem_append_right _ collected, same⟩

end ControlCenter.Library
