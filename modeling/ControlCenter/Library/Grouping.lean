import ControlCenter.Library.Registry
import ControlCenter.Library.Sorting
import ControlCenter.Library.Table

/-!
# Grouping items in a table

A loop over a list that keeps one row per key: each item is absorbed into the row of its key,
or starts one (`gather`). The row of a key is what the items of that key alone make of it, in
their order (`lookup_gather`). Afterwards the rows are listed by their sorted keys (`listing`),
which forgets the order in which they were inserted (`listing_congr`).
-/

set_option autoImplicit false

namespace ControlCenter.Library.Table

variable {α V W : Type}

/-- Absorb the items into the rows of their keys. -/
def gather (key : α → String) (absorb : Option V → α → V) (t : Table V) (items : List α) :
    Table V :=
  items.foldl (fun t item => t.insert (key item) (absorb (t.lookup (key item)) item)) t

/-- **The row of a key depends on the items of that key.** -/
theorem lookup_gather {key : α → String} {absorb : Option V → α → V} {items : List α}
    (t : Table V) (k : String) :
    (gather key absorb t items).lookup k =
      (items.filter (key · == k)).foldl (fun row item => some (absorb row item)) (t.lookup k) := by
  induction items generalizing t with
  | nil => rfl
  | cons item rest ih =>
      rw [gather, List.foldl_cons, ← gather, ih, lookup_insert_ite]
      by_cases own : key item = k
      · subst own
        simp
      · rw [if_neg (Ne.symm own), List.filter_cons_of_neg (by simpa using own)]

/-- The rows in the order of their keys. -/
def listing (row : String → V → W) (t : Table V) : List W :=
  (t.keys.insertionSort (· ≤ ·)).filterMap fun k => (t.lookup k).map (row k)

theorem mem_listing {row : String → V → W} {t : Table V} {w : W} :
    w ∈ t.listing row ↔ ∃ k v, t.lookup k = some v ∧ row k v = w := by
  simp only [listing, List.mem_filterMap, List.mem_insertionSort, Option.map_eq_some_iff]
  constructor
  · rintro ⟨k, -, v, found, same⟩
    exact ⟨k, v, found, same⟩
  · rintro ⟨k, v, found, same⟩
    exact ⟨k, AList.mem_keys.mp (mem_of_lookup found), v, found, same⟩

/-- The rows of different keys are listed once each. -/
theorem listing_map {row : String → V → W} {name : W → String} (t : Table V)
    (named : ∀ k v, t.lookup k = some v → name (row k v) = k) :
    (t.listing row).map name = t.keys.insertionSort (· ≤ ·) := by
  have general : ∀ keys : List String, (∀ k ∈ keys, k ∈ t) →
      (keys.filterMap fun k => (t.lookup k).map (row k)).map name = keys := by
    intro keys
    induction keys with
    | nil => exact fun _ => rfl
    | cons k keys ih =>
        intro known
        obtain ⟨first, others⟩ := List.forall_mem_cons.mp known
        obtain ⟨v, found⟩ := exists_lookup_of_mem first
        simp [found, named k v found, ih others]
  refine general _ fun k listed => ?_
  rw [List.mem_insertionSort] at listed
  exact AList.mem_keys.mpr listed

/-- A listed row is found under its key. -/
theorem find?_listing {row : String → V → W} {name : W → String} (t : Table V)
    (named : ∀ k v, t.lookup k = some v → name (row k v) = k) (k : String) :
    ((t.listing row).find? fun w => name w == k) = (t.lookup k).map (row k) := by
  have distinct : ((t.listing row).map name).Nodup := by
    rw [listing_map t named]
    exact (List.perm_insertionSort _ _).nodup_iff.mpr t.keys_nodup
  refine Option.ext fun w => ?_
  rw [find?_key distinct, mem_listing, Option.map_eq_some_iff]
  constructor
  · rintro ⟨⟨k', v, found, rfl⟩, own⟩
    rw [named k' v found] at own
    subst own
    exact ⟨v, found, rfl⟩
  · rintro ⟨v, found, rfl⟩
    exact ⟨⟨k, v, found, rfl⟩, named k v found⟩

/-- Items with different keys are absorbed once each. -/
theorem lookup_gather_nodup {key : α → String} {absorb : Option V → α → V} {items : List α}
    (distinct : (items.map key).Nodup) (t : Table V) (k : String) :
    (gather key absorb t items).lookup k =
      match items.find? fun item => key item == k with
      | none => t.lookup k
      | some item => some (absorb (t.lookup k) item) := by
  induction items generalizing t with
  | nil => rfl
  | cons item rest ih =>
      obtain ⟨fresh, distinct⟩ := List.nodup_cons.mp distinct
      rw [gather, List.foldl_cons, ← gather, ih distinct, lookup_insert_ite]
      by_cases own : key item = k
      · subst own
        have absent : (rest.find? fun other => key other == key item) = none := by
          rw [List.find?_eq_none]
          intro other listed same
          exact fresh (List.mem_map.mpr ⟨other, listed, by simpa using same⟩)
        simp [absent]
      · rw [if_neg (Ne.symm own), List.find?_cons_of_neg (by simpa using own)]

/-- Tables with the same rows have the same listing. -/
theorem listing_congr {V' : Type} {row : String → V → W} {row' : String → V' → W} {t : Table V}
    {t' : Table V'} (same : ∀ k, (t.lookup k).map (row k) = (t'.lookup k).map (row' k)) :
    t.listing row = t'.listing row' := by
  have keys : t.keys.Perm t'.keys := by
    rw [List.perm_ext_iff_of_nodup t.keys_nodup t'.keys_nodup]
    intro k
    rw [← AList.mem_keys, ← AList.mem_keys, ← AList.lookup_isSome, ← AList.lookup_isSome,
      ← @Option.isSome_map _ _ (row k), same, Option.isSome_map]
  rw [listing, listing, insertionSort_eq_of_perm _ keys fun a _ b _ => le_antisymm]
  simp only [same]

end ControlCenter.Library.Table
