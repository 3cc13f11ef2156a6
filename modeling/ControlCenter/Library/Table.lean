import Mathlib.Data.List.AList
import Mathlib.Data.List.Sort
import Mathlib.Data.String.Basic
import Mathlib.Data.Prod.Lex

/-!
# Tables keyed by strings

A table is an association list without repeated keys: the value of a Go map, and the
rows of an SQL table under its primary key. The operations are those of `AList`. Added
here are the update of every row at once (`mapRows`), the search for a row
(`findRow`), and the keys in the order of a rank of their rows (`keysBy`), which is
`ORDER BY` and the sort that precedes an ordered walk over a map.
-/

set_option autoImplicit false

namespace ControlCenter.Library

universe u v

/-- Rows under string keys. -/
abbrev Table (V : Type u) := AList fun _ : String => V

namespace Table

variable {V : Type u} {W : Type v}

theorem lookup_insert_ite (t : Table V) (key key' : String) (row : V) :
    (t.insert key row).lookup key' = if key' = key then some row else t.lookup key' := by
  split
  · next same =>
      subst same
      exact AList.lookup_insert t
  · next other => exact AList.lookup_insert_ne other

theorem mem_of_lookup {t : Table V} {key : String} {row : V} (found : t.lookup key = some row) :
    key ∈ t := by
  rw [← AList.lookup_isSome, found]
  rfl

theorem exists_lookup_of_mem {t : Table V} {key : String} (member : key ∈ t) :
    ∃ row, t.lookup key = some row :=
  Option.isSome_iff_exists.mp (AList.lookup_isSome.mpr member)

/-! ## Updating every row -/

/-- Replace every row by its image. -/
def mapRows (f : V → W) (t : Table V) : Table W where
  entries := t.entries.map fun entry => ⟨entry.1, f entry.2⟩
  nodupKeys := by
    have keys : (t.entries.map fun entry : (_ : String) × V =>
        (⟨entry.1, f entry.2⟩ : (_ : String) × W)).keys = t.entries.keys := by
      simp [List.keys]
    rw [List.NodupKeys, keys]
    exact t.keys_nodup

@[simp] theorem lookup_mapRows (f : V → W) (t : Table V) (key : String) :
    (t.mapRows f).lookup key = (t.lookup key).map f := by
  obtain ⟨entries, nodup⟩ := t
  simp only [mapRows, AList.lookup]
  clear nodup
  induction entries with
  | nil => rfl
  | cons entry rest ih =>
      obtain ⟨key', row⟩ := entry
      by_cases same : key = key'
      · subst same
        simp
      · simp only [List.map_cons]
        rw [List.dlookup_cons_ne _ _ same, List.dlookup_cons_ne _ _ same, ih]

/-! ## Finding a row -/

/-- The first row that satisfies the condition. -/
def findRow (condition : V → Bool) (t : Table V) : Option V :=
  (t.entries.find? fun entry => condition entry.2).map Sigma.snd

theorem findRow_eq_some {condition : V → Bool} {t : Table V} {row : V}
    (found : t.findRow condition = some row) :
    condition row = true ∧ ∃ key, t.lookup key = some row := by
  obtain ⟨entry, first, rfl⟩ := Option.map_eq_some_iff.mp found
  refine ⟨by simpa using List.find?_some first, entry.1, ?_⟩
  exact AList.mem_lookup_iff.mpr (List.mem_of_find?_eq_some first)

theorem findRow_eq_none {condition : V → Bool} {t : Table V} (missing : t.findRow condition = none)
    {key : String} {row : V} (found : t.lookup key = some row) : condition row = false := by
  have none := Option.map_eq_none_iff.mp missing
  have member := AList.mem_lookup_iff.mp found
  simpa using List.find?_eq_none.mp none _ member

/-! ## Keys in the order of their rows -/

section Order

variable {α : Type*} [LinearOrder α]

/-- The keys, in ascending order of the rank of their rows. -/
def keysBy (rank : V → α) (t : Table V) : List String :=
  (t.entries.insertionSort fun first second => rank first.2 ≤ rank second.2).map Sigma.fst

theorem keysBy_perm (rank : V → α) (t : Table V) : (t.keysBy rank).Perm t.keys :=
  (List.perm_insertionSort _ _).map _

theorem keysBy_nodup (rank : V → α) (t : Table V) : (t.keysBy rank).Nodup :=
  (keysBy_perm rank t).nodup_iff.mpr t.keys_nodup

/-- No row stands before one of a lower rank. -/
theorem keysBy_sorted (rank : V → α) (t : Table V) :
    (t.keysBy rank).Pairwise fun key key' => ∀ row ∈ t.lookup key, ∀ row' ∈ t.lookup key',
      rank row ≤ rank row' := by
  refine List.pairwise_map.mpr ((List.pairwise_insertionSort _ t.entries).imp_of_mem ?_)
  intro first second member member' ordered row found row' found'
  rw [List.mem_insertionSort, ← AList.mem_lookup_iff] at member member'
  rw [Option.mem_unique found member, Option.mem_unique found' member']
  exact ordered

end Order

end Table

end ControlCenter.Library
