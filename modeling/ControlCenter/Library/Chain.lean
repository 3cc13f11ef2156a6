import Mathlib.Data.List.Nodup

/-!
# Linear chains

Records that point from a source to a target form a chain when each starts where the one
before it ends and no node occurs twice. The sources of the records and the last node are
the first node and the targets (`Linked.nodes`), so in a chain every node but the last is
the source of exactly one record, and a record can be added only at the end.
-/

set_option autoImplicit false

namespace ControlCenter.Library

variable {α β : Type*} (source target : α → β)

/-- Each record starts where the one before it ends, the first one at the given node. -/
def Linked : β → List α → Prop
  | _, [] => True
  | node, a :: rest => source a = node ∧ Linked (target a) rest

/-- The node a list of records leads to. -/
def tip : β → List α → β
  | node, [] => node
  | _, a :: rest => tip (target a) rest

/-- Linked records that visit no node twice. -/
structure IsChain (root : β) (records : List α) : Prop where
  linked : Linked source target root records
  nodup : (root :: records.map target).Nodup

variable {source target} {root : β} {records : List α}

/-- **The nodes of linked records**, counted as sources and as targets. -/
theorem Linked.nodes (linked : Linked source target root records) :
    records.map source ++ [tip target root records] = root :: records.map target := by
  induction records generalizing root with
  | nil => rfl
  | cons a rest ih =>
      obtain ⟨starts, linked⟩ := linked
      rw [List.map_cons, List.cons_append, tip, ih linked, starts, List.map_cons]

theorem Linked.concat (linked : Linked source target root records) {a : α}
    (atTip : source a = tip target root records) : Linked source target root (records ++ [a]) := by
  induction records generalizing root with
  | nil => exact ⟨atTip, trivial⟩
  | cons b rest ih => exact ⟨linked.1, ih linked.2 atTip⟩

theorem linked_append {first second : List α} : Linked source target root (first ++ second) ↔
    Linked source target root first ∧ Linked source target (tip target root first) second := by
  induction first generalizing root with
  | nil => simp [Linked, tip]
  | cons a rest ih => simp only [List.cons_append, Linked, tip, ih, and_assoc]

@[simp] theorem tip_concat {a : α} : tip target root (records ++ [a]) = target a := by
  induction records generalizing root with
  | nil => rfl
  | cons b rest ih => exact ih

/-- A record inside the list starts where the records before it lead. -/
theorem Linked.source_eq {before after : List α} {a : α}
    (linked : Linked source target root (before ++ a :: after)) :
    source a = tip target root before := (linked_append.mp linked).2.1

namespace IsChain

theorem nil (root : β) : IsChain source target root [] := ⟨trivial, List.nodup_singleton root⟩

/-- A record from the last node to a new one extends the chain. -/
theorem concat (chain : IsChain source target root records) {a : α}
    (atTip : source a = tip target root records) (fresh : target a ∉ root :: records.map target) :
    IsChain source target root (records ++ [a]) := by
  refine ⟨chain.linked.concat atTip, ?_⟩
  rw [List.map_append, ← List.cons_append]
  exact chain.nodup.append (List.nodup_singleton _) (by simpa using fresh)

theorem nodup_sources (chain : IsChain source target root records) :
    (records.map source ++ [tip target root records]).Nodup :=
  chain.linked.nodes ▸ chain.nodup

/-- No record starts at the last node. -/
theorem source_ne_tip (chain : IsChain source target root records) {a : α} (member : a ∈ records) :
    source a ≠ tip target root records := by
  intro atTip
  have disjoint := List.disjoint_of_nodup_append chain.nodup_sources
  exact disjoint (List.mem_map_of_mem member) (List.mem_singleton.mpr atTip)

/-- Every node is the last one or the source of a record. -/
theorem tip_or_source (chain : IsChain source target root records) {node : β}
    (member : node ∈ root :: records.map target) :
    node = tip target root records ∨ ∃ a ∈ records, source a = node := by
  rw [← chain.linked.nodes, List.mem_append, List.mem_map, List.mem_singleton] at member
  exact member.symm

end IsChain

end ControlCenter.Library
