import Footprint.Proofs.Filter.Agreement
import Mathlib.Logic.Relation

namespace Footprint

open Sql

namespace Store

variable {store : Store} {root : Row → Bool} {row : Row}

/-- Both rows are stored, and the second one names the first one as a parent. -/
structure Links (store : Store) (parent child : Row) : Prop where
  above : parent ∈ store.rows
  below : child ∈ store.rows
  named : child.isChildOf parent = true

theorem below_iff (member : row ∈ store.rows) : store.Below root row ↔
    ∃ top ∈ store.rows, root top = true ∧ Relation.ReflTransGen store.Links top row := by
  constructor
  · intro below
    induction below with
    | @root row found => exact ⟨row, member, found, .refl⟩
    | @link row parent parentStored child _ ih =>
      obtain ⟨top, stored, found, chain⟩ := ih parentStored
      exact ⟨top, stored, found, chain.tail ⟨parentStored, member, child⟩⟩
  · rintro ⟨top, -, found, chain⟩
    induction chain with
    | refl => exact .root found
    | @tail parent child _ link ih => exact .link link.above link.named (ih link.above)

theorem filter_of_kind (store : Store) {kind : Kind} {p : Row → Bool} (inside : ∀ row, p row = true → row.kind = kind) :
    store.rows.filter p = (store.table kind).filter p := by
  rw [← store.filter_rows]
  refine List.filter_congr fun row _ => ?_
  cases holds : p row with
  | false => rw [Bool.and_false]
  | true => rw [Bool.and_true, beq_iff_eq.mpr (inside row holds)]

theorem filter_within (store : Store) (kind : Kind) (hits : Hits) :
    (store.table kind).filter (hits.within kind).affects = (store.table kind).filter hits.affects := by
  refine List.filter_congr fun row stored => ?_
  change (row.kind == kind && hits.affects row) = hits.affects row
  rw [beq_iff_eq.mpr (mem_table.mp stored).2, Bool.true_and]

theorem not_mem_delete_iff (member : row ∈ store.rows) : row ∉ (store.delete root).rows ↔
    ∃ top ∈ store.rows, root top = true ∧ Relation.ReflTransGen store.Links top row := by
  rw [mem_delete, ← below_iff member]
  simp [member]

end Store

namespace Session

variable {s : Session}

end Session
end Footprint
