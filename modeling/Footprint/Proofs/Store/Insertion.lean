import Footprint.Proofs.Store.WellFormed
import Footprint.Proofs.Validation.Accepted
import Footprint.Session.Upsert

namespace Footprint

namespace Store

variable {store : Store} {c : Candidate} {row : Row}

theorem update_congr {changes other : Assignment} (formed : store.WellFormed) (member : row ∈ store.rows)
    (same : row.write changes = row.write other) :
    store.update row.kind row.id changes = store.update row.kind row.id other := by
  simp only [update, modify]
  congr 1
  refine List.map_congr_left fun old member' => ?_
  by_cases touched : (old.kind == row.kind && old.id == row.id) = true
  · have equal : old = row := by
      simp only [Bool.and_eq_true, beq_iff_eq] at touched
      exact formed.eq_of_id member' member touched.1 touched.2
    simp only [equal, same]
  · simp only [if_neg touched]

theorem update_same {kind : Kind} {id : Int} {changes : Assignment} (formed : store.WellFormed)
    (proper : changes.Proper kind) (kept : ∀ row ∈ store.rows, row.kind = kind → row.id = id →
      ∀ a cell, changes.get? a = some cell → row.cell (.field a) = cell.stored) :
    store.update kind id changes = store := by
  simp only [update, modify]
  congr 1
  refine (List.map_congr_left fun row member => ?_).trans (List.map_id store.rows)
  by_cases touched : (row.kind == kind && row.id == id) = true
  · rw [if_pos touched]
    simp only [Bool.and_eq_true, beq_iff_eq] at touched
    have formed' := formed.rows row member
    refine (formed'.write (touched.1 ▸ proper)).ext formed' rfl rfl rfl fun a named => ?_
    rw [Row.cell_write _ (formed'.named.mpr named)]
    cases given : changes.get? a with
    | none => rfl
    | some cell => exact (kept row member touched.1 touched.2 a cell given).symm
  · rw [if_neg touched]
    rfl

theorem update_nil (formed : store.WellFormed) (kind : Kind) (id : Int) : store.update kind id [] = store :=
  update_same formed ⟨List.nil_sublist _, by simp⟩ fun _ _ _ _ _ _ given => nomatch given

theorem update_changes (formed : store.WellFormed) (proper : c.Proper)
    (found : store.lookup? c.kind c.key = some row) :
    store.update c.kind row.id (c.changes row) = store.update c.kind row.id c.supplied := by
  obtain ⟨member, kind, -⟩ := mem_of_lookup? found
  have written : row.write (c.changes row) = row.write c.supplied :=
    (formed.rows row member).write_differing (kind ▸ proper)
  rw [← kind]
  exact update_congr formed member written

inductive Inserted (before : Store) (c : Candidate) : Outcome → Store → Prop
  | same {row : Row} : before.lookup? c.kind c.key = some row →
    before.update c.kind row.id c.supplied = before → Inserted before c (false, row.id) before
  | merged {row : Row} : before.lookup? c.kind c.key = some row → c.supplied.Plain →
    Inserted before c (true, row.id) (before.update c.kind row.id c.supplied)
  | created {after : Store} : c.Plain → before.insert? c = some after →
    Inserted before c (true, before.nextId c.kind) after

inductive Provides (before : Store) (c : Candidate) : Row → Store → Prop
  | known {row : Row} : before.lookup? c.kind c.key = some row → Provides before c row before
  | added {after : Store} : c.Plain → before.insert? c = some after → Provides before c (before.created c) after

theorem created_not_mem (store : Store) (c : Candidate) : store.created c ∉ store.rows :=
  fun member => Int.lt_irrefl _ (lt_nextId member)

namespace Provides

variable {before after : Store}

theorem lookup? (provides : before.Provides c row after) : after.lookup? c.kind c.key = some row := by
  cases provides with
  | known found => exact found
  | added plain inserted => exact lookup?_insert inserted

theorem holds (provides : before.Provides c row after) : after.holds c.kind row.id = true := by
  obtain ⟨member, kind, -⟩ := mem_of_lookup? provides.lookup?
  exact holds_iff.mpr ⟨row, member, kind, rfl⟩

theorem wellFormed (provides : before.Provides c row after) (formed : before.WellFormed) (proper : c.Proper) :
    after.WellFormed := by
  cases provides with
  | known found => exact formed
  | added plain inserted => exact formed.insert proper plain inserted

theorem eq_or_eq (provides : before.Provides c row after) : after = before ∨
    (before.lookup? c.kind c.key = none ∧ after = ⟨before.rows ++ [before.created c]⟩) := by
  cases provides with
  | known found => exact .inl rfl
  | added plain inserted => exact .inr ⟨absent_of_insert? inserted, (insert?_eq_some_iff.mp inserted).2.2⟩

theorem rows (provides : before.Provides c row after) :
    after.rows = before.rows ++ if row ∈ before.rows then [] else [row] := by
  cases provides with
  | known found => rw [if_pos (mem_of_lookup? found).1, List.append_nil]
  | added plain inserted =>
    obtain ⟨-, -, rfl⟩ := insert?_eq_some_iff.mp inserted
    rw [if_neg (before.created_not_mem c)]

theorem eq_created (provides : before.Provides c row after) (new : row ∉ before.rows) : row = before.created c := by
  cases provides with
  | known found => exact absurd (mem_of_lookup? found).1 new
  | added plain inserted => rfl

theorem table_other (provides : before.Provides c row after) {kind : Kind} (apart : kind ≠ c.kind) :
    after.table kind = before.table kind := by
  cases provides with
  | known found => rfl
  | added plain inserted =>
    obtain ⟨-, -, rfl⟩ := insert?_eq_some_iff.mp inserted
    have other : (before.created c).kind ≠ kind := apart.symm
    simp [table, other]

theorem lookup?_other (provides : before.Provides c row after) {kind : Kind} (apart : kind ≠ c.kind) (key : Key) :
    after.lookup? kind key = before.lookup? kind key := by
  rw [Store.lookup?, Store.lookup?, provides.table_other apart]

theorem mem_other (provides : before.Provides c row after) {other : Row} (apart : other.kind ≠ c.kind) :
    other ∈ after.rows ↔ other ∈ before.rows := by
  have same := provides.table_other apart
  have tabled (store : Store) : other ∈ store.rows ↔ other ∈ store.table other.kind := by simp [mem_table]
  rw [tabled after, tabled before, same]

theorem created_other (provides : before.Provides c row after) (d : Candidate) (apart : d.kind ≠ c.kind) :
    after.created d = before.created d := by
  simp only [created, nextId, provides.table_other apart]

theorem both {middle : Store} {parent : Row} {d : Candidate} (first : before.Provides c parent middle)
    (second : middle.Provides d row after) (apart : d.kind ≠ c.kind) :
    (row ∈ middle.rows ↔ row ∈ before.rows) ∧ (row ∉ before.rows → row = before.created d) ∧
      after.rows = before.rows ++ (if parent ∈ before.rows then [] else [parent]) ++
        if row ∈ before.rows then [] else [row] := by
  have kind : row.kind = d.kind := (mem_of_lookup? second.lookup?).2.1
  have known : row ∈ middle.rows ↔ row ∈ before.rows := first.mem_other (kind.symm ▸ apart)
  have added := second.rows
  simp only [known] at added
  refine ⟨known, fun new => ?_, by rw [added, first.rows]⟩
  rw [second.eq_created fun member => new (known.mp member), first.created_other d apart]

theorem only (provides : before.Provides c row after) (formed : before.WellFormed) (proper : c.Proper) :
    (after.table c.kind).filter (·.key == c.key) = [row] := by
  rw [(provides.wellFormed formed proper).filter_key, provides.lookup?]
  rfl

end Provides

end Store
end Footprint
