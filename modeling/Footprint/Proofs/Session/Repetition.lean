import Footprint.Proofs.Session.Upsert
import Footprint.Proofs.Store.Step

namespace Footprint

def Candidate.suppliesNaN (c : Candidate) : Bool := c.supplied.any fun (_, cell) => cell == .real .nan

namespace Candidate

variable {c : Candidate} {row : Row}

def WrittenTo (c : Candidate) (row : Row) : Prop :=
  ∀ a cell, c.supplied.get? a = some cell → row.cell (.field a) = cell.stored

theorem changes_written (proper : c.Proper) (written : c.WrittenTo row) :
    c.changes row = c.supplied.filter fun (_, cell) => cell == .real .nan := by
  refine List.filter_congr fun (a, cell) member => ?_
  have given : c.supplied.get? a = some cell := (lookup_eq_some_iff_mem proper.nodup).mpr member
  simp only [written a cell given]
  by_cases nan : cell = .real .nan
  · simp [nan, Cell.equals_nan]
  · simp [nan, Cell.stored_equals nan]

theorem changes_written_eq_nil (proper : c.Proper) (written : c.WrittenTo row) :
    c.changes row = [] ↔ c.suppliesNaN = false := by
  rw [changes_written proper written, suppliesNaN, List.filter_eq_nil_iff, List.any_eq_false]

theorem changes_written_fits (proper : c.Proper) (written : c.WrittenTo row) : (c.changes row).fits = true := by
  rw [changes_written proper written, Assignment.fits_iff]
  intro a cell member
  obtain ⟨-, nan⟩ := List.mem_filter.mp member
  rw [beq_iff_eq.mp nan]
  rfl

end Candidate

namespace Store

variable {before after : Store} {c : Candidate} {outcome : Outcome}

theorem Inserted.found (formed : before.WellFormed) (proper : c.Proper) (inserted : before.Inserted c outcome after) :
    ∃ row, after.lookup? c.kind c.key = some row ∧ row.id = outcome.2 ∧ c.WrittenTo row := by
  have found : ∃ row, after.lookup? c.kind c.key = some row ∧ row.id = outcome.2 := by
    cases inserted with
    | same found same => exact ⟨_, found, rfl⟩
    | merged found _ => exact ⟨_, lookup?_update found, rfl⟩
    | created _ inserted => exact ⟨_, lookup?_insert inserted, rfl⟩
  obtain ⟨row, found, id⟩ := found
  refine ⟨row, found, id, fun a cell given => ?_⟩
  obtain ⟨member, kind, -⟩ := mem_of_lookup? found
  have named : a ∈ c.kind.attributes := proper.order.subset (List.mem_map_of_mem (mem_of_lookup given))
  rw [(inserted.step formed).cells row member a (kind ▸ named)]
  simp [Supply.only, kind, id, given]

end Store

namespace Upsert

variable {s t : Session} {c : Candidate} {outcome : Outcome}

theorem ready_of_run_ok (run : perform (run c) s = (.ok outcome, t)) : s.Ready ∧ c.key.fits = true := by
  by_cases ready : s.Ready
  case neg =>
    rw [perform_run_unready ready] at run
    cases run
  refine ⟨ready, ?_⟩
  cases misfit : c.key.misfit? with
  | none => exact Key.fits_iff.mpr misfit
  | some m =>
    rw [run_misfit ready misfit] at run
    cases run

theorem run_written (ready : s.Ready) (formed : s.contents.WellFormed) (proper : c.Proper)
    (fits : c.key.fits = true) {row : Row} (found : s.contents.lookup? c.kind c.key = some row)
    (written : c.WrittenTo row) :
    (perform (run c) s).2.contents = s.contents ∧
    (c.suppliesNaN = false → ∃ cache, perform (run c) s = (.ok (false, row.id), { s with seen := cache })) ∧
    (c.suppliesNaN = true → (perform (run c) s).1 =
      if Word.holds row.id then .ok (true, row.id) else .error (.misfit .oversizedInteger)) := by
  obtain ⟨cache, run⟩ := run_found ready formed proper fits found
  rw [run]
  cases nan : c.suppliesNaN with
  | false =>
    rw [perform_merge_same row ((Candidate.changes_written_eq_nil proper written).mpr nan)]
    exact ⟨rfl, fun _ => ⟨cache, rfl⟩, fun other => absurd other Bool.false_ne_true⟩
  | true =>
    have differ : c.changes row ≠ [] := fun same => by
      simp [(Candidate.changes_written_eq_nil proper written).mp same] at nan
    have misfit : (c.revision row).misfit? = (Cell.int row.id).misfit? :=
      Revision.misfit?_eq_of_changes (Candidate.changes_written_fits proper written)
    rw [perform_merge (ready.seen cache) differ, misfit, Cell.misfit?]
    refine ⟨?_, fun other => absurd other.symm Bool.false_ne_true, fun _ => by cases Word.holds row.id <;> rfl⟩
    cases Word.holds row.id with
    | true =>
      obtain ⟨member, kind, -⟩ := Store.mem_of_lookup? found
      refine (Store.update_changes formed proper found).trans (Store.update_same formed proper ?_)
      intro other member' kind' id
      rw [formed.eq_of_id member' member (kind'.trans kind.symm) id]
      exact written
    | false => rfl

theorem run_again (sound : s.Sound) (proper : c.Proper) (first : perform (run c) s = (.ok outcome, t)) :
    (perform (run c) t).2.contents = t.contents ∧
    (c.suppliesNaN = false → ∃ cache, perform (run c) t = (.ok (false, outcome.2), { t with seen := cache })) ∧
    (c.suppliesNaN = true → (perform (run c) t).1 =
      if Word.holds outcome.2 then .ok (true, outcome.2) else .error (.misfit .oversizedInteger)) := by
  obtain ⟨ready, fits⟩ := ready_of_run_ok first
  have ends := run_ends sound proper
  rw [first] at ends
  cases ends with
  | @done before after _ _ which inserted left =>
    have formed : before.WellFormed := which.elim (fun same => same ▸ sound.contents) fun same => same ▸ sound.committed
    obtain ⟨row, found, id, written⟩ := inserted.found formed proper
    rw [← left.contents_eq] at found
    have sound' := left.sound sound (inserted.wellFormed formed proper)
    have again := run_written (left.ready.mpr ready) sound'.contents proper fits found written
    rwa [id] at again

end Upsert
end Footprint
