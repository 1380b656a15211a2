import Footprint.Proofs.Entity.Row

namespace Footprint

def Assignment.differing (supplied : Assignment) (row : Row) : Assignment :=
  supplied.filter fun (a, cell) => !(row.cell (.field a)).equals cell

namespace Assignment.Proper

variable {kind : Kind} {supplied : Assignment}

theorem differing (proper : supplied.Proper kind) (row : Row) : (supplied.differing row).Proper kind :=
  proper.filter _

theorem get?_differing (proper : supplied.Proper kind) (row : Row) (a : Attribute) :
    (supplied.differing row).get? a = (supplied.get? a).filter fun cell => !(row.cell (.field a)).equals cell :=
  lookup_filter proper.nodup _ a

end Assignment.Proper

namespace Row

variable {row : Row} {first second : Assignment}

theorem write_nil (row : Row) : row.write [] = row := by
  have kept : row.attributes.map (fun (a, cell) => (a, ((Assignment.get? [] a).map Cell.stored).getD cell)) = row.attributes :=
    List.map_id row.attributes
  simp only [write]
  rw [kept]

/-- Neither order of the two writers, of which both saw the row, comes to the same: in one column the second
    writer agrees with the row while the first one changes it, and in another one both supply what the second
    one changes. -/
structure Torn (row : Row) (first second : Assignment) : Prop where
  kept : ∃ a one other, first.get? a = some one ∧ second.get? a = some other ∧
    (row.cell (.field a)).equals other = true ∧ one.stored ≠ row.cell (.field a)
  changed : ∃ a one other, first.get? a = some one ∧ second.get? a = some other ∧
    (row.cell (.field a)).equals other = false ∧ one.stored ≠ other.stored

namespace WellFormed

section

variable (formed : row.WellFormed) {a : Attribute}

include formed

theorem cell_write_write (named : a ∈ row.kind.attributes) (one other : Assignment) :
    ((row.write one).write other).cell (.field a) =
      ((other.get? a).map Cell.stored).getD (((one.get? a).map Cell.stored).getD (row.cell (.field a))) := by
  have named' := formed.named.mpr named
  rw [cell_write other (by rwa [write_names]), cell_write one named']

theorem cell_write_write_unnamed (unnamed : a ∉ row.kind.attributes) (one other : Assignment) :
    ((row.write one).write other).cell (.field a) = .null :=
  cell_eq_null (by simpa [formed.shape] using unnamed)

variable (proper : second.Proper row.kind)

include proper

theorem cell_overlap_unsupplied (unsupplied : second.get? a = none) (one : Assignment) :
    ((row.write one).write (second.differing row)).cell (.field a) = ((row.write one).write second).cell (.field a) ∧
    ((row.write one).write (second.differing row)).cell (.field a) = ((row.write second).write one).cell (.field a) := by
  by_cases named : a ∈ row.kind.attributes
  · simp [cell_write_write formed named, proper.get?_differing, unsupplied]
  · simp [cell_write_write_unnamed formed named]

theorem cell_overlap_kept {cell : Cell} (given : second.get? a = some cell)
    (equal : (row.cell (.field a)).equals cell = true) (one : Assignment) :
    ((row.write one).write (second.differing row)).cell (.field a) = ((row.write second).write one).cell (.field a) := by
  by_cases named : a ∈ row.kind.attributes
  · have same := Cell.eq_stored_of_equals (formed.types a) (proper.admits given) (formed.normal a) equal
    rw [cell_write_write formed named, cell_write_write formed named, proper.get?_differing, given,
      Option.filter_some, equal, same]
    rfl
  · rw [cell_write_write_unnamed formed named, cell_write_write_unnamed formed named]

theorem cell_overlap_changed {cell : Cell} (given : second.get? a = some cell)
    (differ : (row.cell (.field a)).equals cell = false) (one : Assignment) :
    ((row.write one).write (second.differing row)).cell (.field a) = ((row.write one).write second).cell (.field a) := by
  by_cases named : a ∈ row.kind.attributes
  · rw [cell_write_write formed named, cell_write_write formed named, proper.get?_differing, given,
      Option.filter_some, differ]
    rfl
  · rw [cell_write_write_unnamed formed named, cell_write_write_unnamed formed named]

theorem cell_overlap (one : Assignment) (a : Attribute) :
    ((row.write one).write (second.differing row)).cell (.field a) = ((row.write one).write second).cell (.field a) ∨
    ((row.write one).write (second.differing row)).cell (.field a) = ((row.write second).write one).cell (.field a) := by
  cases given : second.get? a with
  | none => exact .inl (cell_overlap_unsupplied formed proper given one).1
  | some cell =>
    cases equal : (row.cell (.field a)).equals cell with
    | true => exact .inr (cell_overlap_kept formed proper given equal one)
    | false => exact .inl (cell_overlap_changed formed proper given equal one)

theorem overlap_eq (firstProper : first.Proper row.kind) (whole : ¬ row.Torn first second) :
    (row.write first).write (second.differing row) = (row.write first).write second ∨
    (row.write first).write (second.differing row) = (row.write second).write first := by
  have overlapped : ((row.write first).write (second.differing row)).WellFormed :=
    (formed.write firstProper).write (proper.differing row)
  by_cases kept : ∃ a one other, first.get? a = some one ∧ second.get? a = some other ∧
      (row.cell (.field a)).equals other = true ∧ one.stored ≠ row.cell (.field a)
  · -- The second writer gives way to the first one in some column, so that it may gain nothing in another.
    refine .inr (overlapped.ext ((formed.write proper).write firstProper) rfl rfl rfl fun a named => ?_)
    cases given : second.get? a with
    | none => exact (cell_overlap_unsupplied formed proper given first).2
    | some other =>
      cases equal : (row.cell (.field a)).equals other with
      | true => exact cell_overlap_kept formed proper given equal first
      | false =>
        rw [cell_overlap_changed formed proper given equal, cell_write_write formed named,
          cell_write_write formed named, given]
        cases given' : first.get? a with
        | none => rfl
        | some one =>
          exact Decidable.byContradiction fun differ =>
            whole ⟨kept, a, one, other, given', given, equal, Ne.symm differ⟩
  · refine .inl (overlapped.ext ((formed.write firstProper).write proper) rfl rfl rfl fun a named => ?_)
    cases given : second.get? a with
    | none => exact (cell_overlap_unsupplied formed proper given first).1
    | some other =>
      cases equal : (row.cell (.field a)).equals other with
      | false => exact cell_overlap_changed formed proper given equal first
      | true =>
        have same := Cell.eq_stored_of_equals (formed.types a) (proper.admits given) (formed.normal a) equal
        rw [cell_overlap_kept formed proper given equal, cell_write_write formed named,
          cell_write_write formed named, given]
        cases given' : first.get? a with
        | none => rfl
        | some one =>
          exact Decidable.byContradiction fun differ =>
            kept ⟨a, one, other, given', given, equal, fun agree => differ (agree.trans same)⟩

end

end WellFormed
end Row
end Footprint
