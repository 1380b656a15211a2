import Footprint.Proofs.Validation.Readback
import Footprint.Proofs.Workspace.Invariant

namespace Footprint

namespace Store

variable {store new : Store}

def Accepted (store : Store) : Prop := ∀ row ∈ store.rows, row.subject.Accepted

theorem Accepted.modify (accepted : store.Accepted) {affected : Row → Bool} {change : Row → Row}
    (keeps : ∀ row : Row, (change row).subject = row.subject) : (store.modify affected change).Accepted := by
  intro row member
  obtain ⟨old, member', rfl⟩ := List.mem_map.mp member
  split
  · rw [keeps]
    exact accepted old member'
  · exact accepted old member'

theorem Accepted.writes (accepted : store.Accepted) (written : store.Writes new) : new.Accepted := by
  cases written with
  | @insert c _ read fits inserted =>
    obtain ⟨-, -, rfl⟩ := insert?_eq_some_iff.mp inserted
    intro row member
    rcases List.mem_append.mp member with member | last
    · exact accepted row member
    · obtain rfl := List.mem_singleton.mp last
      exact ⟨c, read, fits, rfl⟩
  | update kind id fits => exact accepted.modify fun _ => rfl
  | setScope affected unscoped => exact accepted.modify fun _ => rfl
  | delete matched => exact fun row member => accepted row (mem_delete.mp member).1

theorem Accepted.invariant : Store.Invariant Accepted := ⟨nofun, .writes⟩

end Store

namespace Row

variable {row : Row}

def offer (row : Row) : Candidate := ⟨row.subject, row.attributes⟩

theorem offer_key_fits (accepted : row.subject.Accepted) : row.offer.key.fits = true := by
  obtain ⟨c, -, fits, subject⟩ := accepted
  have same : row.offer.key = c.key := congrArg Subject.key subject.symm
  rw [same]
  exact Upsert.key_fits fits

theorem offer_writtenTo (formed : row.WellFormed) : row.offer.WrittenTo row := by
  intro a cell given
  have held : row.cell (.field a) = cell := by
    change (row.attributes.get? a).getD .null = cell
    rw [show row.attributes.get? a = some cell from given]
    rfl
  rw [← formed.normal a, held]

theorem offer_suppliesNaN (formed : row.WellFormed) : row.offer.suppliesNaN = false := by
  rw [Candidate.suppliesNaN, List.any_eq_false]
  rintro ⟨a, cell⟩ member nan
  have normal := formed.normal a
  rw [formed.cell_of_mem member, beq_iff_eq.mp nan] at normal
  cases normal

end Row

namespace Session

variable {s : Session}

/-- What is read back from a stored row is accepted. To insert it finds the row, says that nothing was written
    and changes no table; where no row can be looked up, it fails. -/
theorem insert_readback (reached : s.Reachable) {row : Row} (member : row ∈ s.contents.rows) {members : Members}
    (same : members.Perm row.members) :
    ∃ given, Submission.ofData (.object members) = .ok given ∧
      (s.Ready → ∃ cache,
        perform (Action.insert given.candidate) s = (.ok (false, row.id), { s with seen := cache })) ∧
      (¬ s.Ready → perform (Action.insert given.candidate) s = (.error (.query .insert row.kind), s.rollback)) := by
  have sound := reached.sound
  have formed := sound.contents.rows row member
  have accepted := (reached.within Store.Accepted.invariant).contents row member
  have read := Row.ofData_members formed accepted same
  refine ⟨_, read, fun ready => ?_, fun unready => Upsert.perform_run_unready unready row.offer⟩
  have found := sound.contents.lookup? member
  have written := Upsert.run_written ready sound.contents (Submission.ofData_proper read) (Row.offer_key_fits accepted)
    found (Row.offer_writtenTo formed)
  exact written.2.1 (Row.offer_suppliesNaN formed)

/-- The NaN of an address was kept as null, and null is what is offered again. -/
theorem insert_readback_of_nan :
    let s := inMemory.step (.insert (.object [("kind", .text "ipaddr"), ("family", .text "v4"),
      ("value", .text "1.2.3.4"), ("longitude", .real .nan), ("asn", .int 64500)]))
    ∃ row ∈ s.contents.rows, row.cell (.field .longitude) = .null ∧ row.cell (.field .asn) = .int 64500 ∧
      ∃ given, Submission.ofData (.object row.members) = .ok given ∧
        ∃ cache, perform (Action.insert given.candidate) s = (.ok (false, 1), { s with seen := cache }) := by
  intro s
  let row : Row := ⟨1, .address .v4 "1.2.3.4", Kind.address.attributes.map fun a =>
    (a, if a = .asn then .int 64500 else .null), false⟩
  have member : row ∈ s.contents.rows := by decide +kernel
  have ready : s.Ready := ⟨by decide +kernel, by decide +kernel, by decide +kernel⟩
  obtain ⟨given, read, again, -⟩ := insert_readback (.operation _ (.fresh .memory)) member (.refl row.members)
  exact ⟨row, member, by decide, by decide, given, read, again ready⟩

end Session
end Footprint
