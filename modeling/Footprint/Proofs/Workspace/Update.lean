import Footprint.Proofs.Validation.Revision
import Footprint.Proofs.Workspace.Insertion

namespace Footprint

namespace Row

/-- One row is the other one with the values of the members that name an attribute, and with all else as it was. -/
structure Receives (row : Row) (members : Members) (written : Row) : Prop where
  id : written.id = row.id
  subject : written.subject = row.subject
  unscoped : written.unscoped = row.unscoped
  supplied : ∀ a ∈ row.kind.attributes, ∀ data, members.lookup a.name = some data →
    ∃ cell, a.rule data = .ok cell ∧ written.cell (.field a) = cell.stored
  kept : ∀ a, a ∉ row.kind.attributes ∨ members.lookup a.name = none → written.cell (.field a) = row.cell (.field a)

theorem WellFormed.receives {row : Row} (formed : row.WellFormed) {members : Members} {changes : Assignment}
    (read : members.assignment row.kind.attributes = .valid changes) : row.Receives members (row.write changes) where
  id := rfl
  subject := rfl
  unscoped := rfl
  supplied a named data shown := by
    have value := (Members.get?_assignment read a).2 named
    rw [cell_write changes (formed.named.mpr named)]
    cases given : changes.get? a with
    | none =>
      rw [given, Members.optional_eq_valid_none, shown] at value
      cases value
    | some cell =>
      rw [given, Members.optional_eq_valid_some, shown] at value
      obtain ⟨_, same, accepted⟩ := value
      cases same
      exact ⟨cell, accepted, rfl⟩
  kept a missing := by
    by_cases named : a ∈ row.kind.attributes
    · have value := (Members.get?_assignment read a).2 named
      rw [Members.optional_eq_valid_none.mpr (missing.resolve_left (not_not_intro named)), Checked.valid.injEq] at value
      rw [cell_write changes (formed.named.mpr named), ← value]
      rfl
    · rw [cell_eq_null (formed.named.not.mpr named), cell_eq_null (by rwa [write_names, formed.named])]

end Row

namespace Store

variable {store : Store} {kind : Kind} {id : Int} {changes : Assignment}

theorem update_of_absent (formed : store.WellFormed) (proper : changes.Proper kind)
    (absent : store.holds kind id = false) : store.update kind id changes = store := by
  refine update_same formed proper fun row member same same' => ?_
  have held : store.holds kind id = true := holds_iff.mpr ⟨row, member, same, same'⟩
  cases held.symm.trans absent

theorem table_update {other : Kind} (apart : other ≠ kind) :
    (store.update kind id changes).table other = store.table other := by
  have untouched (row : Row) (same : row.kind = other) : (row.kind == kind && row.id == id) = false := by
    simp [same, apart]
  have kept (row : Row) : (if row.kind == kind && row.id == id then row.write changes else row).kind = row.kind := by
    split <;> rfl
  simp only [table, update, modify, List.filter_map, Function.comp_def, kept]
  refine (List.map_congr_left fun row member => ?_).trans (List.map_id _)
  rw [untouched row (by simpa using (List.mem_filter.mp member).2)]
  rfl

end Store

namespace Session

variable {s : Session} {r : Revision} {row : Row}

theorem update_succeeds (ready : s.Ready) (formed : s.contents.WellFormed) (fits : r.fits = true) :
    (perform (Action.update r) s).1 = .ok r.id ∧
      (perform (Action.update r) s).2.contents = s.contents.update r.kind r.id r.changes := by
  by_cases nothing : r.changes = []
  · rw [Action.perform_update_nil r nothing, nothing, Store.update_nil formed]
    exact ⟨rfl, rfl⟩
  · rw [Action.perform_update ready nothing, Revision.fits_iff.mp fits]
    exact ⟨rfl, rfl⟩

theorem merge_agrees_with_update (ready : s.Ready) (formed : s.contents.WellFormed) (sized : row.Sized) {c : Candidate}
    (proper : c.Proper) (found : s.contents.lookup? c.kind c.key = some row) (holds : Word.holds row.id = true)
    (cache : RowCache) :
    let merged := perform (Upsert.merge c row) { s with seen := cache }
    let updated := perform (Action.update ⟨c.kind, row.id, c.supplied⟩) s
    merged.1.map Prod.snd = updated.1 ∧ merged.2.contents = updated.2.contents := by
  intro merged updated
  have written := Store.update_changes formed proper found
  have misfits : Revision.misfit? ⟨c.kind, row.id, c.supplied⟩ = (c.changes row).misfit? :=
    (Revision.misfit?_of_id holds).trans
      (Candidate.misfit?_changes proper (formed.rows row (Store.mem_of_lookup? found).1) sized).symm
  by_cases same : c.changes row = []
  · have fits : Revision.fits ⟨c.kind, row.id, c.supplied⟩ = true := by
      rw [Revision.fits_iff, misfits, same]
      rfl
    obtain ⟨told, left⟩ := update_succeeds ready formed fits
    have run : merged = _ := Upsert.perform_merge_same row same
    rw [same, Store.update_nil formed] at written
    rw [run]
    exact ⟨told.symm, written.trans left.symm⟩
  · have something : c.supplied ≠ [] := fun nothing => same (by rw [Candidate.changes, nothing]; rfl)
    have run : merged = _ := Upsert.perform_merge (ready.seen cache) same
    have run' : updated = _ := Action.perform_update ready something
    have misfits' : (c.revision row).misfit? = (c.changes row).misfit? := Revision.misfit?_of_id holds
    rw [run, run', misfits, misfits']
    cases (c.changes row).misfit? with
    | none => exact ⟨rfl, written⟩
    | some m => exact ⟨rfl, rfl⟩

/-- To merge a candidate into a stored row, which writes what differs, answers and leaves the same as the update of
    this row with all that the candidate supplies. -/
theorem merge_comes_to_update (reached : s.Reachable) (member : row ∈ s.contents.rows)
    (holds : Word.holds row.id = true) {c : Candidate} (accepted : c.Accepted) (revisable : c.kind ∈ Kind.revisable)
    (kind : row.kind = c.kind) (key : row.key = c.key) :
    let r : Revision := ⟨c.kind, row.id, c.supplied⟩
    let merged := perform (Action.insert c) s
    let updated := perform (Action.update r) s
    Revision.ofData (.object r.members) = .ok r ∧
      (s.Ready → merged.1.map Prod.snd = updated.1 ∧ merged.2.contents = updated.2.contents) ∧
      (¬ s.Ready → (merged.1 = .error (.query .insert c.kind) ∧ merged.2.contents = s.database.store) ∧
        (c.supplied ≠ [] → updated.1 = .error (.query .update c.kind) ∧ updated.2.contents = s.database.store)) := by
  intro r merged updated
  have formed := reached.sound.contents
  have proper := accepted.proper
  refine ⟨Revision.ofData_members revisable proper, fun ready => ?_, fun unready => ⟨?_, fun something => ?_⟩⟩
  · have found : s.contents.lookup? c.kind c.key = some row := by
      rw [← kind, ← key]
      exact formed.lookup? member
    have merges : c.kind ≠ .link := fun link => absurd (link ▸ revisable) (by decide)
    have fits : c.key.fits = true := key ▸ (formed.plain row member).fits_key (kind ▸ merges)
    obtain ⟨cache, run⟩ := Upsert.run_found ready formed proper fits found
    have run : merged = _ := run
    rw [run]
    exact merge_agrees_with_update ready formed (reached.sized.contents row member) proper found holds cache
  · have run : merged = _ := Upsert.perform_run_unready unready c
    rw [run]
    exact ⟨rfl, rfl⟩
  · have run : updated = _ := Action.perform_update_unready unready something
    rw [run]
    exact ⟨rfl, rfl⟩

/-- Of four values the merge writes two: a zero is there with the other sign, and the number of the system is the same,
    but a NaN differs from null. -/
theorem merge_comes_to_update_of_zero :
    let s := inMemory.step (.insert (.object [("kind", .text "ipaddr"), ("family", .text "v4"),
      ("value", .text "1.2.3.4"), ("longitude", .real .zero), ("asn", .int 64500)]))
    let minusZero : Binary64 := .finite true 0 Binary64.leastExponent
    let c : Candidate := ⟨.address .v4 "1.2.3.4", [(.city, .text "Oslo"), (.longitude, .real minusZero),
      (.latitude, .real .nan), (.asn, .int 64500)]⟩
    let r : Revision := ⟨.address, 1, c.supplied⟩
    ∃ row ∈ s.contents.rows, (c.changes row).map Prod.fst = [.city, .latitude] ∧
      (perform (Action.update r) s).1 = .ok 1 ∧
      (perform (Action.insert c) s).1.map Prod.snd = (perform (Action.update r) s).1 ∧
      (perform (Action.insert c) s).2.contents = (perform (Action.update r) s).2.contents := by
  intro s minusZero c r
  let row : Row := ⟨1, .address .v4 "1.2.3.4", Kind.address.attributes.map fun a => (a, match a with
    | .longitude => .real .zero
    | .asn => .int 64500
    | _ => .null), false⟩
  have member : row ∈ s.contents.rows := by decide +kernel
  have read : Submission.ofData (.object [("kind", .text "ipaddr"), ("family", .text "v4"), ("value", .text "1.2.3.4"),
      ("city", .text "Oslo"), ("longitude", .real minusZero), ("latitude", .real .nan), ("asn", .int 64500)]) =
      .ok ⟨c, true⟩ := eq_ok_of_toOption (by decide +kernel)
  have ready : s.Ready := ⟨by decide +kernel, by decide +kernel, by decide +kernel⟩
  obtain ⟨-, agree, -⟩ := merge_comes_to_update (s := s) (.operation _ (.fresh .memory)) member (by decide)
    (Submission.ofData_accepted read) (by decide) rfl rfl
  obtain ⟨told, left⟩ := agree ready
  exact ⟨row, member, by decide, eq_ok_of_toOption (by decide +kernel), told, left⟩

end Session
end Footprint
