import Footprint.Proofs.Entity.Overlap
import Footprint.Proofs.Workspace.Event
import Footprint.Proofs.Workspace.Sized

namespace Footprint

theorem Assignment.Proper.named {kind : Kind} {changes : Assignment} (proper : changes.Proper kind) {a : Attribute}
    {cell : Cell} (given : changes.get? a = some cell) : a ∈ kind.attributes :=
  proper.order.subset (List.mem_map_of_mem (f := Prod.fst) (mem_of_lookup given))

namespace Row

/-- One row is the other one with those of the values that differ from it, and with all else as it was. -/
structure Takes (row : Row) (supplied : Assignment) (merged : Row) : Prop where
  id : merged.id = row.id
  subject : merged.subject = row.subject
  unscoped : merged.unscoped = row.unscoped
  taken : ∀ a cell, supplied.get? a = some cell → (row.cell (.field a)).equals cell = false →
    merged.cell (.field a) = cell.stored
  kept : ∀ a, (∀ cell, supplied.get? a = some cell → (row.cell (.field a)).equals cell = true) →
    merged.cell (.field a) = row.cell (.field a)

theorem WellFormed.takes {row : Row} (formed : row.WellFormed) {supplied : Assignment} (proper : supplied.Proper row.kind) :
    row.Takes supplied (row.write (supplied.differing row)) where
  id := rfl
  subject := rfl
  unscoped := rfl
  taken a cell given differ := by
    rw [cell_write _ (formed.named.mpr (proper.named given)), proper.get?_differing, given, Option.filter_some, differ]
    rfl
  kept a agrees := by
    by_cases named : a ∈ row.attributes.map Prod.fst
    · rw [cell_write _ named, proper.get?_differing]
      cases given : supplied.get? a with
      | none => rfl
      | some cell =>
        rw [Option.filter_some, agrees cell given]
        rfl
    · rw [cell_eq_null named, cell_eq_null (by rwa [write_names])]

end Row

namespace Store

variable {store : Store} {kind : Kind} {row : Row}

def IsNextId (store : Store) (kind : Kind) (id : Int) : Prop :=
  (store.table kind = [] ∧ id = 1) ∨
    ∃ row ∈ store.table kind, id = row.id + 1 ∧ ∀ other ∈ store.table kind, other.id ≤ row.id

theorem Sized.isNextId (sized : store.Sized) (kind : Kind) : store.IsNextId kind (store.nextId kind) := by
  have below (row : Row) (member : row ∈ store.table kind) : row.id < store.nextId kind :=
    (mem_table.mp member).2 ▸ lt_nextId (mem_table.mp member).1
  rcases List.eq_nil_or_concat (store.table kind) with empty | ⟨rest, last, filled⟩
  · exact .inl ⟨empty, by simp [nextId, empty]⟩
  have member : last ∈ store.table kind := by simp [filled]
  have positive := (sized last (mem_table.mp member).1).id
  have under := below last member
  -- If no row had the id before the next one, that one would be free already.
  have greatest : ∃ row ∈ store.table kind, store.nextId kind = row.id + 1 := by
    by_contra! none
    have less : store.nextId kind ≤ store.nextId kind - 1 := by
      refine nextId_le (by omega) fun row member' same => ?_
      have tabled := mem_table.mpr ⟨member', same⟩
      have apart := none row tabled
      have under := below row tabled
      omega
    omega
  obtain ⟨row, member, next⟩ := greatest
  refine .inr ⟨row, member, next, fun other member' => ?_⟩
  have under := below other member'
  omega

theorem WellFormed.rows_update (formed : store.WellFormed) (member : row ∈ store.rows) (changes : Assignment) :
    (store.update row.kind row.id changes).rows =
      store.rows.map fun other => if other = row then row.write changes else other := by
  refine List.map_congr_left fun other member' => ?_
  by_cases same : other = row
  · simp [same]
  · have untouched : ¬ (other.kind == row.kind && other.id == row.id) = true := by
      simpa using fun kind id => same (formed.eq_of_id member' member kind id)
    rw [if_neg untouched, if_neg same]

end Store

namespace Candidate

variable {c : Candidate} {row : Row}

theorem changes_ne_nil_iff (proper : c.Proper) (row : Row) :
    c.changes row ≠ [] ↔ ∃ a cell, c.supplied.get? a = some cell ∧ (row.cell (.field a)).equals cell = false := by
  simp only [ne_eq, changes, List.filter_eq_nil_iff, not_forall, Assignment.get?,
    lookup_eq_some_iff_mem proper.nodup]
  simp

/-- The answer and the tables after a candidate was merged into a row: no other row differs, and something is told to
    be changed exactly if a value differs. -/
structure MergedInto (c : Candidate) (row : Row) (before : Store) (outcome : Outcome) (after : Store) : Prop where
  id : outcome.2 = row.id
  changed : outcome.1 = true ↔ ∃ a cell, c.supplied.get? a = some cell ∧ (row.cell (.field a)).equals cell = false
  rows : ∃ merged, row.Takes c.supplied merged ∧
    after.rows = before.rows.map fun other => if other = row then merged else other

/-- The answer and the tables after a candidate became a row of its own, with the next id of its table. -/
structure AddedTo (c : Candidate) (before : Store) (outcome : Outcome) (after : Store) : Prop where
  changed : outcome.1 = true
  id : before.IsNextId c.kind outcome.2
  rows : ∃ row : Row, row.id = outcome.2 ∧ row.subject = c.subject ∧ row.unscoped = false ∧
    (∀ a, row.cell (.field a) = ((c.supplied.get? a).getD .null).stored) ∧ after.rows = before.rows ++ [row]

theorem cell_created (proper : c.Proper) (store : Store) (a : Attribute) :
    (store.created c).cell (.field a) = ((c.supplied.get? a).getD .null).stored := by
  by_cases named : a ∈ c.kind.attributes
  · exact Row.cell_create _ _ _ named
  · have shape : (store.created c).attributes.map Prod.fst = c.kind.attributes := (Row.WellFormed.create proper).shape
    have unsupplied : c.supplied.get? a = none := Option.eq_none_iff_forall_not_mem.mpr fun cell given =>
      named (proper.named given)
    rw [unsupplied, Row.cell_eq_null (by rwa [shape])]
    rfl

end Candidate

namespace Upsert

variable {s t : Session} {c : Candidate} {row : Row} {result : Except Fault Outcome}

theorem Merges.mergedInto (merges : Merges s c row result t) (formed : s.contents.WellFormed) (proper : c.Proper)
    (fits : c.fits = true) (holds : Word.holds row.id = true) (found : s.contents.lookup? c.kind c.key = some row) :
    ∃ outcome, result = .ok outcome ∧ c.MergedInto row s.contents outcome t.contents := by
  obtain ⟨member, kind, -⟩ := Store.mem_of_lookup? found
  have takes := (formed.rows row member).takes (kind ▸ proper : c.supplied.Proper row.kind)
  have written := formed.rows_update member (c.changes row)
  rw [kind] at written
  have differs := c.changes_ne_nil_iff proper row
  cases merges with
  | same same =>
    rw [same, Store.update_nil formed] at written
    refine ⟨_, rfl, rfl, ?_, row.write (c.changes row), takes, same ▸ written⟩
    rw [← differs, same]
    simp
  | written differ fits => exact ⟨_, rfl, rfl, by simpa using differs.mp differ, _, takes, written⟩
  | misfit differ misfit => simp [Candidate.misfit?_revision fits holds] at misfit

theorem run_merges (ready : s.Ready) (formed : s.contents.WellFormed) (proper : c.Proper) (fits : c.fits = true)
    (holds : Word.holds row.id = true) (found : s.contents.lookup? c.kind c.key = some row) :
    ∃ outcome, (perform (run c) s).1 = .ok outcome ∧
      c.MergedInto row s.contents outcome (perform (run c) s).2.contents := by
  obtain ⟨cache, run⟩ := run_found ready formed proper (key_fits fits) found
  rw [run]
  exact (merge_merges (ready.seen cache) row).mergedInto formed proper fits holds found

theorem run_adds (ready : s.Ready) (sound : s.Sound) (sized : s.contents.Sized) (proper : c.Proper)
    (fits : c.fits = true) (absent : s.contents.lookup? c.kind c.key = none)
    (parents : s.contents.parentsStored c.subject = true) :
    ∃ outcome, (perform (run c) s).1 = .ok outcome ∧
      c.AddedTo s.contents outcome (perform (run c) s).2.contents := by
  obtain ⟨cache, run⟩ := run_unknown ready sound.contents (key_fits fits) absent
  have inserted := Store.insert?_of_absent absent parents
  rw [run, storeOrMerge_stored (ready.seen cache) (sound.seen cache) proper fits inserted]
  exact ⟨_, rfl, rfl, sized.isNextId c.kind, s.contents.created c, rfl, rfl, rfl, Candidate.cell_created proper _, rfl⟩

theorem run_rejected (ready : s.Ready) (sound : s.Sound) (fits : c.fits = true)
    (absent : s.contents.lookup? c.kind c.key = none) (orphan : s.contents.parentsStored c.subject = false) :
    perform (run c) s = perform (afterRejection c) s.rollback := by
  obtain ⟨cache, run⟩ := run_unknown ready sound.contents (key_fits fits) absent
  rw [run, storeOrMerge_rejected (ready.seen cache) sound.enforced fits (Store.insert?_of_orphan orphan)]
  rfl

end Upsert

namespace Session

variable {s : Session} {c : Candidate}

theorem getId_of_lookup? (ready : s.Ready) (formed : s.contents.WellFormed) (fits : c.key.fits = true) {row : Row}
    (found : s.contents.lookup? c.kind c.key = some row) :
    (perform (Action.getId c.kind c.key.toData) s).1 = .ok row.id := by
  have looked := Action.perform_getId? ready formed fits
  rw [found] at looked
  rw [Action.getId, perform_bind_ok looked]
  rfl

theorem getId_after_insert (sound : s.Sound) (proper : c.Proper) (fits : c.fits = true) {outcome : Outcome}
    (done : (perform (Action.insert c) s).1 = .ok outcome) :
    (perform (Action.getId c.kind c.key.toData) (perform (Action.insert c) s).2).1 = .ok outcome.2 := by
  obtain ⟨t, run⟩ : ∃ t, perform (Action.insert c) s = (.ok outcome, t) := ⟨_, Prod.ext done rfl⟩
  have ready := (Upsert.ready_of_run_ok run).1
  have ends := Upsert.run_ends sound proper
  rw [show perform (Upsert.run c) s = _ from run] at ends
  rw [run]
  cases ends with
  | @done before after _ _ which inserted left =>
    have formed := sound.which which
    obtain ⟨row, found, same, -⟩ := inserted.found formed proper
    have after := inserted.wellFormed formed proper
    rw [← left.contents_eq] at found after
    rw [getId_of_lookup? (left.ready.mpr ready) after (Upsert.key_fits fits) found, same]

/-- Whatever is pending, an insertion does one of three things. If the key is stored, the candidate is merged into
    its row. If it is not and the parents are stored, one row is added. Otherwise the row is rejected and what is
    pending is taken back: then the insertion fails and leaves the committed tables, or finds the key among these
    and merges. -/
theorem insert_merges_adds_or_is_rejected (reached : s.Reachable) (accepted : c.Accepted) (fits : c.fits = true)
    (room : s.contents.nextId c.kind < Word.bound) (room' : s.database.store.nextId c.kind < Word.bound) :
    let done := perform (Action.insert c) s
    (¬ s.Ready → done.1 = .error (.query .insert c.kind) ∧ done.2.contents = s.database.store) ∧
    (s.Ready →
      (∀ row, s.contents.lookup? c.kind c.key = some row →
        ∃ outcome, done.1 = .ok outcome ∧ c.MergedInto row s.contents outcome done.2.contents) ∧
      (s.contents.lookup? c.kind c.key = none → s.contents.parentsStored c.subject = true →
        ∃ outcome, done.1 = .ok outcome ∧ c.AddedTo s.contents outcome done.2.contents) ∧
      (s.contents.lookup? c.kind c.key = none → s.contents.parentsStored c.subject = false →
        (s.database.store.lookup? c.kind c.key = none →
          done.1 = .error (.query .insert c.kind) ∧ done.2.contents = s.database.store) ∧
        ∀ row, s.database.store.lookup? c.kind c.key = some row →
          ∃ outcome, done.1 = .ok outcome ∧ c.MergedInto row s.database.store outcome done.2.contents)) ∧
    ∀ outcome, done.1 = .ok outcome → (perform (Action.getId c.kind c.key.toData) done.2).1 = .ok outcome.2 := by
  intro done
  have sound := reached.sound
  have proper := accepted.proper
  have holds {store : Store} (sized : store.Sized) (room : store.nextId c.kind < Word.bound) (row : Row)
      (found : store.lookup? c.kind c.key = some row) : Word.holds row.id = true := by
    obtain ⟨member, kind, -⟩ := Store.mem_of_lookup? found
    exact sized.holds_id member (by rw [kind]; exact Int.le_of_lt room)
  refine ⟨fun unready => ?_, fun ready => ⟨fun row found => ?_, fun absent parents => ?_, fun absent orphan => ?_⟩,
    fun outcome => getId_after_insert sound proper fits⟩
  · have run : done = _ := Upsert.perform_run_unready unready c
    rw [run]
    exact ⟨rfl, rfl⟩
  · exact Upsert.run_merges ready sound.contents proper fits (holds reached.sized.contents room row found) found
  · exact Upsert.run_adds ready sound reached.sized.contents proper fits absent parents
  · have run : done = _ := Upsert.run_rejected ready sound fits absent orphan
    rw [run]
    refine ⟨fun unknown => ?_, fun row known => ?_⟩
    · rw [Upsert.afterRejection_unknown ready.rollback sound.committed (Upsert.key_fits fits) unknown]
      exact ⟨rfl, rfl⟩
    · rw [Upsert.afterRejection_known ready.rollback sound.committed (Upsert.key_fits fits) known]
      exact Upsert.run_merges ready.rollback sound.committed proper fits
        (holds reached.sized.committed room' row known) known

/-- A stored subdomain that is offered with a parent that is not there, and with something new. -/
theorem insert_merges_adds_or_is_rejected_of_known :
    let s := inMemory.run [.insertSubdomain (.text "www.example.com") (.text "example.com")]
    let row : Row := ⟨1, .subdomain 1 "www.example.com", [(.resolvable, .null)], false⟩
    let c : Candidate := ⟨.subdomain 7 "www.example.com", [(.resolvable, .bool true)]⟩
    let done := perform (Action.insert c) s
    ∃ outcome, done.1 = .ok outcome ∧ c.MergedInto row s.contents outcome done.2.contents ∧
      (perform (Action.getId .subdomain (.text "www.example.com")) done.2).1 = .ok outcome.2 := by
  intro s row c done
  have read : Submission.ofData (.object [("kind", .text "subdomain"), ("domain_id", .int 7),
      ("value", .text "www.example.com"), ("resolvable", .bool true)]) = .ok ⟨c, true⟩ :=
    eq_ok_of_toOption (by decide +kernel)
  have ready : s.Ready := ⟨by decide +kernel, by decide +kernel, by decide +kernel⟩
  obtain ⟨-, cases, named⟩ := insert_merges_adds_or_is_rejected (s := s) (.operation _ (.fresh .memory))
    (Submission.ofData_accepted read) (by decide +kernel) (by decide +kernel) (by decide +kernel)
  obtain ⟨outcome, told, merged⟩ := (cases ready).1 row (by decide +kernel)
  exact ⟨outcome, told, merged, named outcome told⟩

/-- The domain of a subdomain was removed without a commit, and the subdomain with it. To insert the subdomain again
    brings both back: it is rejected, and then found. -/
theorem insert_brings_back_what_was_removed :
    let s := (perform (Action.deletePending .domain (.ofText "1"))
      (inMemory.run [.insertSubdomain (.text "www.example.com") (.text "example.com")])).2
    let c : Candidate := ⟨.subdomain 1 "www.example.com", []⟩
    let done := perform (Action.insert c) s
    s.Reachable ∧ s.Ready ∧ c.Accepted ∧ c.fits = true ∧
    s.contents.lookup? c.kind c.key = none ∧ s.contents.parentsStored c.subject = false ∧
    done.1 = .ok (false, 1) ∧ s.contents = .empty ∧ done.2.contents ≠ .empty := by
  intro s c done
  have read : Submission.ofData (.object [("kind", .text "subdomain"), ("domain_id", .int 1),
      ("value", .text "www.example.com")]) = .ok ⟨c, true⟩ := eq_ok_of_toOption (by decide +kernel)
  exact ⟨.deletePending _ _ (.operation _ (.fresh .memory)), ⟨by decide +kernel, by decide +kernel, by decide +kernel⟩,
    Submission.ofData_accepted read, by decide +kernel, by decide +kernel, by decide +kernel,
    eq_ok_of_toOption (by decide +kernel), by decide +kernel, by decide +kernel⟩

/-- As long as nothing is pending, it does not matter whether the first lookup sees the row with the key: the row
    that is offered after all is rejected, whatever else is wrong with it, and then found. -/
theorem insertUnseen_agrees (reached : s.Reachable) (settled : s.pending = none) (accepted : c.Accepted)
    (fits : c.fits = true) :
    let unseen := perform (Action.insertUnseen c) s
    let plain := perform (Action.insert c) s
    unseen.1 = plain.1 ∧ unseen.2.contents = plain.2.contents ∧
      ∀ events, unseen.2.answers events = plain.2.answers events := by
  intro unseen plain
  have enforced := reached.sound.enforced
  have agree : unseen.1 = plain.1 ∧ plain.2.Alike unseen.2 ∧ plain.2.enforced = true := by
    by_cases ready : s.Ready
    case neg =>
      have run : plain = _ := Upsert.perform_run_unready ready c
      have run' : unseen = _ := Upsert.perform_storeOrMerge_unready ready c
      exact ⟨by rw [run, run'], by rw [run, run']; exact ⟨⟨{}, rfl⟩, enforced⟩⟩
    have formed := reached.sound.contents
    cases found : s.contents.lookup? c.kind c.key with
    | none =>
      -- The plain insertion goes on as the other one, with the rows that its lookup read.
      obtain ⟨cache, run⟩ := Upsert.run_unknown ready formed (Upsert.key_fits fits) found
      have alike : s.Alike { s with seen := cache } := ⟨cache, rfl⟩
      obtain ⟨same, ⟨cache', ends⟩, kept⟩ := Alike.congruence.respects_storeOrMerge accepted _ _ ⟨alike, enforced⟩
      have run : plain = _ := run
      exact ⟨by rw [run]; exact same, by rw [run, ends]; exact ⟨⟨_, rfl⟩, kept⟩⟩
    | some row =>
      -- The rejected insertion goes on as the plain one, without the rows that were read before.
      have same : s.rollback.contents = s.contents := (contents_of_settled settled).symm
      have run : unseen = perform (Action.insert c) s.rollback := by
        have first : unseen = _ := Upsert.storeOrMerge_rejected ready enforced fits (Store.insert?_of_known found)
        rw [first, Upsert.afterRejection_known ready.rollback (same ▸ formed) (Upsert.key_fits fits) (same ▸ found)]
        rfl
      have alike : s.Alike s.rollback := by
        rw [rollback, ← settled]
        exact ⟨{}, rfl⟩
      obtain ⟨same, alike⟩ := Alike.congruence.respects_run accepted _ _ ⟨alike, enforced⟩
      exact ⟨by rw [run]; exact same.symm, by rw [run]; exact alike⟩
  obtain ⟨same, alike, kept⟩ := agree
  exact ⟨same, alike.contents_eq, fun events => (alike.through kept events).1⟩

/-- A stored subdomain that is offered with a parent that is not there breaks two rules at once. -/
theorem insertUnseen_agrees_of_known_orphan :
    let s := inMemory.run [.insertSubdomain (.text "www.example.com") (.text "example.com")]
    let c : Candidate := ⟨.subdomain 7 "www.example.com", [(.resolvable, .bool true)]⟩
    s.contents.insert? c = none ∧ (perform (Action.insert c) s).1 = .ok (true, 1) ∧
    (perform (Action.insertUnseen c) s).1 = .ok (true, 1) ∧
    (perform (Action.insertUnseen c) s).2.contents = (perform (Action.insert c) s).2.contents := by
  intro s c
  have read : Submission.ofData (.object [("kind", .text "subdomain"), ("domain_id", .int 7),
      ("value", .text "www.example.com"), ("resolvable", .bool true)]) = .ok ⟨c, true⟩ :=
    eq_ok_of_toOption (by decide +kernel)
  obtain ⟨same, tables, -⟩ := insertUnseen_agrees (s := s) (.operation _ (.fresh .memory)) (by decide +kernel)
    (Submission.ofData_accepted read) (by decide +kernel)
  have plain : (perform (Action.insert c) s).1 = .ok (true, 1) := eq_ok_of_toOption (by decide +kernel)
  exact ⟨by decide +kernel, plain, same.trans plain, tables⟩

end Session
end Footprint
