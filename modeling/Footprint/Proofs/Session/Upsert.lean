import Footprint.Proofs.Session.Lookup
import Footprint.Proofs.Session.Write
import Footprint.Proofs.Store.Insertion

namespace Footprint

namespace Session

structure Sound (s : Session) : Prop where
  committed : s.database.store.WellFormed
  contents : s.contents.WellFormed
  enforced : s.enforced = true

theorem Sound.seen {s : Session} (sound : s.Sound) (cache : RowCache) : Sound { s with seen := cache } :=
  ⟨sound.committed, sound.contents, sound.enforced⟩

inductive Leaves (s : Session) (tables : Store) : Session → Prop
  | kept (cache : RowCache) : s.contents = tables → Leaves s tables { s with seen := cache }
  | undone (cache : RowCache) : s.database.store = tables → Leaves s tables { s.rollback with seen := cache }
  | committed (cache : RowCache) : Leaves s tables { s.put tables with seen := cache }

namespace Leaves

variable {s t u : Session} {tables later : Store}

theorem contents_eq (left : s.Leaves tables t) : t.contents = tables := by
  cases left with
  | kept cache same => exact same
  | undone cache same => exact same
  | committed cache => rfl

theorem trans (first : s.Leaves tables t) (second : t.Leaves later u) : s.Leaves later u := by
  cases first with
  | kept cache same =>
    cases second with
    | kept cache same => exact .kept cache same
    | undone cache same => exact .undone cache same
    | committed cache => exact .committed cache
  | undone cache same =>
    cases second with
    | kept cache same => exact .undone cache same
    | undone cache same => exact .undone cache same
    | committed cache => exact .committed cache
  | committed cache =>
    cases second with
    | kept cache same =>
      cases same
      exact .committed cache
    | undone cache same =>
      cases same
      exact .committed cache
    | committed cache => exact .committed cache

theorem ready (left : s.Leaves tables t) : t.Ready ↔ s.Ready := by
  cases left <;> exact ⟨fun ⟨a, b, c⟩ => ⟨a, b, c⟩, fun ⟨a, b, c⟩ => ⟨a, b, c⟩⟩

theorem sound (left : s.Leaves tables t) (before : s.Sound) (formed : tables.WellFormed) : t.Sound := by
  cases left with
  | kept cache same => exact ⟨before.committed, before.contents, before.enforced⟩
  | undone cache same => exact ⟨before.committed, before.committed, before.enforced⟩
  | committed cache => exact ⟨formed, formed, before.enforced⟩

theorem settled (left : s.Leaves tables t) (idle : s.pending = none) : t.pending = none := by
  cases left with
  | kept cache same => exact idle
  | undone cache same => rfl
  | committed cache => rfl

end Leaves
end Session

namespace Revision

variable {r : Revision}

theorem fits_iff : r.fits = true ↔ r.misfit? = none := Option.isNone_iff_eq_none

theorem fits_eq (r : Revision) : r.fits = (r.changes.fits && Word.holds r.id) := by
  rw [← Cell.fits_int, fits, misfit?, Assignment.fits, Cell.fits]
  cases r.changes.misfit? <;> rfl

theorem misfit?_eq_of_changes (fits : r.changes.fits = true) : r.misfit? = (Cell.int r.id).misfit? := by
  rw [misfit?, Option.isNone_iff_eq_none.mp fits, Option.none_or]

theorem fits_changes (fits : r.fits = true) : r.changes.fits = true :=
  (Bool.and_eq_true_iff.mp (r.fits_eq ▸ fits)).1

end Revision

def Candidate.revision (c : Candidate) (row : Row) : Revision := ⟨c.kind, row.id, c.changes row⟩

namespace Upsert

variable {s : Session} {c : Candidate} {m : Misfit}

theorem key_fits (fits : c.fits = true) : c.key.fits = true := by
  obtain ⟨own, -⟩ := Candidate.fits_iff.mp fits
  obtain ⟨subject, supplied⟩ := c
  cases subject with
  | link first second =>
    have both := And.intro (own .subdomainId (by simp [Candidate.kind, Subject.kind, Kind.subjectColumns]))
      (own .addressId (by simp [Candidate.kind, Subject.kind, Kind.subjectColumns]))
    simpa [Candidate.key, Subject.key, Key.fits_iff, Key.misfit?, ← Cell.fits_iff, Subject.cell] using both
  | raggedAddress family value =>
    cases own .value (by simp [Candidate.kind, Subject.kind, Kind.subjectColumns])
  | _ => rfl

/-! Steps on a session that is ready -/

theorem perform_lookup (ready : s.Ready) (formed : s.contents.WellFormed) (fits : c.key.fits = true) :
    ∃ cache, perform (lookup c) s = (.ok (s.contents.lookup? c.kind c.key), { s with seen := cache }) := by
  obtain ⟨cache, run⟩ := Statement.perform_findRow ready formed fits
  exact ⟨cache, Action.guarded_ok run⟩

theorem perform_lookupId (ready : s.Ready) (formed : s.contents.WellFormed) (fits : c.key.fits = true) :
    perform (lookupId c) s = (.ok ((s.contents.lookup? c.kind c.key).map Row.id), s) :=
  Action.guarded_ok (Statement.perform_findId ready formed fits)

theorem perform_lookup_misfit (ready : s.Ready) (misfit : c.key.misfit? = some m) :
    perform (lookup c) s = (.error (.misfit m), s) :=
  Action.guarded_misfit (perform_bind_error (Statement.perform_select_misfit ready misfit) _)

theorem perform_lookupId_misfit (ready : s.Ready) (misfit : c.key.misfit? = some m) :
    perform (lookupId c) s = (.error (.misfit m), s) :=
  Action.guarded_misfit (perform_bind_error (Statement.perform_select_misfit ready misfit) _)

theorem perform_store (ready : s.Ready) (enforced : s.enforced = true) (fits : c.fits = true) : perform (store c) s =
    match s.contents.insert? c with
    | some new => (.ok true, s.put new)
    | none => (.ok false, s.rollback) := by
  rw [store, Action.perform_guarded, perform_bind, Statement.perform_insertRow ready enforced fits]
  cases s.contents.insert? c <;> rfl

theorem perform_store_misfit (ready : s.Ready) (misfit : c.misfit? = some m) :
    perform (store c) s = (.error (.misfit m), s) := by
  rw [store, Action.perform_guarded, perform_bind, Statement.perform_insertRow_misfit ready misfit]

theorem perform_merge_same (row : Row) (same : c.changes row = []) :
    perform (merge c row) s = (.ok (false, row.id), s) := by
  simp [merge, same]

theorem perform_write (ready : s.Ready) (kind : Kind) (id : Int) (changes : Assignment) :
    perform (Action.guarded .update kind do
      Statement.updateRow kind id changes
      Statement.commit) s =
      match Revision.misfit? ⟨kind, id, changes⟩ with
      | none => (.ok (), s.put (s.contents.update kind id changes))
      | some m => (.error (.misfit m), s) := by
  rw [Action.perform_guarded, perform_bind, Statement.updateRow_eq,
    perform_bind_ok (Statement.perform_contents ready)]
  cases Revision.misfit? ⟨kind, id, changes⟩ with
  | some m => rw [perform_bind_error (Statement.perform_require_some m s)]
  | none =>
    rw [perform_bind_ok (Statement.perform_require_none s)]
    rfl

theorem perform_merge (ready : s.Ready) {row : Row} (differ : c.changes row ≠ []) : perform (merge c row) s =
    match (c.revision row).misfit? with
    | none => (.ok (true, row.id), s.put (s.contents.update c.kind row.id (c.changes row)))
    | some m => (.error (.misfit m), s) := by
  have some : (c.changes row).isEmpty = false := by simpa using differ
  simp only [merge, some, Bool.false_eq_true, if_false]
  rw [perform_bind, perform_write ready, Candidate.revision]
  cases Revision.misfit? ⟨c.kind, row.id, c.changes row⟩ <;> rfl

/-! Steps on a session that is not ready -/

theorem perform_select_unready (unready : ¬ s.Ready) (kind : Kind) (criteria : List Criterion) :
    ∃ e, (∀ m, e ≠ .misfit m) ∧ perform (Statement.select kind criteria) s = (.error e, s) := by
  obtain ⟨e, other, run⟩ := Statement.perform_contents_unready unready
  exact ⟨e, other, perform_bind_error run _⟩

theorem perform_run_unready (unready : ¬ s.Ready) (c : Candidate) :
    perform (run c) s = (.error (.query .insert c.kind), s.rollback) := by
  obtain ⟨e, other, selected⟩ := perform_select_unready unready c.kind c.criteria
  unfold run
  split
  · exact perform_bind_error (Action.guarded_error other (perform_bind_error selected _)) _
  · exact perform_bind_error (Action.guarded_error other (perform_bind_error selected _)) _

theorem perform_storeOrMerge_unready (unready : ¬ s.Ready) (c : Candidate) :
    perform (storeOrMerge c) s = (.error (.query .insert c.kind), s.rollback) := by
  obtain ⟨e, other, failed⟩ := Statement.perform_contents_unready unready
  exact perform_bind_error (Action.guarded_error other (perform_bind_error (perform_bind_error failed _) _)) _

/-! The cases of an insertion -/

theorem run_misfit (ready : s.Ready) (misfit : c.key.misfit? = some m) :
    perform (run c) s = (.error (.misfit m), s) := by
  unfold run
  split
  · exact perform_bind_error (perform_lookupId_misfit ready misfit) _
  · exact perform_bind_error (perform_lookup_misfit ready misfit) _

theorem run_known_link (ready : s.Ready) (formed : s.contents.WellFormed) (fits : c.key.fits = true)
    (link : c.kind = .link) {row : Row} (found : s.contents.lookup? c.kind c.key = some row) :
    perform (run c) s = (.ok (false, row.id), s) := by
  rw [run, if_pos link, perform_bind_ok (perform_lookupId ready formed fits), found]
  rfl

theorem run_known (ready : s.Ready) (formed : s.contents.WellFormed) (fits : c.key.fits = true)
    (merges : c.kind ≠ .link) {row : Row} (found : s.contents.lookup? c.kind c.key = some row) :
    ∃ cache, perform (run c) s = perform (merge c row) { s with seen := cache } := by
  obtain ⟨cache, looked⟩ := perform_lookup ready formed fits
  refine ⟨cache, ?_⟩
  rw [run, if_neg merges, perform_bind_ok looked, found]

theorem run_found (ready : s.Ready) (formed : s.contents.WellFormed) (proper : c.Proper) (fits : c.key.fits = true)
    {row : Row} (found : s.contents.lookup? c.kind c.key = some row) :
    ∃ cache, perform (run c) s = perform (merge c row) { s with seen := cache } := by
  by_cases link : c.kind = .link
  · have bare : c.kind.attributes = [] := by rw [link]; rfl
    have nothing : c.changes row = [] := by simp [Candidate.changes, Candidate.supplied_eq_nil proper bare]
    exact ⟨s.seen, (run_known_link ready formed fits link found).trans (perform_merge_same row nothing).symm⟩
  · exact run_known ready formed fits link found

theorem run_unknown (ready : s.Ready) (formed : s.contents.WellFormed) (fits : c.key.fits = true)
    (absent : s.contents.lookup? c.kind c.key = none) :
    ∃ cache, perform (run c) s = perform (storeOrMerge c) { s with seen := cache } := by
  by_cases link : c.kind = .link
  · refine ⟨s.seen, ?_⟩
    rw [run, if_pos link, perform_bind_ok (perform_lookupId ready formed fits), absent]
    rfl
  · obtain ⟨cache, looked⟩ := perform_lookup ready formed fits
    refine ⟨cache, ?_⟩
    rw [run, if_neg link, perform_bind_ok looked, absent]

theorem storeOrMerge_misfit (ready : s.Ready) (misfit : c.misfit? = some m) :
    perform (storeOrMerge c) s = (.error (.misfit m), s) :=
  perform_bind_error (perform_store_misfit ready misfit) _

theorem storeOrMerge_stored (ready : s.Ready) (sound : s.Sound) (proper : c.Proper)
    (fits : c.fits = true) {new : Store} (inserted : s.contents.insert? c = some new) :
    perform (storeOrMerge c) s = (.ok (true, s.contents.nextId c.kind), s.put new) := by
  have stored : perform (store c) s = (.ok true, s.put new) := by
    rw [perform_store ready sound.enforced fits, inserted]
  have looked := perform_lookupId (ready.put new) (sound.contents.insert proper (.of_fits fits) inserted) (key_fits fits)
  rw [Session.put_contents, Store.lookup?_insert inserted] at looked
  rw [storeOrMerge, perform_bind_ok stored, if_pos rfl, resolve, perform_bind, perform_bind_ok looked]
  rfl

theorem storeOrMerge_rejected (ready : s.Ready) (enforced : s.enforced = true) (fits : c.fits = true)
    (rejected : s.contents.insert? c = none) :
    perform (storeOrMerge c) s = perform (afterRejection c) s.rollback := by
  have refused : perform (store c) s = (.ok false, s.rollback) := by
    rw [perform_store ready enforced fits, rejected]
  rw [storeOrMerge, perform_bind_ok refused, if_neg Bool.false_ne_true]

theorem afterRejection_unknown (ready : s.Ready) (formed : s.contents.WellFormed) (fits : c.key.fits = true)
    (absent : s.contents.lookup? c.kind c.key = none) :
    perform (afterRejection c) s = (.error (.query .insert c.kind), s.rollback) := by
  rw [afterRejection, perform_bind_ok (perform_lookupId ready formed fits), absent]
  rfl

theorem afterRejection_known (ready : s.Ready) (formed : s.contents.WellFormed) (fits : c.key.fits = true)
    {row : Row} (found : s.contents.lookup? c.kind c.key = some row) :
    perform (afterRejection c) s = perform (run c) s := by
  have looked := perform_lookupId ready formed fits
  rw [found, Option.map_some] at looked
  rw [afterRejection, perform_bind_ok looked]
  by_cases link : c.kind = .link
  · simp only [if_pos link]
    rw [run_known_link ready formed fits link found, perform_bind, resolve, perform_bind_ok looked]
    rfl
  · simp only [if_neg link]
    obtain ⟨cache, looked⟩ := perform_lookup ready formed fits
    rw [run, if_neg link, perform_bind_ok looked, perform_bind_ok looked, found]

/-! All the ways that an insertion can go -/

inductive Merges (s : Session) (c : Candidate) (row : Row) : Except Fault Outcome → Session → Prop
  | same : c.changes row = [] → Merges s c row (.ok (false, row.id)) s
  | written : c.changes row ≠ [] → (c.revision row).fits = true →
    Merges s c row (.ok (true, row.id)) (s.put (s.contents.update c.kind row.id (c.changes row)))
  | misfit {m : Misfit} : c.changes row ≠ [] → (c.revision row).misfit? = some m →
    Merges s c row (.error (.misfit m)) s

inductive Stores (s : Session) (c : Candidate) : Except Fault Outcome → Session → Prop
  | misfit {m : Misfit} : c.misfit? = some m → Stores s c (.error (.misfit m)) s
  | stored {new : Store} : c.fits = true → s.contents.insert? c = some new →
    Stores s c (.ok (true, s.contents.nextId c.kind)) (s.put new)
  | refused : c.fits = true → s.contents.insert? c = none → s.database.store.lookup? c.kind c.key = none →
    Stores s c (.error (.query .insert c.kind)) s.rollback
  | overtaken {row : Row} {cache : RowCache} {result : Except Fault Outcome} {t : Session} :
    c.fits = true → s.contents.insert? c = none → s.database.store.lookup? c.kind c.key = some row →
    Merges { s.rollback with seen := cache } c row result t → Stores s c result t

inductive Inserts (s : Session) (c : Candidate) : Except Fault Outcome → Session → Prop
  | unready : ¬ s.Ready → Inserts s c (.error (.query .insert c.kind)) s.rollback
  | misfit {m : Misfit} : s.Ready → c.key.misfit? = some m → Inserts s c (.error (.misfit m)) s
  | found {row : Row} {cache : RowCache} {result : Except Fault Outcome} {t : Session} :
    s.Ready → c.key.fits = true → s.contents.lookup? c.kind c.key = some row →
    Merges { s with seen := cache } c row result t → Inserts s c result t
  | absent {cache : RowCache} {result : Except Fault Outcome} {t : Session} :
    s.Ready → c.key.fits = true → s.contents.lookup? c.kind c.key = none →
    Stores { s with seen := cache } c result t → Inserts s c result t

theorem merge_merges (ready : s.Ready) (row : Row) :
    Merges s c row (perform (merge c row) s).1 (perform (merge c row) s).2 := by
  by_cases same : c.changes row = []
  · rw [perform_merge_same row same]
    exact .same same
  · rw [perform_merge ready same]
    cases misfit : (c.revision row).misfit? with
    | none => exact .written same (Revision.fits_iff.mpr misfit)
    | some m => exact .misfit same misfit

theorem storeOrMerge_stores (ready : s.Ready) (sound : s.Sound) (proper : c.Proper) :
    Stores s c (perform (storeOrMerge c) s).1 (perform (storeOrMerge c) s).2 := by
  cases misfit : c.misfit? with
  | some m =>
    rw [storeOrMerge_misfit ready misfit]
    exact .misfit misfit
  | none =>
    have fits : c.fits = true := Option.isNone_iff_eq_none.mpr misfit
    have keyFits := key_fits fits
    have ready' := ready.rollback
    cases inserted : s.contents.insert? c with
    | some new =>
      rw [storeOrMerge_stored ready sound proper fits inserted]
      exact .stored fits inserted
    | none =>
      rw [storeOrMerge_rejected ready sound.enforced fits inserted]
      cases known : s.database.store.lookup? c.kind c.key with
      | none =>
        rw [afterRejection_unknown ready' sound.committed keyFits known]
        exact .refused fits inserted known
      | some row =>
        rw [afterRejection_known ready' sound.committed keyFits known]
        obtain ⟨cache, run⟩ := run_found ready' sound.committed proper keyFits known
        rw [run]
        exact .overtaken fits inserted known (merge_merges (ready'.seen cache) row)

theorem run_inserts (sound : s.Sound) (proper : c.Proper) :
    Inserts s c (perform (run c) s).1 (perform (run c) s).2 := by
  by_cases ready : s.Ready
  case neg =>
    rw [perform_run_unready ready]
    exact .unready ready
  cases misfit : c.key.misfit? with
  | some m =>
    rw [run_misfit ready misfit]
    exact .misfit ready misfit
  | none =>
    have fits := Key.fits_iff.mpr misfit
    cases found : s.contents.lookup? c.kind c.key with
    | some row =>
      obtain ⟨cache, run⟩ := run_found ready sound.contents proper fits found
      rw [run]
      exact .found ready fits found (merge_merges (ready.seen cache) row)
    | none =>
      obtain ⟨cache, run⟩ := run_unknown ready sound.contents fits found
      rw [run]
      exact .absent ready fits found (storeOrMerge_stores (ready.seen cache) (sound.seen cache) proper)

/-- How an insertion ends. A rejection takes back what was pending, so that the tables before may be
    the committed ones. -/
inductive Ends (s : Session) (c : Candidate) : Except Fault Outcome → Session → Prop
  | failed {fault : Fault} {tables : Store} {t : Session} : tables = s.contents ∨ tables = s.database.store →
    s.Leaves tables t → Ends s c (.error fault) t
  | done {before after : Store} {outcome : Outcome} {t : Session} :
    before = s.contents ∨ before = s.database.store → before.Inserted c outcome after →
    s.Leaves after t → Ends s c (.ok outcome) t

variable {s t : Session} {c : Candidate} {result : Except Fault Outcome}

theorem Ends.of_kept {cache : RowCache} (ends : Ends { s with seen := cache } c result t) : Ends s c result t := by
  have first : s.Leaves s.contents { s with seen := cache } := .kept cache rfl
  cases ends with
  | failed which left => exact .failed which (first.trans left)
  | done which inserted left => exact .done which inserted (first.trans left)

theorem Ends.of_undone (ends : Ends s.rollback c result t) : Ends s c result t := by
  have first : s.Leaves s.database.store s.rollback := .undone {} rfl
  cases ends with
  | failed which left => exact .failed (.inr (which.elim id id)) (first.trans left)
  | done which inserted left => exact .done (.inr (which.elim id id)) inserted (first.trans left)

theorem Inserts.of_run (sound : s.Sound) (proper : c.Proper) (performed : perform (run c) s = (result, t)) :
    Inserts s c result t := by
  have inserts := run_inserts sound proper
  rwa [performed] at inserts

theorem Merges.ends {row : Row} (merges : Merges s c row result t) (formed : s.contents.WellFormed) (proper : c.Proper)
    (found : s.contents.lookup? c.kind c.key = some row) : Ends s c result t := by
  have written := Store.update_changes formed proper found
  cases merges with
  | same same =>
    rw [same, Store.update_nil formed] at written
    exact .done (.inl rfl) (.same found written.symm) (.kept s.seen rfl)
  | written differ fits =>
    have plain := (formed.plain row (Store.mem_of_lookup? found).1).of_differing (.of_fits (Revision.fits_changes fits))
    rw [written]
    exact .done (.inl rfl) (.merged found plain) (.committed s.seen)
  | misfit differ misfit => exact .failed (.inl rfl) (.kept s.seen rfl)

theorem Stores.ends (stores : Stores s c result t) (sound : s.Sound) (proper : c.Proper) : Ends s c result t := by
  cases stores with
  | misfit misfit => exact .failed (.inl rfl) (.kept s.seen rfl)
  | stored fits inserted => exact .done (.inl rfl) (.created (.of_fits fits) inserted) (.committed s.seen)
  | refused fits rejected absent => exact .failed (.inr rfl) (.undone {} rfl)
  | overtaken fits rejected known merges => exact (merges.ends sound.committed proper known).of_kept.of_undone

theorem Inserts.ends (inserts : Inserts s c result t) (sound : s.Sound) (proper : c.Proper) : Ends s c result t := by
  cases inserts with
  | unready unready => exact .failed (.inr rfl) (.undone {} rfl)
  | misfit ready misfit => exact .failed (.inl rfl) (.kept s.seen rfl)
  | found ready fits found merges => exact (merges.ends sound.contents proper found).of_kept
  | absent ready fits absent stores => exact (stores.ends (sound.seen _) proper).of_kept

theorem storeOrMerge_ends (sound : s.Sound) (proper : c.Proper) :
    Ends s c (perform (storeOrMerge c) s).1 (perform (storeOrMerge c) s).2 := by
  by_cases ready : s.Ready
  · exact (storeOrMerge_stores ready sound proper).ends sound proper
  · rw [perform_storeOrMerge_unready ready]
    exact .failed (.inr rfl) (.undone {} rfl)

theorem run_ends (sound : s.Sound) (proper : c.Proper) :
    Ends s c (perform (run c) s).1 (perform (run c) s).2 :=
  (run_inserts sound proper).ends sound proper

end Upsert
end Footprint
