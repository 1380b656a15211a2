import Footprint.Proofs.Workspace.Sized

namespace Footprint

/-- What of the candidate an insertion passes to the tables in vain. Of a row that is known only the key and the
    attributes are passed, so that an oversized parent is noticed for a new row alone. -/
def Candidate.misfitIn? (c : Candidate) (store : Store) : Option Misfit :=
  c.key.misfit?.or <| match store.lookup? c.kind c.key with
    | some _ => c.supplied.misfit?
    | none => c.misfit?

namespace Upsert

variable {s t : Session} {c : Candidate} {row : Row} {fault : Fault} {result : Except Fault Outcome}

theorem Merges.fails (merges : Merges s c row (.error fault) t) : ∃ m, fault = .misfit m := by
  cases merges with
  | @misfit m differ misfit => exact ⟨m, rfl⟩

theorem Merges.misfit_iff (merges : Merges s c row result t) (holds : Word.holds row.id = true) (m : Misfit) :
    (result = .error (.misfit m) ↔ (c.changes row).misfit? = some m) ∧ (result = .error (.misfit m) → t = s) := by
  have written : (c.revision row).misfit? = (c.changes row).misfit? := Revision.misfit?_of_id holds
  cases merges with
  | same same => simp [same, Assignment.misfit?]
  | written differ fits => simp [← written, Revision.fits_iff.mp fits]
  | misfit differ misfit => simp [← written, misfit]

theorem Inserts.fails (inserts : Inserts s c (.error fault) t) : fault.isOwn = true ∨ ∃ m, fault = .misfit m := by
  cases inserts with
  | unready unready => exact .inl rfl
  | @misfit m ready misfit => exact .inr ⟨m, rfl⟩
  | found ready fits found merges => exact .inr merges.fails
  | absent ready fits absent stores =>
    cases stores with
    | @misfit m misfit => exact .inr ⟨m, rfl⟩
    | refused fits rejected absent => exact .inl rfl
    | overtaken fits rejected known merges => exact .inr merges.fails

theorem Stores.misfit_iff (stores : Stores s c result t) (committed : s.database.store.IdsFit) (m : Misfit) :
    (result = .error (.misfit m) ↔ c.misfit? = some m) ∧ (result = .error (.misfit m) → t = s) := by
  cases stores with
  | misfit misfit => simp [misfit]
  | stored fits inserted => simp [Option.isNone_iff_eq_none.mp fits]
  | refused fits rejected absent => simp [Option.isNone_iff_eq_none.mp fits]
  | @overtaken row cache result t fits rejected known merges =>
    have same := (merges.misfit_iff (committed _ (Store.mem_of_lookup? known).1) m).1
    have taken : (c.changes row).misfit? = none := Option.isNone_iff_eq_none.mp (Candidate.changes_fits fits row)
    simp [same, taken, Option.isNone_iff_eq_none.mp fits]

theorem Inserts.misfit_iff (inserts : Inserts s c result t) (ready : s.Ready) (sound : s.Sound) (sized : s.Sized)
    (ids : s.contents.IdsFit) (committed : s.database.store.IdsFit) (proper : c.Proper) (m : Misfit) :
    (result = .error (.misfit m) ↔ c.misfitIn? s.contents = some m) ∧
    (result = .error (.misfit m) → ∃ cache, t = { s with seen := cache }) := by
  cases inserts with
  | unready unready => exact absurd ready unready
  | misfit ready misfit => exact ⟨by simp [Candidate.misfitIn?, misfit], fun _ => ⟨s.seen, rfl⟩⟩
  | @found row cache result t ready fits found merges =>
    obtain ⟨member, -, -⟩ := Store.mem_of_lookup? found
    have same := Candidate.misfit?_changes proper (sound.contents.rows row member) (sized.contents row member)
    have passed : c.misfitIn? s.contents = (c.changes row).misfit? := by
      simp [Candidate.misfitIn?, Key.fits_iff.mp fits, found, same]
    obtain ⟨fails, stays⟩ := merges.misfit_iff (ids row member) m
    rw [passed]
    exact ⟨fails, fun failed => ⟨cache, stays failed⟩⟩
  | @absent cache result t ready fits absent stores =>
    have passed : c.misfitIn? s.contents = c.misfit? := by
      simp [Candidate.misfitIn?, Key.fits_iff.mp fits, absent]
    obtain ⟨fails, stays⟩ := stores.misfit_iff committed m
    rw [passed]
    exact ⟨fails, fun failed => ⟨cache, stays failed⟩⟩

end Upsert

namespace Action

variable {s : Session} {r : Revision} {fault : Fault}

theorem update_fails (failed : (perform (update r) s).1 = .error fault) :
    fault.isOwn = true ∨ ∃ m, fault = .misfit m := by
  by_cases nothing : r.changes = []
  · rw [perform_update_nil r nothing] at failed
    cases failed
  by_cases ready : s.Ready
  · rw [perform_update ready nothing] at failed
    split at failed
    case h_1 => cases failed
    case h_2 m misfit =>
      cases failed
      exact .inr ⟨m, rfl⟩
  · rw [perform_update_unready ready nothing] at failed
    cases failed
    exact .inl rfl

theorem update_misfit_iff {m : Misfit} : (perform (update r) s).1 = .error (.misfit m) ↔
    s.Ready ∧ r.changes ≠ [] ∧ r.misfit? = some m := by
  by_cases nothing : r.changes = []
  · rw [perform_update_nil r nothing]
    simp [nothing]
  by_cases ready : s.Ready
  · rw [perform_update ready nothing]
    cases misfit : r.misfit? <;> simp [ready, nothing]
  · rw [perform_update_unready ready nothing]
    simp [ready]

end Action

namespace Session

variable {s : Session}

/-- Insertions and updates end well or with a fault of the storage layer's own, except that the complaint about a
    value that a database does not take is passed on as it is. That happens exactly if such a value is passed to
    the tables, and then neither the tables nor what is pending change. Ids are taken to have 64 bits. -/
theorem writes_fail_with_own_faults (reached : s.Reachable) :
    (∀ data accepted, Submission.ofData data = .ok accepted →
      let inserted := perform (Action.insert accepted.candidate) s
      (∀ fault, inserted.1 = .error fault → fault.isOwn = true ∨ ∃ m, fault = .misfit m) ∧
      (s.contents.IdsFit → s.database.store.IdsFit → ∀ m,
        (inserted.1 = .error (.misfit m) ↔ s.Ready ∧ accepted.candidate.misfitIn? s.contents = some m) ∧
        (inserted.1 = .error (.misfit m) → ∃ cache, inserted.2 = { s with seen := cache }))) ∧
    ∀ data r, Revision.ofData data = .ok r →
      let updated := perform (Action.update r) s
      (∀ fault, updated.1 = .error fault → fault.isOwn = true ∨ ∃ m, fault = .misfit m) ∧
      ∀ m, (updated.1 = .error (.misfit m) ↔ s.Ready ∧ r.changes ≠ [] ∧ r.misfit? = some m) ∧
        (updated.1 = .error (.misfit m) → updated.2 = s) := by
  constructor
  · intro data accepted read inserted
    have proper := Submission.ofData_proper read
    have inserts : Upsert.Inserts s accepted.candidate inserted.1 inserted.2 := Upsert.run_inserts reached.sound proper
    refine ⟨fun fault failed => (failed ▸ inserts).fails, fun ids committed m => ?_⟩
    by_cases ready : s.Ready
    · obtain ⟨misfit, kept⟩ := inserts.misfit_iff ready reached.sound reached.sized ids committed proper m
      exact ⟨misfit.trans (and_iff_right ready).symm, kept⟩
    · have refused : inserted = (.error (.query .insert accepted.candidate.kind), s.rollback) :=
        Upsert.perform_run_unready ready accepted.candidate
      simp [refused, ready]
  · intro data r read updated
    have misfit (m : Misfit) : updated.1 = .error (.misfit m) ↔ _ := Action.update_misfit_iff
    refine ⟨fun fault failed => Action.update_fails failed, fun m => ⟨misfit m, fun failed => ?_⟩⟩
    obtain ⟨ready, something, fits⟩ := (misfit m).mp failed
    have run := Action.perform_update ready something
    rw [fits] at run
    exact congrArg Prod.snd run

/-- A subdomain with an oversized parent is passed on unchecked, unless its name is known: then the parent is of
    no account. A surrogate in the title of a url is passed on too. -/
theorem writes_fail_with_own_faults_of_oversized_parent :
    let data : Data := .object [("kind", .text "subdomain"), ("value", .text "www.example.com"),
      ("domain_id", .int 9223372036854775808)]
    let title : Ragged := ⟨"", ⟨61⟩, []⟩
    let known := inMemory.step (.insertSubdomain (.text "www.example.com") (.text "example.com"))
    (Fault.misfit .oversizedInteger).isOwn = false ∧ (∃ accepted, Submission.ofData data = .ok accepted ∧
      (perform (Action.insert accepted.candidate) inMemory).1 = .error (.misfit .oversizedInteger) ∧
      (perform (Action.insert accepted.candidate) known).1 ≠ .error (.misfit .oversizedInteger)) ∧
    ∃ r, Revision.ofData (.object [("kind", .text "url"), ("id", .int 1), ("title", .ragged title)]) = .ok r ∧
      (perform (Action.update r) inMemory).1 = .error (.misfit (.unencodable title)) := by
  intro data title known
  let accepted : Submission := ⟨⟨.subdomain 9223372036854775808 "www.example.com", []⟩, true⟩
  let r : Revision := ⟨.url, 1, [(.title, .ragged title)]⟩
  have read : Submission.ofData data = .ok accepted := eq_ok_of_toOption (by decide +kernel)
  have revised : Revision.ofData (.object [("kind", .text "url"), ("id", .int 1), ("title", .ragged title)]) = .ok r :=
    eq_ok_of_toOption (by decide +kernel)
  have reached : known.Reachable := .operation _ (.fresh .memory)
  have ids : inMemory.contents.IdsFit := nofun
  have ids' : known.contents.IdsFit ∧ known.database.store.IdsFit := by
    unfold Store.IdsFit
    decide +kernel
  obtain ⟨inserts, updates⟩ := writes_fail_with_own_faults (.fresh .memory)
  obtain ⟨-, exact⟩ := inserts data accepted read
  obtain ⟨-, exact'⟩ := (writes_fail_with_own_faults reached).1 data accepted read
  refine ⟨rfl, ⟨accepted, read, ?_, ?_⟩, r, revised, ?_⟩
  · exact (exact ids ids .oversizedInteger).1.mpr ⟨⟨rfl, rfl, rfl⟩, by decide +kernel⟩
  · intro failed
    have oversized := ((exact' ids'.1 ids'.2 .oversizedInteger).1.mp failed).2
    exact absurd oversized (by decide +kernel)
  · exact ((updates _ r revised).2 (.unencodable title)).1.mpr ⟨⟨rfl, rfl, rfl⟩, List.cons_ne_nil _ _, rfl⟩

end Session
end Footprint
