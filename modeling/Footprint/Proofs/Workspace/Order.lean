import Footprint.Proofs.Store.Gathering
import Footprint.Proofs.Workspace.Sized

namespace Footprint

namespace Upsert

variable {s t : Session} {c : Candidate} {result : Except Fault Outcome}

theorem Merges.inserted {row : Row} (merges : Merges s c row result t) (formed : s.contents.WellFormed)
    (proper : c.Proper) (fits : c.fits = true) (found : s.contents.lookup? c.kind c.key = some row)
    (holds : Word.holds row.id = true) :
    ∃ outcome after, result = .ok outcome ∧ s.contents.Inserted c outcome after ∧ s.Leaves after t := by
  have written := Store.update_changes formed proper found
  cases merges with
  | same same =>
    rw [same, Store.update_nil formed] at written
    exact ⟨_, _, rfl, .same found written.symm, .kept s.seen rfl⟩
  | written differ whole =>
    rw [written]
    exact ⟨_, _, rfl, .merged found (.of_fits (Candidate.fits_iff.mp fits).2), .committed s.seen⟩
  | misfit differ misfit => simp [Candidate.misfit?_revision fits holds] at misfit

theorem Inserts.inserted (inserts : Inserts s c result t) (ready : s.Ready) (formed : s.contents.WellFormed)
    (proper : c.Proper) (fits : c.fits = true) (parents : s.contents.parentsStored c.subject = true)
    (ids : s.contents.IdsFit) :
    ∃ outcome after, result = .ok outcome ∧ s.contents.Inserted c outcome after ∧ s.Leaves after t := by
  cases inserts with
  | unready unready => exact absurd ready unready
  | misfit ready misfit => simp [Key.fits_iff.mp (key_fits fits)] at misfit
  | @found row cache result t ready keyFits found merges =>
    have looked : s.Leaves s.contents { s with seen := cache } := .kept cache rfl
    obtain ⟨outcome, after, done, inserted, left⟩ :=
      merges.inserted formed proper fits found (ids row (Store.mem_of_lookup? found).1)
    exact ⟨outcome, after, done, inserted, looked.trans left⟩
  | @absent cache result t ready keyFits absent stores =>
    have inserted := Store.insert?_of_absent absent parents
    cases stores with
    | misfit misfit => simp [Option.isNone_iff_eq_none.mp fits] at misfit
    | stored fits inserted => exact ⟨_, _, rfl, .created (.of_fits fits) inserted, .committed cache⟩
    | refused fits rejected absent => cases rejected.symm.trans inserted
    | overtaken fits rejected known merges => cases rejected.symm.trans inserted

end Upsert

namespace Session

variable {s : Session} {old : Store} {done cs : List Candidate}

/-- What a session is ready to insert without a failure: everything fits, the parents are there, and there are
    ids enough for new rows. -/
structure Admits (s : Session) (cs : List Candidate) : Prop where
  ready : s.Ready
  sound : s.Sound
  sized : s.contents.Sized
  accepted : ∀ c ∈ cs, c.Accepted
  fits : ∀ c ∈ cs, c.fits = true
  parents : ∀ c ∈ cs, s.contents.parentsStored c.subject = true
  room : ∀ kind, s.contents.nextId kind + cs.length ≤ Word.bound

namespace Admits

theorem insert {c : Candidate} (admits : s.Admits (c :: cs)) :
    ∃ outcome t, perform (Action.insert c) s = (.ok outcome, t) ∧ s.contents.Inserted c outcome t.contents ∧
      t.Admits cs := by
  have proper := (admits.accepted c (by simp)).proper
  have fits := admits.fits c (by simp)
  have ids : s.contents.IdsFit := admits.sized.idsFit fun kind => by
    have room := admits.room kind
    omega
  obtain ⟨result, t, performed⟩ : ∃ result t, perform (Action.insert c) s = (result, t) := ⟨_, _, rfl⟩
  have inserts := Upsert.Inserts.of_run admits.sound proper performed
  obtain ⟨outcome, after, rfl, inserted, left⟩ :=
    inserts.inserted admits.ready admits.sound.contents proper fits (admits.parents c (by simp)) ids
  obtain rfl := left.contents_eq
  refine ⟨outcome, t, performed, inserted, left.ready.mpr admits.ready, ?_, inserted.sized admits.sized fits, ?_, ?_, ?_, ?_⟩
  · exact left.sound admits.sound (inserted.wellFormed admits.sound.contents proper)
  · exact fun d member => admits.accepted d (by simp [member])
  · exact fun d member => admits.fits d (by simp [member])
  · exact fun d member => inserted.grows.parentsStored (admits.parents d (by simp [member]))
  · intro kind
    have taken := inserted.nextId_le kind
    have room := admits.room kind
    rw [List.length_cons] at room
    omega

/-- All insertions succeed, and the tables gather what is offered. -/
theorem gathers (admits : s.Admits cs) (proper : ∀ d ∈ done, d.Proper)
    (concur : ∀ c ∈ done ++ cs, ∀ d ∈ done ++ cs, c.Concurs d) (before : old.Gathers done s.contents) :
    ∃ outcomes t, perform (cs.mapM Action.insert) s = (.ok outcomes, t) ∧ t.contents.WellFormed ∧
      old.Gathers (done ++ cs) t.contents := by
  induction cs generalizing s done with
  | nil => exact ⟨[], s, rfl, admits.sound.contents, by simpa using before⟩
  | cons c rest ih =>
    obtain ⟨outcome, t, run, inserted, admits'⟩ := admits.insert
    have proper' := (admits.accepted c (by simp)).proper
    have next := before.insert admits.sound.contents proper' inserted proper fun d earlier =>
      concur d (by simp [earlier]) c (by simp)
    have regroup : done ++ [c] ++ rest = done ++ c :: rest := by simp
    obtain ⟨outcomes, u, later, formed, after⟩ := ih admits'
      (fun d member => (List.mem_append.mp member).elim (proper d) fun last => List.mem_singleton.mp last ▸ proper')
      (by rwa [regroup]) next
    refine ⟨outcome :: outcomes, u, ?_, formed, regroup ▸ after⟩
    rw [List.mapM_cons, perform_bind_ok run, perform_bind_ok later]
    rfl

theorem inserts (admits : s.Admits cs) (concur : ∀ c ∈ cs, ∀ d ∈ cs, c.Concurs d) :
    ∃ outcomes t, perform (cs.mapM Action.insert) s = (.ok outcomes, t) ∧ t.contents.WellFormed ∧
      s.contents.Gathers cs t.contents :=
  admits.gathers (List.forall_mem_nil _) (by simpa using concur) (.refl admits.sound.contents)

end Admits

/-- What does not contradict itself can be inserted in any order: every insertion succeeds, and the tables come to
    the same rows but for the ids of the new ones. -/
theorem insert_in_any_order (reached : s.Reachable) (ready : s.Ready) {cs cs' : List Candidate} (order : cs.Perm cs')
    (accepted : ∀ c ∈ cs, c.Accepted) (fits : ∀ c ∈ cs, c.fits = true)
    (parents : ∀ c ∈ cs, s.contents.parentsStored c.subject = true)
    (agree : ∀ c ∈ cs, ∀ d ∈ cs, c ≠ d → c.Agrees d)
    (room : ∀ kind, s.contents.nextId kind + cs.length ≤ Word.bound) :
    ∃ outcomes outcomes' t t', perform (cs.mapM Action.insert) s = (.ok outcomes, t) ∧
      perform (cs'.mapM Action.insert) s = (.ok outcomes', t') ∧
      (t.contents.rows.map (Row.traced s.contents)).Perm (t'.contents.rows.map (Row.traced s.contents)) := by
  have same (c : Candidate) : c ∈ cs' ↔ c ∈ cs := order.symm.mem_iff
  have concur (c : Candidate) (member : c ∈ cs) (d : Candidate) (member' : d ∈ cs) : c.Concurs d := by
    by_cases equal : c = d
    · exact equal ▸ .refl c
    · exact (agree c member d member' equal).concurs (accepted c member) (accepted d member')
  have admits : s.Admits cs := ⟨ready, reached.sound, reached.sized.contents, accepted, fits, parents, room⟩
  have admits' : s.Admits cs' := {
    ready
    sound := reached.sound
    sized := reached.sized.contents
    accepted := fun c member => accepted c ((same c).mp member)
    fits := fun c member => fits c ((same c).mp member)
    parents := fun c member => parents c ((same c).mp member)
    room := order.length_eq ▸ room }
  have concur' (c : Candidate) (member : c ∈ cs') (d : Candidate) (member' : d ∈ cs') : c.Concurs d :=
    concur c ((same c).mp member) d ((same d).mp member')
  obtain ⟨outcomes, t, run, formed, gathers⟩ := admits.inserts concur
  obtain ⟨outcomes', t', run', formed', gathers'⟩ := admits'.inserts concur'
  exact ⟨outcomes, outcomes', t, t', run, run', gathers.perm (gathers'.congr same) formed formed' concur⟩

/-- A known address, a subdomain that is seen twice and another one, and the same in reverse. -/
theorem insert_in_any_order_reversed :
    let s := inMemory.run [.insertDomain (.text "example.com"), .insertAddress (.text "v4") (.text "1.1.1.1")]
    let cs : List Candidate := [⟨.address .v4 "1.1.1.1", [(.city, .text "Sydney")]⟩, ⟨.subdomain 1 "www.example.com", []⟩,
      ⟨.subdomain 1 "www.example.com", [(.resolvable, .bool true)]⟩, ⟨.subdomain 1 "api.example.com", []⟩]
    let one := perform (cs.mapM Action.insert) s
    let other := perform (cs.reverse.mapM Action.insert) s
    one.1 = .ok [(true, 1), (true, 1), (true, 1), (true, 2)] ∧
    other.1 = .ok [(true, 1), (true, 2), (false, 2), (true, 1)] ∧
    (one.2.contents.rows.map (Row.traced s.contents)).Perm (other.2.contents.rows.map (Row.traced s.contents)) := by
  intro s cs one other
  have address : Submission.ofData (.object [("kind", .text "ipaddr"), ("family", .text "v4"),
      ("value", .text "1.1.1.1"), ("city", .text "Sydney")]) =
      .ok ⟨⟨.address .v4 "1.1.1.1", [(.city, .text "Sydney")]⟩, true⟩ := eq_ok_of_toOption (by decide +kernel)
  have plain : Submission.ofData (.object [("kind", .text "subdomain"), ("domain_id", .int 1),
      ("value", .text "www.example.com")]) = .ok ⟨⟨.subdomain 1 "www.example.com", []⟩, true⟩ :=
    eq_ok_of_toOption (by decide +kernel)
  have resolved : Submission.ofData (.object [("kind", .text "subdomain"), ("domain_id", .int 1),
      ("value", .text "www.example.com"), ("resolvable", .bool true)]) =
      .ok ⟨⟨.subdomain 1 "www.example.com", [(.resolvable, .bool true)]⟩, true⟩ := eq_ok_of_toOption (by decide +kernel)
  have beside : Submission.ofData (.object [("kind", .text "subdomain"), ("domain_id", .int 1),
      ("value", .text "api.example.com")]) = .ok ⟨⟨.subdomain 1 "api.example.com", []⟩, true⟩ :=
    eq_ok_of_toOption (by decide +kernel)
  have accepted : ∀ c ∈ cs, c.Accepted := by
    simp only [cs, List.forall_mem_cons]
    exact ⟨Submission.ofData_accepted address, Submission.ofData_accepted plain, Submission.ofData_accepted resolved,
      Submission.ofData_accepted beside, List.forall_mem_nil _⟩
  have agree : ∀ c ∈ cs, ∀ d ∈ cs, c ≠ d → c.Agrees d := by
    intro c member d member' differ kind key
    simp only [cs, List.mem_cons, List.not_mem_nil, or_false] at member member'
    rcases member with rfl | rfl | rfl | rfl <;> rcases member' with rfl | rfl | rfl | rfl <;>
      simp [Candidate.kind, Candidate.key, Subject.kind, Subject.key, Assignment.get?, Subject.parents] at kind key differ ⊢
  have reached : s.Reachable := .operation _ (.operation _ (.fresh .memory))
  have ready : s.Ready := ⟨by decide +kernel, by decide +kernel, by decide +kernel⟩
  obtain ⟨outcomes, outcomes', t, t', run, run', same⟩ := insert_in_any_order reached ready cs.reverse_perm.symm accepted
    (by decide +kernel) (by decide +kernel) agree (fun kind => by cases kind <;> decide +kernel)
  have ends : one.2 = t := congrArg Prod.snd run
  have ends' : other.2 = t' := congrArg Prod.snd run'
  rw [ends, ends']
  exact ⟨eq_ok_of_toOption (by decide +kernel), eq_ok_of_toOption (by decide +kernel), same⟩

end Session
end Footprint
