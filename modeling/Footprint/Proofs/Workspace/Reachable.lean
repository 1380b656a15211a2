import Footprint.Proofs.Session.Downgrade
import Footprint.Proofs.Session.Repetition
import Footprint.Proofs.Workspace.Run
import Footprint.Workspace.Desk

/-!
All that a session can come to, with changes that are not committed, other sessions on the same
database and changes of the schema. Its tables follow their rules throughout, so that a repeated
insertion finds what the first one left.
-/

namespace Footprint

theorem Action.perform_requireOpen (s : Session) :
    perform requireOpen s = (.ok (), s) ∨ ∃ fault, perform requireOpen s = (.error fault, s) := by
  rw [requireOpen, perform_bare, Statement.requireOpen]
  cases isOpen : s.isOpen <;> cases isIntact : s.isIntact <;> simp [perform_bind, isOpen, isIntact]

namespace Session

variable {s t : Session}

/-- The sessions that can come from a new workspace. -/
inductive Reachable : Session → Prop
  | fresh {s : Session} : s.Fresh → Reachable s
  | operation {s : Session} (op : Operation) : Reachable s → Reachable (s.step op)
  | getById {s : Session} (kind : Kind) (id : Data) : Reachable s → Reachable (perform (Action.getById? kind id) s).2
  | scopePending {s : Session} (kind : Kind) (f : Search) (unscoped : Bool) :
    Reachable s → Reachable (perform (Action.scopePending kind f unscoped) s).2
  | deletePending {s : Session} (kind : Kind) (f : Search) :
    Reachable s → Reachable (perform (Action.deletePending kind f) s).2
  | commit {s : Session} : Reachable s → Reachable (perform Action.commit s).2
  | rollback {s : Session} : Reachable s → Reachable (perform Action.rollback s).2
  | upgrade {s : Session} : Reachable s → Reachable (perform Action.upgrade s).2
  | downgrade {s : Session} : Reachable s → Reachable (perform Action.downgrade s).2
  | close {s : Session} : Reachable s → Reachable (perform Desk.close s).2
  | beside {s t : Session} : Reachable s → Reachable t → Reachable { s with database := t.database }

theorem contents_beside (s : Session) (database : Database) :
    Session.contents { s with database } = s.contents ∨ Session.contents { s with database } = database.store := by
  cases pending : s.pending <;> simp [contents, pending]

structure Rebuilds (s t : Session) : Prop where
  settled : t.pending = none
  enforced : t.enforced = s.enforced
  store : t.database.store = s.database.store ∨ t.database.store = .empty

theorem rebuilds_of_next {next : Action Unit} (changed : s.Rebuilds (perform next s.rollback).2) :
    s.Rebuilds (perform (do modify Session.rollback; Action.requireOpen; next) s).2 := by
  rw [perform_bind_ok (perform_modify Session.rollback s)]
  rcases Action.perform_requireOpen s.rollback with opened | ⟨fault, refused⟩
  · rw [perform_bind_ok opened]
    exact changed
  · rw [perform_bind_error refused]
    exact ⟨rfl, rfl, .inl rfl⟩

theorem rebuilds_upgrade (s : Session) : s.Rebuilds (perform Action.upgrade s).2 := by
  refine rebuilds_of_next ?_
  rw [perform_bind_ok (perform_get s.rollback)]
  cases upgraded : s.rollback.database.upgrade? with
  | none => exact ⟨rfl, rfl, .inl s.database.store_tracked⟩
  | some database =>
    refine ⟨rfl, rfl, ?_⟩
    unfold Database.upgrade? at upgraded
    split at upgraded
    · cases upgraded
      exact .inl rfl
    · split at upgraded
      · cases upgraded
      · cases upgraded
        exact .inr rfl

theorem rebuilds_downgrade (enforced : s.enforced = true) : s.Rebuilds (perform Action.downgrade s).2 := by
  refine rebuilds_of_next ?_
  have rules : s.rollback.schema = s.rollback.database.schema := schema_of_enforced enforced
  rw [perform_bind_ok (perform_get s.rollback), perform_bind_ok (perform_get s.rollback), rules]
  cases done : s.rollback.database.downgrade s.rollback.database.schema with
  | error e => exact ⟨rfl, rfl, .inl rfl⟩
  | ok database => exact ⟨rfl, rfl, Database.store_of_downgrade done⟩

theorem bare_changeMatching (s : Session) (query : Sql.Query) (f : Search) (change : Store → (Row → Bool) → Store) :
    let t := (perform (Action.bare (Action.changeMatching query f change)) s).2
    t = s ∨ ∃ affected, t = { s with pending := some (change s.contents affected) } := by
  obtain ⟨result, t, run, ends⟩ := Action.changeMatching_ends s query f change
  rw [Action.perform_bare_state, run]
  cases ends with
  | changed => exact .inr ⟨_, rfl⟩
  | failed => exact .inl rfl
  | misfit => exact .inl rfl

namespace Sound

theorem of_settled (settled : s.pending = none) (enforced : s.enforced = true)
    (formed : s.database.store.WellFormed) : s.Sound :=
  ⟨formed, contents_of_settled settled ▸ formed, enforced⟩

theorem rollback (sound : s.Sound) : s.rollback.Sound := .of_settled rfl sound.enforced sound.committed

theorem beside (sound : s.Sound) (other : t.Sound) : Session.Sound { s with database := t.database } := by
  refine ⟨other.committed, ?_, sound.enforced⟩
  rcases contents_beside s t.database with same | same
  · exact same ▸ sound.contents
  · exact same ▸ other.committed

theorem reads {α : Type} (sound : s.Sound) {body : Statement α} (reads : body.Reads) :
    (perform (Action.bare body) s).2.Sound := by
  obtain ⟨cache, same⟩ := reads s
  rw [Action.perform_bare_state, same]
  exact sound.seen cache

theorem getById (sound : s.Sound) (kind : Kind) (id : Data) : (perform (Action.getById? kind id) s).2.Sound := by
  unfold Action.getById?
  split
  · exact sound.reads (Statement.reads_findRow kind _)
  · exact sound

theorem changeMatching (sound : s.Sound) (query : Sql.Query) (f : Search)
    (change : Store → (Row → Bool) → Store) (formed : ∀ isMatch, (change s.contents isMatch).WellFormed) :
    (perform (Action.bare (Action.changeMatching query f change)) s).2.Sound := by
  rcases bare_changeMatching s query f change with kept | ⟨isMatch, changed⟩
  · rw [kept]
    exact sound
  · rw [changed]
    exact ⟨sound.committed, formed isMatch, sound.enforced⟩

theorem scopePending (sound : s.Sound) (kind : Kind) (f : Search) (unscoped : Bool) :
    (perform (Action.scopePending kind f unscoped) s).2.Sound := by
  unfold Action.scopePending
  cases scopable : kind.scopable with
  | false => exact sound
  | true =>
    rw [Statement.setScope_eq]
    exact sound.changeMatching (.update kind unscoped) f
      (fun store isMatch => store.setScope isMatch unscoped) fun _ => sound.contents.setScope _ _

theorem deletePending (sound : s.Sound) (kind : Kind) (f : Search) :
    (perform (Action.deletePending kind f) s).2.Sound := by
  rw [Action.perform_deletePending_eq sound.enforced]
  exact sound.changeMatching (.delete kind) f Store.delete fun _ => sound.contents.delete _

theorem rebuilds (sound : s.Sound) (rebuilt : s.Rebuilds t) : t.Sound := by
  refine .of_settled rebuilt.settled (rebuilt.enforced.trans sound.enforced) ?_
  rcases rebuilt.store with kept | emptied
  · exact kept ▸ sound.committed
  · exact emptied ▸ .empty

end Sound

theorem Reachable.sound (reached : s.Reachable) : s.Sound := by
  induction reached with
  | fresh fresh => exact fresh.sound
  | operation op _ ih => exact (op.steps ih).sound
  | getById kind id _ ih => exact ih.getById kind id
  | scopePending kind f unscoped _ ih => exact ih.scopePending kind f unscoped
  | deletePending kind f _ ih => exact ih.deletePending kind f
  | commit _ ih => exact ⟨ih.contents, ih.contents, ih.enforced⟩
  | rollback _ ih => exact ih.rollback
  | upgrade _ ih => exact ih.rebuilds (rebuilds_upgrade _)
  | downgrade _ ih => exact ih.rebuilds (rebuilds_downgrade ih.enforced)
  | close _ ih => exact .of_settled rfl ih.enforced ih.committed
  | beside _ _ ih ih' => exact ih.beside ih'

/-- A repeated insertion changes no table and finds the row of the first one. It tells that nothing was
    written exactly if the candidate supplies no NaN, as a NaN is written anew each time. -/
theorem insert_again (reached : s.Reachable) {data : Data} {accepted : Submission}
    (read : Submission.ofData data = .ok accepted) {changed : Bool} {id : Int}
    (first : perform (Action.insert accepted.candidate) s = (.ok (changed, id), t)) :
    let again := perform (Action.insert accepted.candidate) t
    again.2.contents = t.contents ∧
    (again.1 = .ok (false, id) ↔ accepted.candidate.suppliesNaN = false) ∧
    (accepted.candidate.suppliesNaN = false → ∃ cache, again.2 = { t with seen := cache }) ∧
    (accepted.candidate.suppliesNaN = true → Word.holds id = true → again.1 = .ok (true, id)) := by
  intro again
  obtain ⟨kept, clean, dirty⟩ := Upsert.run_again reached.sound (Submission.ofData_proper read) first
  change again.2.contents = t.contents at kept
  refine ⟨kept, ⟨fun same => ?_, fun proper => ?_⟩, fun proper => ?_, fun nan fits => ?_⟩
  · cases nan : accepted.candidate.suppliesNaN with
    | false => rfl
    | true =>
      have result : again.1 = _ := dirty nan
      rw [same] at result
      split at result <;> cases result
  · obtain ⟨cache, run⟩ := clean proper
    exact congrArg Prod.fst run
  · obtain ⟨cache, run⟩ := clean proper
    exact ⟨cache, congrArg Prod.snd run⟩
  · rw [if_pos fits] at dirty
    exact dirty nan

/-- An address with a NaN for its longitude is reported as written both times. -/
theorem insert_again_with_nan : ∃ accepted t,
    Submission.ofData (.object [("kind", .text "ipaddr"), ("family", .text "v4"), ("value", .text "1.2.3.4"),
      ("longitude", .real .nan)]) = .ok accepted ∧
    perform (Action.insert accepted.candidate) inMemory = (.ok (true, 1), t) ∧
    (perform (Action.insert accepted.candidate) t).1 = .ok (true, 1) := by
  let accepted : Submission := ⟨⟨.address .v4 "1.2.3.4", [(.longitude, .real .nan)]⟩, true⟩
  have read : Submission.ofData (.object [("kind", .text "ipaddr"), ("family", .text "v4"), ("value", .text "1.2.3.4"),
      ("longitude", .real .nan)]) = .ok accepted := eq_ok_of_toOption (by decide +kernel)
  have first : perform (Action.insert accepted.candidate) inMemory =
      (.ok (true, 1), (perform (Action.insert accepted.candidate) inMemory).2) :=
    Prod.ext (eq_ok_of_toOption (by decide +kernel)) rfl
  obtain ⟨-, -, -, dirty⟩ := insert_again (.fresh .memory) read first
  exact ⟨accepted, _, read, first, dirty (by decide) (by decide)⟩

end Session
end Footprint
