import Footprint.Proofs.Session.Write
import Footprint.Session.Schema

namespace Footprint

variable {s : Session} {c : Candidate}

theorem Action.perform_enforceParents (isOpen : s.isOpen = true) (isIntact : s.isIntact = true) :
    perform enforceParents s =
      (if s.enforced || s.pending.isNone then .ok () else .error .integrity,
        { s.commit with enforced := s.enforced || s.pending.isNone }) := by
  have asked : perform requireOpen s = (.ok (), s) := by
    simp [requireOpen, perform_bare, Statement.requireOpen, perform_bind, isOpen, isIntact]
  rw [enforceParents, perform_bind_ok asked, perform_bind_ok (perform_modify _ _), perform_bind_ok (perform_get _),
    perform_bind_ok (perform_modify _ _)]
  cases s.enforced || s.pending.isNone <;> rfl

/-- Nothing is pending on a new connection, so that references are in force on it. -/
theorem Session.connect_eq (database : Database) : connect database = .ok { database, enforced := true } := by
  have run : Action.enforceParents.run.run { database } = (.ok (), { database, enforced := true }) :=
    Action.perform_enforceParents rfl rfl
  rw [connect, run]

theorem Database.insert?_schema_loose (d : Database) (store : Store) (c : Candidate) :
    d.schema.loose.insert? store c =
      if store.keyTaken c.subject then none else some ⟨store.rows ++ [store.created c]⟩ := by
  rw [← d.schema_matches.loose.insert?, Schema.insert?_loose]

namespace Statement

theorem perform_insertRow_fst (ready : s.Ready) (fits : c.fits = true) :
    (perform (insertRow c) s).1 =
      .ok (!s.contents.keyTaken c.subject && (s.contents.parentsStored c.subject || !s.enforced)) := by
  cases enforced : s.enforced with
  | true =>
    rw [perform_insertRow ready enforced fits]
    cases taken : s.contents.keyTaken c.subject <;> cases parents : s.contents.parentsStored c.subject <;>
      simp [Store.insert?, taken, parents]
  | false =>
    have loose : s.schema = s.database.schema.loose := if_neg (by simp [enforced])
    rw [insertRow, perform_bind_ok (perform_contents ready), Option.isNone_iff_eq_none.mp fits,
      perform_bind_ok (perform_require_none s), perform_bind_ok perform_schema, loose, Database.insert?_schema_loose]
    cases s.contents.keyTaken c.subject with
    | true => rfl
    | false => simp [replace, perform_map_eq, Except.map]

theorem insertRow_orphan (enforced : s.enforced = true) (orphan : s.contents.parentsStored c.subject = false) :
    (perform (insertRow c) s).1 ≠ .ok true := by
  by_cases ready : s.Ready
  · cases misfit : c.misfit? with
    | none => simp [perform_insertRow_fst ready (Option.isNone_iff_eq_none.mpr misfit), orphan, enforced]
    | some m => simp [perform_insertRow_misfit ready misfit]
  · obtain ⟨e, -, failed⟩ := perform_insertRow_unready ready c
    simp [failed]

end Statement
end Footprint
