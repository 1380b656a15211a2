import Footprint.Proofs.Session.Congruence
import Footprint.Proofs.Workspace.Reachable

namespace Footprint

/-- A property of tables that every single change keeps. -/
structure Store.Invariant (P : Store → Prop) : Prop where
  empty : P .empty
  writes {store new : Store} : P store → store.Writes new → P new

namespace Session

variable {s t : Session} {P : Store → Prop}

structure Within (P : Store → Prop) (s : Session) : Prop where
  committed : P s.database.store
  contents : P s.contents

namespace Within

theorem of_settled (settled : s.pending = none) (committed : P s.database.store) : s.Within P :=
  ⟨committed, contents_of_settled settled ▸ committed⟩

theorem rollback (within : s.Within P) : s.rollback.Within P := .of_settled rfl within.committed

theorem rebuilds (invariant : Store.Invariant P) (within : s.Within P) (rebuilt : s.Rebuilds t) : t.Within P := by
  refine .of_settled rebuilt.settled ?_
  rcases rebuilt.store with kept | emptied
  · exact kept ▸ within.committed
  · exact emptied ▸ invariant.empty

theorem beside (within : s.Within P) (other : t.Within P) : Session.Within P { s with database := t.database } := by
  refine ⟨other.committed, ?_⟩
  rcases contents_beside s t.database with same | same
  · exact same ▸ within.contents
  · exact same ▸ other.committed

theorem congruence (invariant : Store.Invariant P) :
    Congruence fun s t => s = t ∧ s.enforced = true ∧ s.Within P where
  enforced := by
    rintro s _ ⟨rfl, enforced, -⟩
    exact ⟨enforced, enforced⟩
  contents := by
    rintro s _ ⟨rfl, -⟩
    rfl
  seen := by
    rintro s _ change ⟨rfl, enforced, within⟩
    exact ⟨rfl, enforced, within.committed, within.contents⟩
  write := by
    rintro s _ new written ⟨rfl, enforced, within⟩
    exact ⟨rfl, enforced, within.committed, invariant.writes within.contents written⟩
  commit := by
    rintro s _ ⟨rfl, enforced, within⟩
    exact ⟨rfl, enforced, within.contents, within.contents⟩
  rollback := by
    rintro s _ ⟨rfl, enforced, within⟩
    exact ⟨rfl, enforced, within.rollback⟩

theorem respected {ε α : Type} {x : ExceptT ε (StateM Session) α}
    (respects : Respects (fun s t => s = t ∧ s.enforced = true ∧ s.Within P) x) (sound : s.Sound)
    (within : s.Within P) : (perform x s).2.Within P :=
  (respects s s ⟨rfl, sound.enforced, within⟩).2.2.2

end Within

theorem Reachable.within (invariant : Store.Invariant P) (reached : s.Reachable) : s.Within P := by
  have congruent := Within.congruence invariant
  induction reached with
  | fresh fresh =>
    refine .of_settled fresh.settled ?_
    rw [← contents_of_settled fresh.settled, fresh.contents]
    exact invariant.empty
  | operation op reached ih => exact .respected (congruent.respects_action op) reached.sound ih
  | getById kind id reached ih => exact .respected (congruent.respects_getById? kind id) reached.sound ih
  | scopePending kind f unscoped reached ih =>
    exact .respected (congruent.respects_scopePending kind f unscoped) reached.sound ih
  | deletePending kind f reached ih => exact .respected (congruent.respects_deletePending kind f) reached.sound ih
  | commit _ ih => exact ⟨ih.contents, ih.contents⟩
  | rollback _ ih => exact ih.rollback
  | upgrade _ ih => exact ih.rebuilds invariant (rebuilds_upgrade _)
  | downgrade reached ih => exact ih.rebuilds invariant (rebuilds_downgrade reached.sound.enforced)
  | close _ ih => exact .of_settled rfl ih.committed
  | beside _ _ ih ih' => exact ih.beside ih'

end Session
end Footprint
