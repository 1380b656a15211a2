import Footprint.Proofs.Session.Congruence
import Footprint.Proofs.Workspace.Reachable

namespace Footprint
namespace Session

variable {s t : Session}

inductive Event
  | operation (op : Operation)
  | unsupported (attempt : Attempt) (value : Data)
  | getById (kind : Kind) (id : Data)
  | scopePending (kind : Kind) (f : Search) (unscoped : Bool)
  | deletePending (kind : Kind) (f : Search)
  | commit
  | rollback
  | upgrade
  | downgrade
  | close
  | beside (database : Database)

def Event.action : Event → Action (Option Answer)
  | operation op => some <$> op.action
  | unsupported attempt value => Action.unsupported attempt value
  | getById kind id => (fun row => some (.row row)) <$> Action.getById? kind id
  | scopePending kind f unscoped => (fun n => some (.count n)) <$> Action.scopePending kind f unscoped
  | deletePending kind f => (fun n => some (.count n)) <$> Action.deletePending kind f
  | commit => (fun _ => none) <$> Action.commit
  | rollback => (fun _ => none) <$> Action.rollback
  | upgrade => (fun _ => none) <$> Action.upgrade
  | downgrade => (fun _ => none) <$> Action.downgrade
  | close => (fun _ => none) <$> Desk.close
  | beside database => (fun _ => none) <$> (modify fun s => { s with database } : Action PUnit)

def answers (s : Session) : List Event → List (Except Fault (Option Answer))
  | [] => []
  | event :: rest => (perform event.action s).1 :: answers (perform event.action s).2 rest

def through (s : Session) (events : List Event) : Session := events.foldl (fun s event => (perform event.action s).2) s

/-- At most the rows read before differ. -/
def Alike (s t : Session) : Prop := ∃ cache, t = { s with seen := cache }

theorem Alike.congruence : Congruence fun s t => s.Alike t ∧ s.enforced = true where
  enforced := by
    rintro s _ ⟨⟨cache, rfl⟩, enforced⟩
    exact ⟨enforced, enforced⟩
  contents := by
    rintro s _ ⟨⟨cache, rfl⟩, -⟩
    rw [Statement.perform_contents_fst, Statement.perform_contents_fst]
    rfl
  seen := by
    rintro s _ change ⟨⟨cache, rfl⟩, enforced⟩
    exact ⟨⟨_, rfl⟩, enforced⟩
  write := by
    rintro s _ new - ⟨⟨cache, rfl⟩, enforced⟩
    exact ⟨⟨cache, rfl⟩, enforced⟩
  commit := by
    rintro s _ ⟨⟨cache, rfl⟩, enforced⟩
    exact ⟨⟨cache, rfl⟩, enforced⟩
  rollback := by
    rintro s _ ⟨⟨cache, rfl⟩, enforced⟩
    exact ⟨⟨{}, rfl⟩, enforced⟩

theorem Alike.contents_eq (alike : s.Alike t) : t.contents = s.contents := by
  obtain ⟨cache, rfl⟩ := alike
  rfl

theorem Alike.database_eq (alike : s.Alike t) : t.database = s.database := by
  obtain ⟨cache, rfl⟩ := alike
  rfl

theorem Alike.respects_afterRollback {α : Type} {next : Action α}
    (keeps : ∀ {s : Session}, s.enforced = true →
      (perform (do modify Session.rollback; next) s).2.enforced = true) :
    Respects (fun s t => s.Alike t ∧ s.enforced = true) (do modify Session.rollback; next) := by
  rintro s _ ⟨⟨cache, rfl⟩, enforced⟩
  have kept := keeps enforced
  rw [perform_bind_ok (perform_modify Session.rollback s)] at kept ⊢
  rw [perform_bind_ok (perform_modify Session.rollback _)]
  exact ⟨rfl, ⟨_, rfl⟩, kept⟩

theorem Alike.respects_event (event : Event) :
    Respects (fun s t => s.Alike t ∧ s.enforced = true) event.action := by
  cases event with
  | operation op => exact .map _ (congruence.respects_action op)
  | unsupported attempt value => exact .throw _
  | getById kind id => exact .map _ (congruence.respects_getById? kind id)
  | scopePending kind f unscoped => exact .map _ (congruence.respects_scopePending kind f unscoped)
  | deletePending kind f => exact .map _ (congruence.respects_deletePending kind f)
  | commit => exact .map _ (.modify congruence.commit)
  | rollback => exact .map _ (.modify congruence.rollback)
  | upgrade => exact .map _ (respects_afterRollback fun enforced => (rebuilds_upgrade _).enforced.trans enforced)
  | downgrade =>
    exact .map _ (respects_afterRollback fun enforced => (rebuilds_downgrade enforced).enforced.trans enforced)
  | close =>
    refine .map _ (.modify ?_)
    rintro s _ ⟨⟨cache, rfl⟩, enforced⟩
    exact ⟨⟨{}, rfl⟩, enforced⟩
  | beside database =>
    refine .map _ (.modify ?_)
    rintro s _ ⟨⟨cache, rfl⟩, enforced⟩
    exact ⟨⟨cache, rfl⟩, enforced⟩

theorem Alike.through (alike : s.Alike t) (enforced : s.enforced = true) (events : List Event) :
    t.answers events = s.answers events ∧ (s.through events).Alike (t.through events) := by
  induction events generalizing s t with
  | nil => exact ⟨rfl, alike⟩
  | cons event rest ih =>
    obtain ⟨same, alike', enforced'⟩ := respects_event event s t ⟨alike, enforced⟩
    obtain ⟨same', alike''⟩ := ih alike' enforced'
    refine ⟨?_, alike''⟩
    rw [answers, answers, same]
    exact congrArg _ same'

end Session
end Footprint
