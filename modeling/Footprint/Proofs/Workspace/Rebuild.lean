import Footprint.Proofs.Workspace.Call

namespace Footprint

inductive Database.Managed : Database → Prop
  | head (store : Store) : Managed ⟨true, .initial, store⟩
  | base (store : Store) : Managed ⟨false, .base, store⟩

namespace Database.Managed

variable {d after : Database}

theorem congr (managed : d.Managed) (tables : after.tables = d.tables) (version : after.version = d.version) :
    after.Managed := by
  obtain ⟨_, _, store⟩ := after
  cases managed <;> cases tables <;> cases version
  · exact .head store
  · exact .base store

theorem upgrade (managed : d.Managed) : ∃ after, d.upgrade? = some after ∧ after.Managed := by
  cases managed with
  | head store => exact ⟨_, rfl, .head store⟩
  | base store => exact ⟨_, rfl, .head .empty⟩

theorem downgrade (managed : d.Managed) : ∃ store, d.downgrade d.schema = .ok ⟨false, .base, store⟩ := by
  cases managed with
  | head store => exact ⟨.empty, downgrade_eq_ok rfl rfl⟩
  | base store => exact ⟨store, rfl⟩

end Database.Managed

namespace Session

variable {s t : Session}

/-- What a handle on a workspace can come to: by calls, by changes of the schema, by what other handles leave, and by
    being opened again. -/
inductive Reached : Session → Prop
  | made {directory after : Directory} {name : String} {database : Database} {s : Session} :
    directory.entry? (Workspace.fileName name) = none → directory.establish name = (after, .ok database) →
      connect database = .ok s → Reached s
  | opened {s t : Session} {directory after : Directory} {name : String} {database : Database} :
    Reached s → directory.entry? (Workspace.fileName name) = some (.database s.database) →
      directory.establish name = (after, .ok database) → connect database = .ok t → Reached t
  | call {s : Session} (call : Call) : Reached s → Reached (s.call call)
  | upgrade {s : Session} : Reached s → Reached (perform Action.upgrade s).2
  | downgrade {s : Session} : Reached s → Reached (perform Action.downgrade s).2
  | beside {s t : Session} : Reached s → Reached t → Reached { s with database := t.database }

theorem Reached.calls (reached : s.Reached) (calls : List Call) : (s.calls calls).Reached := by
  induction calls generalizing s with
  | nil => exact reached
  | cons first rest ih => exact ih (reached.call first)

theorem perform_requireOpen_intact (isOpen : s.isOpen = true) (isIntact : s.isIntact = true) :
    perform Action.requireOpen s = (.ok (), s) := by
  simp [Action.requireOpen, Action.perform_bare, Statement.requireOpen, perform_bind, isOpen, isIntact]

theorem perform_requireOpen_closed (closed : s.isOpen = false) :
    perform Action.requireOpen s = (.error (.statement .closed), s) := by
  simp [Action.requireOpen, Action.perform_bare, Statement.requireOpen, perform_bind, closed]

theorem perform_tableNames (isOpen : s.isOpen = true) (isIntact : s.isIntact = true) :
    perform Action.tableNames s = (.ok s.database.tableNames, s) := by
  rw [Action.tableNames, perform_bind_ok (perform_requireOpen_intact isOpen isIntact)]
  rfl

theorem perform_upgrade {database : Database} (upgraded : s.database.upgrade? = some database)
    (isOpen : s.isOpen = true) (isIntact : s.isIntact = true) :
    perform Action.upgrade s = (.ok (), { database, enforced := s.enforced }) := by
  have opened : perform Action.requireOpen s.rollback = _ := perform_requireOpen_intact isOpen isIntact
  rw [Action.upgrade, perform_bind_ok (perform_modify _ s), perform_bind_ok opened, perform_bind_ok (perform_get _)]
  simp [rollback, upgraded, isOpen, isIntact]

theorem perform_downgrade {database : Database} (enforced : s.enforced = true)
    (done : s.database.downgrade s.database.schema = .ok database) (isOpen : s.isOpen = true)
    (isIntact : s.isIntact = true) :
    perform Action.downgrade s = (.ok (), { database, enforced := true }) := by
  have opened : perform Action.requireOpen s.rollback = _ := perform_requireOpen_intact isOpen isIntact
  have rules : s.rollback.schema = s.rollback.database.schema := schema_of_enforced enforced
  rw [Action.downgrade, perform_bind_ok (perform_modify _ s), perform_bind_ok opened, perform_bind_ok (perform_get _),
    perform_bind_ok (perform_get _), rules]
  simp [rollback, done, isOpen, isIntact, enforced]

theorem perform_afterRollback_closed {α : Type} (closed : s.isOpen = false) (next : Action α) :
    (perform (do modify Session.rollback; Action.requireOpen; next) s).2 = s.rollback := by
  have refused : perform Action.requireOpen s.rollback = _ := perform_requireOpen_closed closed
  rw [perform_bind_ok (perform_modify _ s), perform_bind_error refused]

theorem Reached.managed (reached : s.Reached) : s.isIntact = true ∧ s.enforced = true ∧ s.database.Managed := by
  induction reached with
  | made missing opened connected =>
    obtain rfl := Directory.eq_of_established missing opened
    cases (connect_eq _).symm.trans connected
    exact ⟨rfl, rfl, .head .empty⟩
  | opened _ stored opened connected ih =>
    -- What the upgrade makes of the stored database is what it makes of a managed one.
    obtain ⟨-, -, -, ⟨old, found, upgraded⟩, -⟩ := Directory.establish_snd_eq_ok.mp (congrArg Prod.snd opened)
    rw [Directory.content, stored] at found
    cases found
    obtain ⟨-, -, managed⟩ := ih
    obtain ⟨after, same, managed⟩ := managed.upgrade
    cases same.symm.trans upgraded
    cases (connect_eq _).symm.trans connected
    exact ⟨rfl, rfl, managed⟩
  | @call s call _ ih =>
    obtain ⟨intact, enforced, managed⟩ := ih
    obtain ⟨enforced', tables, version, isIntact⟩ := schema_call enforced call
    exact ⟨isIntact.trans intact, enforced', managed.congr tables version⟩
  | @upgrade s _ ih =>
    cases isOpen : s.isOpen with
    | true =>
      obtain ⟨intact, enforced, managed⟩ := ih
      obtain ⟨after, upgraded, managed⟩ := managed.upgrade
      rw [perform_upgrade upgraded isOpen intact]
      exact ⟨rfl, enforced, managed⟩
    | false =>
      rw [Action.upgrade, perform_afterRollback_closed isOpen]
      exact ih
  | @downgrade s _ ih =>
    cases isOpen : s.isOpen with
    | true =>
      obtain ⟨intact, enforced, managed⟩ := ih
      obtain ⟨store, done⟩ := managed.downgrade
      rw [perform_downgrade enforced done isOpen intact]
      exact ⟨rfl, rfl, .base store⟩
    | false =>
      rw [Action.downgrade, perform_afterRollback_closed isOpen]
      exact ih
  | beside _ _ own other => exact ⟨own.1, own.2.1, other.2.2⟩

/-- From an open handle the way back is never refused. It leaves no table but the one of the version, and the way up
    leads to a workspace that cannot be told apart from one that was just made. -/
theorem downgrade_undoes_upgrade (reached : s.Reached) (isOpen : s.isOpen = true) :
    ∃ base rebuilt : Session,
      perform Action.downgrade s = (.ok (), base) ∧
      perform Action.tableNames base = (.ok ["alembic_version"], base) ∧
      perform Action.upgrade base = (.ok (), rebuilt) ∧
      ∀ (directory after : Directory) (name : String) (database : Database) (made : Session),
        directory.entry? (Workspace.fileName name) = none → directory.establish name = (after, .ok database) →
          connect database = .ok made →
          ∀ calls : List Call, rebuilt.replies calls = made.replies calls ∧ rebuilt.calls calls = made.calls calls := by
  obtain ⟨isIntact, enforced, managed⟩ := reached.managed
  obtain ⟨store, done⟩ := managed.downgrade
  have names : Database.tableNames ⟨false, .base, store⟩ = ["alembic_version"] := by simp [Database.tableNames]
  refine ⟨_, _, perform_downgrade enforced done isOpen isIntact, names ▸ perform_tableNames rfl rfl,
    perform_upgrade rfl rfl rfl, ?_⟩
  intro directory after name database made missing opened connected calls
  obtain rfl := Directory.eq_of_established missing opened
  cases (connect_eq _).symm.trans connected
  exact ⟨rfl, rfl⟩

/-- A row of every kind, and two that refer to others, do not stand in the way. -/
theorem downgrade_undoes_upgrade_of_every_kind :
    let offer (op : Operation) : Call := .event (.operation op) rfl
    let filled : List Call := [offer (.insertSubdomain (.text "www.example.com") (.text "example.com")),
      offer (.insertAddress (.text "v4") (.text "192.0.2.1")), offer (.insertLink (.int 1) (.int 1)),
      offer (.insertEmail (.text "info@example.com")),
      offer (.insert (.object [("kind", .text "url"), ("subdomain_id", .int 1), ("value", .text "https://www.example.com")]))]
    let first : Session := { database := ⟨true, .initial, .empty⟩, enforced := true }
    let full := first.calls filled
    (∀ kind, full.contents.table kind ≠ []) ∧
    ∃ base rebuilt : Session, perform Action.downgrade full = (.ok (), base) ∧
      perform Action.upgrade base = (.ok (), rebuilt) ∧ rebuilt.replies filled = first.replies filled := by
  intro offer filled first full
  have opened : (Directory.establish .missing "w").2 = .ok first.database := eq_ok_of_toOption (by decide +kernel)
  have made : first.Reached := .made (by rfl) (Prod.ext rfl opened) (connect_eq _)
  have reached : full.Reached := made.calls filled
  obtain ⟨base, rebuilt, down, -, up, alike⟩ := downgrade_undoes_upgrade reached (by decide +kernel)
  refine ⟨?_, base, rebuilt, down, up, (alike .missing _ "w" _ first rfl (Prod.ext rfl opened) rfl filled).1⟩
  intro kind
  cases kind <;> decide +kernel

end Session
end Footprint
