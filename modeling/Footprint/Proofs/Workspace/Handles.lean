import Footprint.Proofs.Filter.Selection
import Footprint.Proofs.Workspace.History
import Footprint.Proofs.Workspace.Reached
import Footprint.Proofs.Workspace.Transaction

namespace Footprint

theorem Action.perform_list {s : Session} (ready : s.Ready) (formed : s.contents.WellFormed) (kind : Kind) :
    (perform (list kind) s).1 = .ok (s.contents.table kind) := by
  have found : perform (Statement.listRows kind) s = perform (Statement.fetch (s.contents.table kind)) s := by
    rw [Statement.listRows, perform_bind_ok (Statement.perform_contents ready)]
  have stored {row : Row} (member : row ∈ s.contents.table kind) : row ∈ s.contents.rows := (Store.mem_table.mp member).1
  rw [list, guarded_ok found]
  change Except.ok ((s.seen.refresh _).cached _) = _
  rw [RowCache.cached_refresh, RowCache.cached_self]
  intro row member other member'
  exact formed.eq_of_id (stored member) (stored member')

namespace Session

variable {s t : Session}

theorem Handles.eq_of_settled {commits failed : Bool} (handles : s.Handles commits failed t)
    (settled : s.pending = none) : ∃ store cache, t = { s with database := { s.database with store }, seen := cache } := by
  cases handles with
  | kept alike =>
    obtain ⟨cache, rfl⟩ := alike
    exact ⟨s.database.store, cache, rfl⟩
  | undone _ alike =>
    obtain ⟨cache, rfl⟩ := alike
    exact ⟨s.database.store, cache, by simp [Session.rollback, settled]⟩
  | committed tables alike =>
    obtain ⟨cache, rfl⟩ := alike
    exact ⟨tables, cache, by simp [Session.put, settled]⟩

end Session

namespace Desk

variable {desk : Desk} {file name other : String} {handle : Handle} {s : Session} {database : Database}

abbrev Tasks := List (String × Operation)

def operate (desk : Desk) (tasks : Tasks) : Desk := tasks.foldl (fun desk (name, op) => (desk.run name op.action).2) desk

def answers (desk : Desk) : Tasks → List (Option (Except Fault Answer))
  | [] => []
  | (name, op) :: rest => (desk.run name op.action).1 :: (desk.run name op.action).2.answers rest

/-- An open handle on the file, with nothing pending. -/
def Settled (desk : Desk) (file name : String) : Prop :=
  ∃ handle, desk.handle? name = some handle ∧ handle.place = .file file ∧ handle.isOpen = true ∧ handle.pending = none

/-- A session that sees what the handles on the file see, with rows of its own read before. -/
structure Mirrors (desk : Desk) (file : String) (s : Session) : Prop where
  enforced : ∀ name handle, desk.handle? name = some handle → handle.enforced = true
  stored : desk.directory.database? file = some s.database
  settled : s.pending = none
  isOpen : s.isOpen = true
  isIntact : s.isIntact = true
  sound : s.Sound

namespace Mirrors

theorem alike (mirrors : desk.Mirrors file s) (found : desk.handle? name = some handle)
    (place : handle.place = .file file) (isOpen : handle.isOpen = true) (settled : handle.pending = none) :
    s.Alike (desk.session handle) := by
  have database : desk.database? handle.place = some s.database := by
    rw [place]
    exact mirrors.stored
  refine ⟨handle.seen, ?_⟩
  unfold Desk.session
  rw [database, settled, isOpen, mirrors.enforced name handle found]
  obtain ⟨-, -, idle, opened, intact, ⟨-, -, enforced⟩⟩ := mirrors
  cases s
  cases idle
  cases opened
  cases intact
  cases enforced
  rfl

theorem step (mirrors : desk.Mirrors file s) (settled : desk.Settled file name) (op : Operation) :
    (desk.run name op.action).1 = some (perform op.action s).1 ∧
    (desk.run name op.action).2.Mirrors file (s.step op) ∧
    ∀ other, desk.Settled file other → (desk.run name op.action).2.Settled file other := by
  obtain ⟨handle, found, place, isOpen, idle⟩ := settled
  obtain ⟨same, alike⟩ := Session.Alike.congruence.respects_action op _ _
    ⟨mirrors.alike found place isOpen idle, mirrors.sound.enforced⟩
  -- Of the session only the tables and the rows read before are new, and the other handles see the tables.
  obtain ⟨store, cache, left⟩ := (op.handles mirrors.sound).eq_of_settled mirrors.settled
  obtain ⟨⟨cache', left'⟩, -⟩ := alike
  rw [left] at left'
  rw [run_eq found, putSession, left', place]
  refine ⟨congrArg some same.symm, ?_, ?_⟩
  · have next : s.step op = { s with database := { s.database with store }, seen := cache } := left
    have sound := (op.steps mirrors.sound).sound
    refine ⟨?_, ?_, by rw [next]; exact mirrors.settled, by rw [next]; exact mirrors.isOpen,
      by rw [next]; exact mirrors.isIntact, sound⟩
    · intro other old known
      rw [handle?_putHandle, handle?_putDatabase] at known
      split at known
      · cases known
        exact mirrors.sound.enforced
      · exact mirrors.enforced other old known
    rw [directory_putHandle, directory_putDatabase, mirrors.stored, next]
    exact Directory.database?_eq_some.mpr (Directory.entry?_put_self _ _ _)
  · rintro other ⟨old, known, there, stillOpen, nothing⟩
    unfold Settled
    rw [handle?_putHandle, handle?_putDatabase]
    split
    · exact ⟨_, rfl, rfl, mirrors.isOpen, mirrors.settled⟩
    · exact ⟨old, known, there, stillOpen, nothing⟩

theorem run (mirrors : desk.Mirrors file s) {tasks : Tasks} (settled : ∀ task ∈ tasks, desk.Settled file task.1) :
    desk.answers tasks = (s.history (tasks.map Prod.snd)).map (fun event => some event.answer) ∧
    (desk.operate tasks).Mirrors file (s.run (tasks.map Prod.snd)) ∧
    ∀ other, desk.Settled file other → (desk.operate tasks).Settled file other := by
  induction tasks generalizing desk s with
  | nil => exact ⟨rfl, mirrors, fun _ => id⟩
  | cons first rest ih =>
    obtain ⟨name, op⟩ := first
    obtain ⟨own, others⟩ := List.forall_mem_cons.mp settled
    obtain ⟨answer, mirrors', keeps⟩ := mirrors.step own op
    obtain ⟨answers, mirrors'', keeps'⟩ := ih mirrors' fun task member => keeps _ (others task member)
    refine ⟨?_, mirrors'', fun other => keeps' other ∘ keeps other⟩
    rw [Desk.answers, answer, answers]
    rfl

end Mirrors

/-- Operations through any handles that are open on one workspace, with nothing pending, are answered and end as they
    would through a single one, be it another of the handles or one that was just opened. No handle answers from the
    rows that it has read before: what it answers next is what a session answers that has read nothing, and the rows
    that it lists are those of the tables. -/
theorem handles_answer_as_one (reached : desk.Reached) (stored : desk.directory.database? file = some database)
    {tasks : Tasks} (settled : ∀ task ∈ tasks, desk.Settled file task.1) :
    let ops := tasks.map Prod.snd
    let alone : Session := { database, enforced := true }
    let after := desk.operate tasks
    desk.answers tasks = (alone.history ops).map (fun event => some event.answer) ∧
    after.directory.database? file = some (alone.run ops).database ∧
    ∀ name, desk.Settled file name →
      desk.answers (ops.map fun op => (name, op)) = desk.answers tasks ∧
      (desk.operate (ops.map fun op => (name, op))).directory.database? file = after.directory.database? file ∧
      ∃ handle, after.handle? name = some handle ∧ after.Settled file name ∧
        let s := after.session handle
        let unread : Session := { database := (alone.run ops).database, enforced := true }
        s.contents = (alone.run ops).contents ∧
        (∀ op : Operation, (perform op.action s).1 = (perform op.action unread).1) ∧
        (∀ kind id, (perform (Action.getById? kind id) s).1 = (perform (Action.getById? kind id) unread).1) ∧
        ((alone.run ops).database.tables = true → ∀ kind,
          (perform (Action.list kind) s).1 = .ok ((alone.run ops).contents.table kind)) := by
  intro ops alone after
  have formed := reached.orderly.directory file database (Directory.database?_eq_some.mp stored)
  have enforced (name : String) (handle : Handle) (found : desk.handle? name = some handle) :
      handle.enforced = true := (reached.orderly.handles name handle found).enforced
  have mirrors : desk.Mirrors file alone := ⟨enforced, stored, rfl, rfl, rfl, .of_settled rfl rfl formed.formed⟩
  obtain ⟨answers, mirrors', keeps⟩ := mirrors.run settled
  refine ⟨answers, mirrors'.stored, fun name own => ?_⟩
  have through : ∀ task ∈ ops.map fun op => (name, op), desk.Settled file task.1 := by
    intro task member
    obtain ⟨op, -, rfl⟩ := List.mem_map.mp member
    exact own
  have same : (ops.map fun op => (name, op)).map Prod.snd = ops := by
    rw [List.map_map]
    exact List.map_id _
  obtain ⟨answers', mirrors'', -⟩ := mirrors.run through
  rw [same] at answers' mirrors''
  refine ⟨answers'.trans answers.symm, mirrors''.stored.trans mirrors'.stored.symm, ?_⟩
  obtain ⟨handle, found, place, isOpen, idle⟩ := keeps name own
  have alike := mirrors'.alike found place isOpen idle
  have unread : after.Mirrors file { database := (alone.run ops).database, enforced := true } :=
    ⟨mirrors'.enforced, mirrors'.stored, rfl, rfl, rfl, .of_settled rfl rfl mirrors'.sound.committed⟩
  have unread := unread.alike found place isOpen idle
  refine ⟨handle, found, keeps name own, alike.contents_eq, fun op => ?_, fun kind id => ?_, fun tables kind => ?_⟩
  · exact (Session.Alike.congruence.respects_action op _ _ ⟨unread, rfl⟩).1.symm
  · exact (Session.Alike.congruence.respects_getById? kind id _ _ ⟨unread, rfl⟩).1.symm
  · have ready : (after.session handle).Ready := by
      obtain ⟨cache, same⟩ := unread
      rw [same]
      exact ⟨rfl, rfl, tables⟩
    rw [Action.perform_list ready (alike.contents_eq ▸ mirrors'.sound.contents), alike.contents_eq]

/-- A handle that keeps a row from before another one took it out of scope lists the row as it is now. -/
theorem handles_answer_as_one_after_noscope :
    let desk := ((Desk.openWorkspace {} "h" "w").2.openWorkspace "k" "w").2
    let tasks : Tasks := [("h", .insertDomain (.text "example.com")), ("h", .list .domain),
      ("k", .noscope .domain ⟨.everything, .basic⟩)]
    ∃ handle, (desk.operate tasks).handle? "h" = some handle ∧
      handle.seen.find? .domain 1 = some ⟨1, .domain "example.com", [], false⟩ ∧
      (perform (Action.list .domain) ((desk.operate tasks).session handle)).1 =
        .ok [⟨1, .domain "example.com", [], true⟩] := by
  intro desk tasks
  have start : Reached {} := .bare nofun
  have reached : desk.Reached := (start.establish "h" "w").establish "k" "w"
  let database : Database := ⟨true, .initial, .empty⟩
  have stored : desk.directory.database? "w.db" = some database := by decide +kernel
  have first : desk.Settled "w.db" "h" := ⟨(desk.handle? "h").get (by decide +kernel), Option.eq_some_of_isSome _,
    by decide +kernel, by decide +kernel, by decide +kernel⟩
  have second : desk.Settled "w.db" "k" := ⟨(desk.handle? "k").get (by decide +kernel), Option.eq_some_of_isSome _,
    by decide +kernel, by decide +kernel, by decide +kernel⟩
  have settled : ∀ task ∈ tasks, desk.Settled "w.db" task.1 := by
    simp [tasks, first, second]
  obtain ⟨-, left, each⟩ := handles_answer_as_one reached stored settled
  obtain ⟨-, -, handle, found, -, -, -, -, lists⟩ := each "h" first
  have read : ((desk.operate tasks).handle? "h").bind (fun handle => handle.seen.find? .domain 1) =
      some ⟨1, .domain "example.com", [], false⟩ := by decide +kernel
  rw [found] at read
  refine ⟨handle, found, read, (lists (by decide +kernel) .domain).trans (congrArg Except.ok ?_)⟩
  decide +kernel

end Desk
end Footprint
