import Footprint.Proofs.Workspace.Desk

namespace Footprint

namespace Desk

open Session (Call)

variable {workspaceOf : String → String} {workspaces : Set String} {a b desk : Desk} {name : String} {handle : Handle}
  {database : Database}

/-- Every handle enforces references, and is on a workspace that can be opened as it is. -/
structure Tended (workspaceOf : String → String) (desk : Desk) : Prop where
  enforced : ∀ name handle, desk.handle? name = some handle → handle.enforced = true
  holds : ∀ name handle, desk.handle? name = some handle → ∃ database, desk.directory.Holds (workspaceOf name) database

namespace Tended

theorem bare (directory : Directory) : Tended workspaceOf { directory } := by
  constructor <;> nofun

theorem of_agree (tended : a.Tended workspaceOf) (agree : Agree workspaceOf workspaces a b)
    (member : workspaceOf name ∈ workspaces) (found : b.handle? name = some handle) :
    ∃ database, b.directory.Holds (workspaceOf name) database := by
  rw [← agree.handles name member] at found
  obtain ⟨database, holds⟩ := tended.holds name handle found
  exact ⟨database, holds.congr agree.directory fun file companion => ⟨_, member, companion⟩⟩

theorem enforced_session (tended : desk.Tended workspaceOf) (found : desk.handle? name = some handle) :
    (desk.session handle).enforced = true := tended.enforced name handle found

theorem holds_run (tended : desk.Tended workspaceOf) (placed : desk.Placed workspaceOf)
    (found : desk.handle? name = some handle) (call : Call) :
    ∃ database, (desk.run name call.action).2.directory.Holds (workspaceOf name) database := by
  obtain ⟨database, holds⟩ := tended.holds name handle found
  have stored := Directory.database?_eq_some.mpr holds.stored
  have place := placed.place found
  obtain ⟨-, -, version, -⟩ := Session.schema_call (tended.enforced_session found) call
  rw [session_eq stored place] at version
  rw [run_eq found, putSession, place, directory_putHandle, directory_putDatabase, stored, session_eq stored place]
  exact ⟨_, holds.put (version.trans holds.version)⟩

theorem call (tended : desk.Tended workspaceOf) (placed : desk.Placed workspaceOf) (name : String) (call : Call) :
    (desk.run name call.action).2.Tended workspaceOf := by
  cases known : desk.handle? name with
  | none =>
    rw [run_unknown known]
    exact tended
  | some old =>
    constructor
    · intro other handle found
      rw [run_eq known, putSession, handle?_putHandle, handle?_putDatabase] at found
      split at found
      · cases found
        exact (Session.schema_call (tended.enforced_session known) call).1
      · exact tended.enforced other handle found
    · intro other handle found
      -- Several handles may be on the workspace that is written.
      by_cases same : workspaceOf other = workspaceOf name
      · rw [same]
        exact tended.holds_run placed known call
      · have agree : Agree workspaceOf {workspaceOf other} desk (desk.run name call.action).2 :=
          .of_run placed (fun member => same member.symm) call.action
        exact tended.of_agree agree rfl found

theorem establish (tended : desk.Tended workspaceOf) (name : String) :
    (desk.openWorkspace name (workspaceOf name)).2.Tended workspaceOf := by
  cases opened : (desk.directory.establish (workspaceOf name)).2 with
  | error fault =>
    rw [openWorkspace_eq_error opened]
    refine ⟨tended.enforced, fun other handle found => ?_⟩
    by_cases same : workspaceOf other = workspaceOf name
    · -- A workspace with a handle on it would have been opened.
      obtain ⟨database, holds⟩ := tended.holds other handle found
      rw [← same, holds.opened] at opened
      cases opened
    · have agree : Agree workspaceOf {workspaceOf other} desk (desk.openWorkspace name (workspaceOf name)).2 :=
        .of_openWorkspace fun member => same member.symm
      rw [openWorkspace_eq_error opened] at agree
      exact tended.of_agree agree rfl found
  | ok database =>
    rw [openWorkspace_eq_ok opened]
    constructor
    · intro other handle found
      rw [handle?_putHandle] at found
      split at found
      · cases found
        rfl
      · exact tended.enforced other handle found
    · intro other handle found
      by_cases same : workspaceOf other = workspaceOf name
      · rw [directory_putHandle, same]
        exact ⟨database, .of_established opened⟩
      · have agree : Agree workspaceOf {workspaceOf other} desk (desk.openWorkspace name (workspaceOf name)).2 :=
          .of_openWorkspace fun member => same member.symm
        rw [openWorkspace_eq_ok opened] at agree
        exact tended.of_agree agree rfl found

theorem moves (tended : desk.Tended workspaceOf) (placed : desk.Placed workspaceOf) (moves : List Move) :
    (desk.moves workspaceOf moves).Tended workspaceOf := by
  induction moves generalizing desk with
  | nil => exact tended
  | cons first rest ih =>
    refine ih ?_ (placed.move first)
    cases first with
    | establish name => exact tended.establish name
    | call name call => exact tended.call placed name call

end Tended

theorem agree_putHandle_putHandle (workspaceOf : String → String) (desk : Desk) (name : String) (old new : Handle) :
    Agree workspaceOf Set.univ (desk.putHandle name new) ((desk.putHandle name old).putHandle name new) where
  directory := by
    simp only [directory_putHandle]
    exact .refl _ _
  handles := by
    intro other _
    simp only [handle?_putHandle]
    split <;> rfl

theorem agree_run {α : Type} {action : Action α} {after : Session} (placed : desk.Placed workspaceOf)
    (found : desk.handle? name = some handle) (holds : desk.directory.Holds (workspaceOf name) database)
    (left : (perform action (desk.session handle)).2 = after) (same : after.database = database) :
    Agree workspaceOf Set.univ
      (desk.putHandle name { handle with
        pending := after.pending, seen := after.seen, isOpen := after.isOpen, enforced := after.enforced })
      (desk.run name action).2 := by
  rw [run_eq found, left, putSession, same]
  refine Agree.putHandle ⟨?_, fun other _ => (handle?_putDatabase desk _ _ other).symm⟩ name _
  rw [placed.place found, directory_putDatabase]
  split
  · exact (Directory.Agree.put_stored holds.stored).mono (Set.subset_univ _)
  · exact .refl _ _

def reopening (name : String) : List Move := [.call name .close, .establish name]

theorem reopening_agrees (tended : desk.Tended workspaceOf) (placed : desk.Placed workspaceOf)
    (found : desk.handle? name = some handle) :
    desk.responses workspaceOf (reopening name) =
      [.answered (some (.ok (.answer none))), .opened (.ok (workspaceOf name))] ∧
    Agree workspaceOf Set.univ (desk.putHandle name (fresh workspaceOf name))
      (desk.moves workspaceOf (reopening name)) := by
  obtain ⟨database, holds⟩ := tended.holds name handle found
  have stored := Directory.database?_eq_some.mpr holds.stored
  have place := placed.place found
  let last : Handle := { handle with pending := none, seen := {}, isOpen := false }
  let closed := (desk.run name Call.close.action).2
  have left : (perform Call.close.action (desk.session handle)).2 = (desk.session handle).close := rfl
  have ended : Agree workspaceOf Set.univ (desk.putHandle name last) closed :=
    agree_run placed found holds left (congrArg Session.database (session_eq stored place))
  have directory : Directory.Agree (files Set.univ) desk.directory closed.directory := by
    have same := ended.directory
    rwa [directory_putHandle] at same
  have again : closed.directory.Holds (workspaceOf name) database :=
    holds.congr directory fun file companion => ⟨_, Set.mem_univ _, companion⟩
  have made : closed.openWorkspace name (workspaceOf name) = _ := openWorkspace_eq_ok again.opened
  constructor
  · have answered : (desk.run name Call.close.action).1 = some (.ok (.answer none)) := by
      rw [run_eq found]
      rfl
    have opened : (closed.openWorkspace name (workspaceOf name)).1 = .ok (workspaceOf name) := congrArg Prod.fst made
    rw [← answered, ← opened]
    rfl
  · show Agree workspaceOf Set.univ _ (closed.openWorkspace name (workspaceOf name)).2
    rw [made]
    have opened : Agree workspaceOf Set.univ closed
        { closed with directory := (closed.directory.establish (workspaceOf name)).1 } :=
      ⟨again.agree_establish.mono (Set.subset_univ _), fun _ _ => rfl⟩
    have replaced := agree_putHandle_putHandle workspaceOf desk name last (fresh workspaceOf name)
    exact (replaced.trans (ended.putHandle name _)).trans (opened.putHandle name _)

theorem reopenings_agree (tended : desk.Tended workspaceOf) (placed : desk.Placed workspaceOf)
    (found : desk.handle? name = some handle) (times : Nat) :
    desk.responses workspaceOf (List.replicate (times + 1) (reopening name)).flatten =
      (List.replicate (times + 1) [.answered (some (.ok (.answer none))), .opened (.ok (workspaceOf name))]).flatten ∧
    Agree workspaceOf Set.univ (desk.putHandle name (fresh workspaceOf name))
      (desk.moves workspaceOf (List.replicate (times + 1) (reopening name)).flatten) := by
  obtain ⟨answered, agree⟩ := reopening_agrees tended placed found
  induction times generalizing desk handle with
  | zero => exact ⟨answered, agree⟩
  | succ times ih =>
    -- The next round starts from the handle that this one has opened.
    have tended' := tended.moves placed (reopening name)
    have placed' := placed.moves (reopening name)
    have found' : (desk.moves workspaceOf (reopening name)).handle? name = some (fresh workspaceOf name) := by
      rw [← agree.handles name trivial, handle?_putHandle_self]
    obtain ⟨answered', agree'⟩ := reopening_agrees tended' placed' found'
    obtain ⟨rest, last⟩ := ih tended' placed' found' answered' agree'
    rw [List.replicate_succ, List.flatten_cons, responses_append, moves_append, List.replicate_succ (a := [_, _]),
      List.flatten_cons, answered, rest]
    have same := agree_putHandle_putHandle workspaceOf desk name (fresh workspaceOf name)
      (fresh workspaceOf name)
    exact ⟨rfl, (same.trans (agree.putHandle name _)).trans last⟩

theorem rollback_agrees (tended : desk.Tended workspaceOf) (placed : desk.Placed workspaceOf)
    (found : desk.handle? name = some handle) (isOpen : handle.isOpen = true) :
    Agree workspaceOf Set.univ (desk.putHandle name (fresh workspaceOf name))
      (desk.moves workspaceOf [.call name (.event .rollback rfl)]) := by
  obtain ⟨database, holds⟩ := tended.holds name handle found
  have stored := Directory.database?_eq_some.mpr holds.stored
  have left : (perform (Call.event .rollback rfl).action (desk.session handle)).2 = (desk.session handle).rollback := rfl
  have undone := agree_run placed found holds left (congrArg Session.database (session_eq stored (placed.place found)))
  obtain ⟨pending, seen, _, _, rfl⟩ := placed name handle found
  obtain rfl : _ = true := isOpen
  obtain rfl : _ = true := tended.enforced name _ found
  exact undone

/-- A closed workspace opens again, as often as one likes, with the tables that were committed and nothing that was
    not. All later answers are those that the old handle would give after a rollback. -/
theorem reopened_answers_as_undone (workspaceOf : String → String) (directory : Directory) (moves : List Move) (times : Nat)
    (found : (Desk.moves workspaceOf { directory } moves).handle? name = some handle) (isOpen : handle.isOpen = true) :
    let desk := Desk.moves workspaceOf { directory } moves
    let again := (List.replicate (times + 1) (reopening name)).flatten
    let reopened := desk.moves workspaceOf again
    let undone := desk.moves workspaceOf [.call name (.event .rollback rfl)]
    desk.responses workspaceOf again =
      (List.replicate (times + 1) [.answered (some (.ok (.answer none))), .opened (.ok (workspaceOf name))]).flatten ∧
    (∀ later, reopened.responses workspaceOf later = undone.responses workspaceOf later) ∧
    ∃ database new,
      desk.directory.database? (Workspace.fileName (workspaceOf name)) = some database ∧
      database.schema = .migrated ∧
      reopened.directory.database? (Workspace.fileName (workspaceOf name)) = some database ∧
      reopened.handle? name = some new ∧ Session.connect database = .ok (reopened.session new) ∧
      ∀ (calls : List Call) (c : Candidate),
        let later := (reopened.session new).calls calls
        later.enforced = true ∧
          (later.contents.parentsStored c.subject = false → (perform (Statement.insertRow c) later).1 ≠ .ok true) := by
  intro desk again reopened undone
  have placed : desk.Placed workspaceOf := (Placed.bare directory).moves moves
  have tended : desk.Tended workspaceOf := (Tended.bare directory).moves (Placed.bare directory) moves
  obtain ⟨database, holds⟩ := tended.holds name handle found
  have stored := Directory.database?_eq_some.mpr holds.stored
  obtain ⟨answered, agree⟩ := reopenings_agree tended placed found times
  have known : reopened.handle? name = some (fresh workspaceOf name) := by
    rw [← agree.handles name trivial, handle?_putHandle_self]
  have kept : reopened.directory.database? (Workspace.fileName (workspaceOf name)) = some database := by
    rw [← agree.directory.database? (fileName_mem_files.mpr trivial), directory_putHandle, stored]
  have session : reopened.session (fresh workspaceOf name) = { database, enforced := true } := session_eq kept rfl
  refine ⟨answered, ?_, database, fresh workspaceOf name, stored, if_pos holds.version, kept, known, ?_, ?_⟩
  · intro later
    have alike := agree.symm.trans (rollback_agrees tended placed found isOpen)
    exact (alike.responses (placed.moves again) fun _ _ => trivial).1
  · rw [session, Session.connect_eq]
  · intro calls c later
    have enforced : later.enforced = true := Session.enforced_calls (congrArg Session.enforced session) calls
    exact ⟨enforced, Statement.insertRow_orphan enforced⟩

/-- A deletion that is pending when the handle is closed did not happen. -/
theorem reopened_without_pending_deletion :
    let workspaceOf : String → String := fun _ => "w"
    let desk := Desk.moves workspaceOf {} [.establish "h",
      .call "h" (.event (.operation (.insertDomain (.text "example.com"))) rfl),
      .call "h" (.event (.deletePending .domain (.ofText "value = 'example.com'")) rfl)]
    let subjects (desk : Desk) : Option (List Subject) :=
      (desk.handle? "h").map fun handle => (desk.session handle).contents.rows.map Row.subject
    let reopened := desk.moves workspaceOf [.call "h" .close, .establish "h", .call "h" .close, .establish "h"]
    subjects desk = some [] ∧ subjects reopened = some [.domain "example.com"] := by
  intro workspaceOf desk subjects reopened
  have found : ∃ handle, desk.handle? "h" = some handle ∧ handle.isOpen = true :=
    ⟨(desk.handle? "h").get (by decide +kernel), Option.eq_some_of_isSome _, by decide +kernel⟩
  obtain ⟨handle, found, isOpen⟩ := found
  obtain ⟨-, -, database, new, stored, -, -, known, connected, -⟩ :=
    reopened_answers_as_undone workspaceOf .missing _ 1 found isOpen
  have rows : (desk.directory.database? "w.db").map (fun d => d.store.rows.map Row.subject) =
      some [.domain "example.com"] := by decide +kernel
  refine ⟨by decide +kernel, ?_⟩
  have both : subjects reopened = some (database.store.rows.map Row.subject) := by
    show Option.map _ (reopened.handle? "h") = _
    rw [show reopened.handle? "h" = some new from known, Option.map_some,
      show reopened.session new = { database, enforced := true } from (Except.ok.inj connected).symm]
    rfl
  rw [both, ← rows, show desk.directory.database? "w.db" = some database from stored, Option.map_some]

end Desk
end Footprint
