import Footprint.Proofs.Workspace.Call

namespace Footprint
namespace Desk

open Session (Call)

/-- What is done at a desk. Every handle is for one workspace. -/
inductive Move
  | establish (handle : String)
  | call (handle : String) (call : Call)

inductive Response
  | opened (result : Except Fault String)
  | answered (result : Option (Except Fault Reply))

def Move.handle : Move → String
  | establish handle => handle
  | call handle _ => handle

section Lookups

variable {desk : Desk} {name other : String} {handle : Handle} {place : Place} {database : Database}

theorem handle?_putHandle (desk : Desk) (name : String) (handle : Handle) (other : String) :
    (desk.putHandle name handle).handle? other = if other = name then some handle else desk.handle? other := by
  unfold putHandle
  split
  case isTrue known =>
    have replaced := lookup_map_snd desk.handles (fun other old => if other = name then handle else old) other
    refine Eq.trans replaced ?_
    split
    case isTrue same =>
      obtain ⟨old, found⟩ := Option.isSome_iff_exists.mp known
      rw [same, show desk.handles.lookup name = some old from found, Option.map_some]
    case isFalse => exact Option.map_id'
  case isFalse unknown =>
    have absent : desk.handles.lookup name = none := Option.not_isSome_iff_eq_none.mp unknown
    refine Eq.trans List.lookup_append ?_
    by_cases same : other = name
    · simp [same, absent]
    · simp [same, List.lookup_cons, beq_eq_false_iff_ne.mpr same, handle?]

theorem handle?_putHandle_self (desk : Desk) (name : String) (handle : Handle) :
    (desk.putHandle name handle).handle? name = some handle := by
  rw [handle?_putHandle, if_pos rfl]

theorem handle?_putHandle_of_ne (different : other ≠ name) :
    (desk.putHandle name handle).handle? other = desk.handle? other := by
  rw [handle?_putHandle, if_neg different]

@[simp] theorem directory_putHandle (desk : Desk) (name : String) (handle : Handle) :
    (desk.putHandle name handle).directory = desk.directory := by
  unfold putHandle
  split <;> rfl

theorem directory_putDatabase (desk : Desk) (file : String) (database : Database) :
    (desk.putDatabase (.file file) database).directory =
      if (desk.directory.database? file).isSome then desk.directory.put file (.database database) else desk.directory := by
  unfold putDatabase
  exact apply_ite Desk.directory _ _ _

@[simp] theorem handle?_putDatabase (desk : Desk) (place : Place) (database : Database) (name : String) :
    (desk.putDatabase place database).handle? name = desk.handle? name := by
  unfold putDatabase
  split
  · rfl
  · split <;> rfl

theorem run_eq {α : Type} (found : desk.handle? name = some handle) (action : Action α) :
    desk.run name action = (some (perform action (desk.session handle)).1,
      desk.putSession name handle (perform action (desk.session handle)).2) := by
  unfold run
  rw [found]
  rfl

theorem run_unknown {α : Type} (unknown : desk.handle? name = none) (action : Action α) :
    desk.run name action = (none, desk) := by
  unfold run
  rw [unknown]

theorem session_eq {file : String} (stored : desk.directory.database? file = some database)
    (place : handle.place = .file file) :
    desk.session handle = ⟨database, handle.pending, handle.seen, handle.isOpen, true, handle.enforced⟩ := by
  have same : desk.database? handle.place = some database := by
    rw [place]
    exact stored
  unfold session
  rw [same]
  rfl

end Lookups

section Runs

variable (workspaceOf : String → String)

def move (desk : Desk) : Move → Response × Desk
  | .establish handle =>
    let (result, desk) := desk.openWorkspace handle (workspaceOf handle)
    (.opened result, desk)
  | .call handle call =>
    let (result, desk) := desk.run handle call.action
    (.answered result, desk)

def moves (desk : Desk) (moves : List Move) : Desk := moves.foldl (fun desk move => (desk.move workspaceOf move).2) desk

def responses (desk : Desk) : List Move → List Response
  | [] => []
  | move :: rest => (desk.move workspaceOf move).1 :: (desk.move workspaceOf move).2.responses rest

theorem moves_append (desk : Desk) (first later : List Move) :
    desk.moves workspaceOf (first ++ later) = (desk.moves workspaceOf first).moves workspaceOf later :=
  List.foldl_append

theorem responses_append (desk : Desk) (first later : List Move) :
    desk.responses workspaceOf (first ++ later) =
      desk.responses workspaceOf first ++ (desk.moves workspaceOf first).responses workspaceOf later := by
  induction first generalizing desk with
  | nil => rfl
  | cons move rest ih => exact congrArg _ (ih _)

def fresh (name : String) : Handle where
  name := workspaceOf name
  place := .file (Workspace.fileName (workspaceOf name))
  enforced := true

def Placed (desk : Desk) : Prop :=
  ∀ name handle, desk.handle? name = some handle →
    ∃ pending seen isOpen enforced, handle = { fresh workspaceOf name with pending, seen, isOpen, enforced }

def files (workspaces : Set String) : Set String :=
  {file | ∃ w ∈ workspaces, file ∈ Workspace.companions (Workspace.fileName w)}

theorem fileName_mem_files {workspaces : Set String} {w : String} :
    Workspace.fileName w ∈ files workspaces ↔ w ∈ workspaces := by
  constructor
  · rintro ⟨v, member, companion⟩
    rwa [Workspace.fileName_mem_companions companion]
  · intro member
    exact ⟨w, member, Set.mem_insert _ _⟩

/-- Two desks with the same files of some workspaces, and the same handles on them. -/
structure Agree (workspaces : Set String) (a b : Desk) : Prop where
  directory : Directory.Agree (files workspaces) a.directory b.directory
  handles : ∀ name, workspaceOf name ∈ workspaces → a.handle? name = b.handle? name

variable {workspaceOf} {workspaces : Set String} {a b desk : Desk} {name : String} {handle : Handle}

theorem Placed.place (placed : desk.Placed workspaceOf) (found : desk.handle? name = some handle) :
    handle.place = .file (Workspace.fileName (workspaceOf name)) := by
  obtain ⟨pending, seen, isOpen, enforced, rfl⟩ := placed name handle found
  rfl

theorem Placed.bare (directory : Directory) : Placed workspaceOf { directory } := by
  intro name handle found
  cases found

theorem Placed.putHandle {desk' : Desk} (placed : desk.Placed workspaceOf)
    (same : ∀ other, desk'.handle? other = desk.handle? other)
    (own : ∃ pending seen isOpen enforced,
      handle = { fresh workspaceOf name with pending, seen, isOpen, enforced }) :
    (desk'.putHandle name handle).Placed workspaceOf := by
  intro other old found
  rw [handle?_putHandle] at found
  split at found
  case isTrue this =>
    cases found
    exact this ▸ own
  case isFalse => exact placed other old (same other ▸ found)

theorem Placed.run {α : Type} (placed : desk.Placed workspaceOf) (name : String) (action : Action α) :
    (desk.run name action).2.Placed workspaceOf := by
  cases found : desk.handle? name with
  | none =>
    rw [run_unknown found]
    exact placed
  | some handle =>
    rw [run_eq found]
    obtain ⟨_, _, _, _, rfl⟩ := placed name handle found
    exact placed.putHandle (handle?_putDatabase desk _ _) ⟨_, _, _, _, rfl⟩

theorem openWorkspace_eq_ok {workspace : String} {database : Database}
    (opened : (desk.directory.establish workspace).2 = .ok database) : desk.openWorkspace name workspace =
      (.ok workspace, { desk with directory := (desk.directory.establish workspace).1 }.putHandle name
        { name := workspace, place := .file (Workspace.fileName workspace), enforced := true }) := by
  unfold openWorkspace
  rw [show desk.directory.establish workspace = (_, .ok database) from Prod.ext rfl opened]
  rfl

theorem openWorkspace_eq_error {workspace : String} {fault : Fault}
    (failed : (desk.directory.establish workspace).2 = .error fault) : desk.openWorkspace name workspace =
      (.error fault, { desk with directory := (desk.directory.establish workspace).1 }) := by
  unfold openWorkspace
  rw [show desk.directory.establish workspace = (_, .error fault) from Prod.ext rfl failed]
  rfl

theorem Placed.openWorkspace (placed : desk.Placed workspaceOf) (name : String) :
    (desk.openWorkspace name (workspaceOf name)).2.Placed workspaceOf := by
  cases opened : (desk.directory.establish (workspaceOf name)).2 with
  | error fault =>
    rw [openWorkspace_eq_error opened]
    exact placed
  | ok database =>
    rw [openWorkspace_eq_ok opened]
    exact placed.putHandle (fun _ => rfl) ⟨_, _, _, _, rfl⟩

theorem Placed.move (placed : desk.Placed workspaceOf) (move : Move) : (desk.move workspaceOf move).2.Placed workspaceOf := by
  cases move with
  | establish name => exact placed.openWorkspace name
  | call name call => exact placed.run name call.action

theorem Placed.moves (placed : desk.Placed workspaceOf) (moves : List Move) :
    (desk.moves workspaceOf moves).Placed workspaceOf := by
  induction moves generalizing desk with
  | nil => exact placed
  | cons first rest ih => exact ih (placed.move first)

namespace Agree

theorem refl (workspaces : Set String) (desk : Desk) : Agree workspaceOf workspaces desk desk :=
  ⟨.refl _ _, fun _ _ => rfl⟩

theorem symm (agree : Agree workspaceOf workspaces a b) : Agree workspaceOf workspaces b a :=
  ⟨agree.directory.symm, fun name member => (agree.handles name member).symm⟩

theorem trans {c : Desk} (first : Agree workspaceOf workspaces a b) (second : Agree workspaceOf workspaces b c) :
    Agree workspaceOf workspaces a c where
  directory := first.directory.trans second.directory
  handles name member := (first.handles name member).trans (second.handles name member)

theorem putHandle (agree : Agree workspaceOf workspaces a b) (name : String) (handle : Handle) :
    Agree workspaceOf workspaces (a.putHandle name handle) (b.putHandle name handle) where
  directory := by
    rw [directory_putHandle, directory_putHandle]
    exact agree.directory
  handles := by
    intro other member
    rw [handle?_putHandle, handle?_putHandle, agree.handles other member]

theorem session (agree : Agree workspaceOf workspaces a b) (member : workspaceOf name ∈ workspaces)
    (place : handle.place = .file (Workspace.fileName (workspaceOf name))) : a.session handle = b.session handle := by
  have same : a.database? handle.place = b.database? handle.place := by
    rw [place]
    exact agree.directory.database? (fileName_mem_files.mpr member)
  unfold Desk.session
  rw [same]

theorem putDatabase (agree : Agree workspaceOf workspaces a b) (member : workspaceOf name ∈ workspaces)
    (database : Database) :
    Agree workspaceOf workspaces (a.putDatabase (.file (Workspace.fileName (workspaceOf name))) database)
      (b.putDatabase (.file (Workspace.fileName (workspaceOf name))) database) where
  directory := by
    rw [directory_putDatabase, directory_putDatabase, agree.directory.database? (fileName_mem_files.mpr member)]
    split
    · exact agree.directory.put _ _
    · exact agree.directory
  handles := by
    intro other member
    rw [handle?_putDatabase, handle?_putDatabase, agree.handles other member]

theorem run {α : Type} (agree : Agree workspaceOf workspaces a b) (placed : a.Placed workspaceOf)
    (member : workspaceOf name ∈ workspaces) (action : Action α) :
    (a.run name action).1 = (b.run name action).1 ∧
      Agree workspaceOf workspaces (a.run name action).2 (b.run name action).2 := by
  have same := agree.handles name member
  cases found : a.handle? name with
  | none =>
    rw [run_unknown found, run_unknown (same ▸ found)]
    exact ⟨rfl, agree⟩
  | some handle =>
    have place := placed.place found
    rw [run_eq found, run_eq (same ▸ found), agree.session member place, putSession, putSession, place]
    exact ⟨rfl, (agree.putDatabase member _).putHandle name _⟩

theorem openWorkspace (agree : Agree workspaceOf workspaces a b) (member : workspaceOf name ∈ workspaces) :
    (a.openWorkspace name (workspaceOf name)).1 = (b.openWorkspace name (workspaceOf name)).1 ∧
      Agree workspaceOf workspaces (a.openWorkspace name (workspaceOf name)).2
        (b.openWorkspace name (workspaceOf name)).2 := by
  have covered : Workspace.companions (Workspace.fileName (workspaceOf name)) ⊆ files workspaces :=
    fun file companion => ⟨_, member, companion⟩
  obtain ⟨same, directory⟩ := agree.directory.establish covered
  cases opened : (a.directory.establish (workspaceOf name)).2 with
  | error fault =>
    rw [openWorkspace_eq_error opened, openWorkspace_eq_error (same ▸ opened)]
    exact ⟨rfl, directory, agree.handles⟩
  | ok database =>
    rw [openWorkspace_eq_ok opened, openWorkspace_eq_ok (same ▸ opened)]
    have made : Agree workspaceOf workspaces { a with directory := (a.directory.establish (workspaceOf name)).1 }
        { b with directory := (b.directory.establish (workspaceOf name)).1 } := ⟨directory, agree.handles⟩
    exact ⟨rfl, made.putHandle name _⟩

theorem move (agree : Agree workspaceOf workspaces a b) (placed : a.Placed workspaceOf) {move : Move}
    (member : workspaceOf move.handle ∈ workspaces) :
    (a.move workspaceOf move).1 = (b.move workspaceOf move).1 ∧
      Agree workspaceOf workspaces (a.move workspaceOf move).2 (b.move workspaceOf move).2 := by
  cases move with
  | establish name =>
    obtain ⟨same, agree⟩ := agree.openWorkspace member
    exact ⟨congrArg Response.opened same, agree⟩
  | call name call =>
    obtain ⟨same, agree⟩ := agree.run placed member call.action
    exact ⟨congrArg Response.answered same, agree⟩

theorem of_run {α : Type} (placed : a.Placed workspaceOf) (other : workspaceOf name ∉ workspaces) (action : Action α) :
    Agree workspaceOf workspaces a (a.run name action).2 := by
  cases found : a.handle? name with
  | none =>
    rw [run_unknown found]
    exact .refl _ _
  | some handle =>
    rw [run_eq found, putSession, placed.place found]
    constructor
    · rw [directory_putHandle, directory_putDatabase]
      -- The other file is written only where it holds a database, and so the directory was a folder before.
      split
      case isTrue stored =>
        obtain ⟨database, stored⟩ := Option.isSome_iff_exists.mp stored
        exact .put_of_notMem (Directory.ne_file_of_database? stored) (mt fileName_mem_files.mp other)
      case isFalse => exact .refl _ _
    · intro handle member
      have different : handle ≠ name := fun same => other (same ▸ member)
      rw [handle?_putHandle_of_ne different, handle?_putDatabase]

theorem of_openWorkspace (other : workspaceOf name ∉ workspaces) :
    Agree workspaceOf workspaces a (a.openWorkspace name (workspaceOf name)).2 := by
  have directory : Directory.Agree (files workspaces) a.directory (a.directory.establish (workspaceOf name)).1 :=
    .of_establish (mt fileName_mem_files.mp other)
  cases opened : (a.directory.establish (workspaceOf name)).2 with
  | error fault =>
    rw [openWorkspace_eq_error opened]
    exact ⟨directory, fun _ _ => rfl⟩
  | ok database =>
    rw [openWorkspace_eq_ok opened]
    constructor
    · rw [directory_putHandle]
      exact directory
    · intro handle member
      have different : handle ≠ name := fun same => other (same ▸ member)
      rw [handle?_putHandle_of_ne different]
      rfl

theorem of_move (placed : a.Placed workspaceOf) {move : Move} (other : workspaceOf move.handle ∉ workspaces) :
    Agree workspaceOf workspaces a (a.move workspaceOf move).2 := by
  cases move with
  | establish name => exact of_openWorkspace other
  | call name call => exact of_run placed other call.action

theorem responses (agree : Agree workspaceOf workspaces a b) (placed : a.Placed workspaceOf) {moves : List Move}
    (within : ∀ move ∈ moves, workspaceOf move.handle ∈ workspaces) :
    a.responses workspaceOf moves = b.responses workspaceOf moves ∧
      Agree workspaceOf workspaces (a.moves workspaceOf moves) (b.moves workspaceOf moves) := by
  induction moves generalizing a b with
  | nil => exact ⟨rfl, agree⟩
  | cons first rest ih =>
    obtain ⟨own, within⟩ := List.forall_mem_cons.mp within
    obtain ⟨same, agree⟩ := agree.move placed own
    obtain ⟨same', agree⟩ := ih agree (placed.move first) within
    refine ⟨?_, agree⟩
    rw [Desk.responses, Desk.responses, same, same']

end Agree

end Runs

end Desk
end Footprint
