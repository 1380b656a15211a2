import Footprint.Command.Run
import Footprint.Proofs.Workspace.Desk
import Footprint.Proofs.Workspace.Location

namespace Footprint

namespace Desk

section

variable (workspaceOf : String → String) (w : String)

def movesOn (moves : List Move) : List Move := moves.filter fun move => workspaceOf move.handle == w

def responsesOn (desk : Desk) : List Move → List Response
  | [] => []
  | move :: rest =>
    if workspaceOf move.handle = w then
      (desk.move workspaceOf move).1 :: (desk.move workspaceOf move).2.responsesOn rest
    else (desk.move workspaceOf move).2.responsesOn rest

variable {workspaceOf w} {a b desk : Desk}

/-- The other moves may as well be left out. -/
theorem responsesOn_eq (agree : Agree workspaceOf {w} a b) (placed : a.Placed workspaceOf) (moves : List Move) :
    a.responsesOn workspaceOf w moves = b.responses workspaceOf (movesOn workspaceOf w moves) ∧
      Agree workspaceOf {w} (a.moves workspaceOf moves) (b.moves workspaceOf (movesOn workspaceOf w moves)) := by
  induction moves generalizing a b with
  | nil => exact ⟨rfl, agree⟩
  | cons first rest ih =>
    by_cases own : workspaceOf first.handle = w
    · have kept : movesOn workspaceOf w (first :: rest) = first :: movesOn workspaceOf w rest :=
        List.filter_cons_of_pos (by simpa using own)
      obtain ⟨same, agree⟩ := agree.move placed own
      obtain ⟨same', agree⟩ := ih agree (placed.move first)
      rw [kept, responsesOn, if_pos own, same, same']
      exact ⟨rfl, agree⟩
    · have dropped : movesOn workspaceOf w (first :: rest) = movesOn workspaceOf w rest :=
        List.filter_cons_of_neg (by simpa using own)
      -- Only the first desk makes this move, and it stays in agreement with the second one.
      have left : Agree workspaceOf {w} a (a.move workspaceOf first).2 := .of_move placed own
      obtain ⟨same, agree⟩ := ih (left.symm.trans agree) (placed.move first)
      rw [dropped, responsesOn, if_neg own]
      exact ⟨same, agree⟩

end

end Desk

def Directory.Rewrites (file : String) (before after : Directory) : Prop :=
  (∃ entries, after = .folder entries) ∧ ∀ other, other ≠ file → after.entry? other = before.entry? other

namespace Directory.Rewrites

variable {before after d : Directory} {file : String} {entry : Entry}

theorem put (rewrites : Rewrites file before d) (entry : Entry) : Rewrites file before (d.put file entry) := by
  refine ⟨⟨_, rfl⟩, ?_⟩
  intro other different
  rw [entry?_put_of_ne different, rewrites.2 other different]

theorem openFile (entries : List (String × Entry)) (file : String) :
    Rewrites file (folder entries) ((folder entries).openFile file).1 :=
  ⟨openFile_folder entries file, fun _ different => entry?_openFile_of_ne different⟩

end Directory.Rewrites

theorem Disk.directory_put (disk : Disk) (path : Path) (entries : List (String × Entry)) :
    (disk.put path (.folder entries)).directory path = .folder entries := by
  have found : (disk.put path (.folder entries)).lookup path = some (.folder entries) := by
    rw [put, lookup_replaced, if_pos (BEq.refl path)]
  rw [directory, found]

namespace Command

variable {engine : Sql.Engine} {directory : Path} {v w workspace file : String} {d after : Directory} {request : Request}

def reported : Except Fault Answer → Report
  | .ok (.ok lines) => { code := 0, output := printed lines }
  | .ok (.error message) => Command.failed message
  | .error fault => Command.failed (errorText fault)

theorem executeOn_of_refused {fault : Fault} (refused : d.openFile file = (after, .error fault)) :
    executeOn engine d workspace file request = (after, reported (.error fault)) := by
  rw [executeOn, refused]
  rfl

theorem executeOn_of_opened {database : Database} {result : Except Fault Answer} {t : Session}
    (opened : d.openFile file = (after, .ok database))
    (run : Footprint.perform (perform engine request) { database, enforced := true } = (result, t)) :
    executeOn engine d workspace file request = (after.put file (.database t.database), reported result) := by
  let handle : Handle := { name := workspace, place := .file file, enforced := true }
  let desk : Desk := Desk.putHandle { directory := after } "main" handle
  have stored : desk.directory.database? file = some database := by
    have written := Directory.entry?_openFile_self (Directory.openFile_snd_eq_ok.mp (congrArg Prod.snd opened))
    rw [opened] at written
    rw [Desk.directory_putHandle]
    exact Directory.database?_eq_some.mpr written
  have session : desk.session handle = { database, enforced := true } := Desk.session_eq stored rfl
  have done := Desk.run_eq (Desk.handle?_putHandle_self { directory := after } "main" handle) (perform engine request)
  rw [session, run] at done
  have left : (Desk.putSession desk "main" handle t).directory = after.put file (.database t.database) := by
    rw [Desk.putSession, Desk.directory_putHandle, Desk.directory_putDatabase, stored, Desk.directory_putHandle]
    rfl
  simp only [executeOn, opened, Desk.take, Except.bind, Session.connect_eq]
  rw [done, left]
  cases result with
  | ok answer => cases answer <;> rfl
  | error fault => rfl

theorem executeOn_rewrites (entries : List (String × Entry)) (workspace file : String) (request : Request) :
    Directory.Rewrites file (.folder entries) (executeOn engine (.folder entries) workspace file request).1 := by
  have opens := Directory.Rewrites.openFile entries file
  cases opened : (Directory.folder entries).openFile file with
  | mk after result =>
    rw [opened] at opens
    cases result with
    | error fault =>
      rw [executeOn_of_refused opened]
      exact opens
    | ok database =>
      cases run : Footprint.perform (perform engine request) { database, enforced := true } with
      | mk result t =>
        rw [executeOn_of_opened opened run]
        exact opens.put _

theorem execute_leaves (normal : directory.Normal) (plain : ∀ part ∈ directory.parts, '?' ∉ part.toList ∧ '%' ∉ part.toList)
    (disk : Disk) (request : Request) (different : v ≠ w) :
    ((execute engine disk ⟨directory, v⟩ request).1.directory directory).database? (Workspace.fileName w) =
      (disk.directory directory).database? (Workspace.fileName w) := by
  unfold execute
  cases prepared : (disk.directory directory).prepared v with
  | error fault => rfl
  | ok made =>
    obtain ⟨accepted, -, rfl⟩ := Directory.prepared_eq_ok.mp prepared
    have lies := Location.ofWorkspace_eq normal plain accepted
    simp only [lies, executeAt, Path.parent?_file, Disk.directory_put]
    split
    · rw [Disk.directory_put]
      rfl
    · obtain ⟨⟨entries, folder⟩, others⟩ :=
        executeOn_rewrites (disk.directory directory).entries v (Workspace.fileName v) request
      have apart : Workspace.fileName w ≠ Workspace.fileName v := fun same =>
        different (Workspace.fileName_injective same).symm
      rw [folder, Disk.directory_put, ← folder, Directory.database?, others _ apart]
      rfl

end Command

open Desk in
/-- In a directory without question marks and percent signs in its path, every workspace has a file of its own, and it
    is the one that is opened. What is done on another workspace, successful or not, changes neither the tables of this
    one nor a handle on it, and all that is answered on it is what would be answered if nothing else were done. -/
theorem workspaces_apart {directory : Path} (normal : directory.Normal)
    (plain : ∀ part ∈ directory.parts, '?' ∉ part.toList ∧ '%' ∉ part.toList) (w : String) :
    (∀ v, Workspace.acceptsName v = true →
      Workspace.path? directory v = .ok (directory.file (Workspace.fileName v)) ∧
      (directory.file (Workspace.fileName v)).parent? = some (directory, Workspace.fileName v) ∧
      Location.ofWorkspace directory v = .file (directory.file (Workspace.fileName v))) ∧
    (∀ v, v ≠ w →
      (directory.file (Workspace.fileName v)).toString ≠ (directory.file (Workspace.fileName w)).toString ∧
      ∀ (engine : Sql.Engine) (disk : Disk) (request : Request),
        ((Command.execute engine disk ⟨directory, v⟩ request).1.directory directory).database? (Workspace.fileName w) =
          (disk.directory directory).database? (Workspace.fileName w)) ∧
    ∀ (workspaceOf : String → String) (files : Directory) (moves : List Move),
      let start : Desk := { directory := files }
      let desk := start.moves workspaceOf moves
      (∀ move : Move, workspaceOf move.handle ≠ w →
        (desk.move workspaceOf move).2.directory.database? (Workspace.fileName w) =
          desk.directory.database? (Workspace.fileName w) ∧
        ∀ name, workspaceOf name = w → (desk.move workspaceOf move).2.handle? name = desk.handle? name) ∧
      start.responsesOn workspaceOf w moves = start.responses workspaceOf (movesOn workspaceOf w moves) ∧
      desk.directory.database? (Workspace.fileName w) =
        (start.moves workspaceOf (movesOn workspaceOf w moves)).directory.database? (Workspace.fileName w) := by
  refine ⟨?_, ?_, ?_⟩
  · intro v accepted
    refine ⟨?_, Path.parent?_file _ _, Location.ofWorkspace_eq normal plain accepted⟩
    rw [Workspace.path?, Workspace.file?, if_pos accepted]
    rfl
  · intro v different
    have apart : Workspace.fileName v ≠ Workspace.fileName w := fun same => different (Workspace.fileName_injective same)
    exact ⟨fun same => apart (Path.file_injective same), fun engine disk request =>
      Command.execute_leaves normal plain disk request different⟩
  · intro workspaceOf files moves start desk
    have own : Workspace.fileName w ∈ Desk.files {w} := fileName_mem_files.mpr rfl
    have placed : start.Placed workspaceOf := .bare files
    obtain ⟨answers, agree⟩ := responsesOn_eq (.refl {w} start) placed moves
    refine ⟨?_, answers, agree.directory.database? own⟩
    intro move other
    have left : Agree workspaceOf {w} desk (desk.move workspaceOf move).2 := .of_move (placed.moves moves) other
    exact ⟨(left.directory.database? own).symm, fun name same => (left.handles name same).symm⟩

/-- A deletion in one workspace leaves the domain of the other one. -/
theorem workspaces_apart_in_folder :
    let directory := Path.ofString "/data"
    let added := (Command.execute .basic [] ⟨directory, "a"⟩ (.add .domain (some "example.com") none)).1
    let deleted := Command.execute .basic added ⟨directory, "b"⟩ (.delete .domain ["where", "value=example.com"])
    let subjects (disk : Disk) : Option (List Subject) :=
      ((disk.directory directory).database? "a.db").map fun d => d.store.rows.map Row.subject
    deleted.2.output = "0 domains deleted\n" ∧ subjects deleted.1 = some [.domain "example.com"] := by
  intro directory added deleted subjects
  have normal : directory.Normal := Path.normal_ofString "/data"
  obtain ⟨-, others, -⟩ := workspaces_apart normal (by decide +kernel) "a"
  have same : (deleted.1.directory directory).database? "a.db" = (added.directory directory).database? "a.db" :=
    (others "b" (by decide)).2 .basic added (.delete .domain ["where", "value=example.com"])
  refine ⟨by decide +kernel, ?_⟩
  have kept : subjects deleted.1 = subjects added := by
    unfold subjects
    rw [same]
  rw [kept]
  decide +kernel

end Footprint
