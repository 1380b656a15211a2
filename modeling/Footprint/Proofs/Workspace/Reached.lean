import Footprint.Proofs.Workspace.Desk
import Footprint.Proofs.Workspace.Rebuild

/-!
All that a desk can come to. Its directory starts without rows and may hold whatever else; then handles are opened and
used, schemas are changed, files are put into the directory, and all handles are lost at once. Throughout, the
databases follow their rules, and every handle is on a file that is still there.
-/

namespace Footprint

namespace Database

def visible (d : Database) : Store := if d.tables then d.store else .empty

structure Sound (d : Database) : Prop where
  versioned : d.tables = true ↔ d.version = .initial
  formed : d.store.WellFormed

namespace Sound

variable {d after : Database}

theorem blank : Sound .blank := ⟨iff_of_false Bool.false_ne_true nofun, .empty⟩

theorem head {store : Store} (formed : store.WellFormed) : Sound ⟨true, .initial, store⟩ := ⟨iff_of_true rfl rfl, formed⟩

theorem base {store : Store} (formed : store.WellFormed) : Sound ⟨false, .base, store⟩ :=
  ⟨iff_of_false Bool.false_ne_true nofun, formed⟩

theorem congr (sound : d.Sound) (tables : after.tables = d.tables) (version : after.version = d.version)
    (formed : after.store.WellFormed) : after.Sound := by
  refine ⟨?_, formed⟩
  rw [tables, version]
  exact sound.versioned

theorem visible (sound : d.Sound) : d.visible.WellFormed := by
  unfold Database.visible
  split
  · exact sound.formed
  · exact .empty

theorem upgrade (sound : d.Sound) : d.upgrade? = some ⟨true, .initial, d.visible⟩ := by
  obtain ⟨tables, version, store⟩ := d
  have versioned : tables = true ↔ version = .initial := sound.versioned
  unfold upgrade?
  cases tables with
  | true => simp [versioned.mp rfl, Database.visible]
  | false =>
    have other : version ≠ .initial := fun same => Bool.false_ne_true (versioned.mpr same)
    simp [other, Database.visible]

theorem downgrade (sound : d.Sound) : ∃ after, d.downgrade d.schema = .ok after ∧ after.Sound := by
  obtain ⟨tables, version, store⟩ := d
  have versioned : tables = true ↔ version = .initial := sound.versioned
  cases version with
  | initial =>
    obtain rfl := versioned.mpr rfl
    exact ⟨_, downgrade_eq_ok rfl rfl, .base .empty⟩
  | untracked | base =>
    obtain rfl : tables = false := Bool.eq_false_iff.mpr fun same => nomatch versioned.mp same
    exact ⟨_, rfl, .base sound.formed⟩

end Sound
end Database

namespace Session

/-- The database and what is pending follow their rules, and references are enforced. -/
structure Orderly (s : Session) : Prop where
  database : s.database.Sound
  contents : s.contents.WellFormed
  enforced : s.enforced = true

variable {s : Session}

theorem Orderly.sound (orderly : s.Orderly) : s.Sound :=
  ⟨orderly.database.formed, orderly.contents, orderly.enforced⟩

theorem Orderly.of_settled (settled : s.pending = none) (enforced : s.enforced = true) (database : s.database.Sound) :
    s.Orderly :=
  ⟨database, contents_of_settled settled ▸ database.formed, enforced⟩

end Session

namespace Action

variable {α : Type}

def Keeps (x : Action α) : Prop := ∀ s : Session, s.Orderly → (perform x s).2.Orderly

theorem keeps_call (call : Session.Call) : Keeps call.action := by
  intro s orderly
  have sound := orderly.sound.call call
  obtain ⟨enforced, tables, version, -⟩ := Session.schema_call orderly.enforced call
  exact ⟨orderly.database.congr tables version sound.committed, sound.contents, enforced⟩

theorem keeps_afterRollback {next : Action α} (kept : ∀ s : Session, s.Orderly → s.pending = none →
    s.isOpen = true → s.isIntact = true → (perform next s).2.Orderly) :
    Keeps (do modify Session.rollback; Action.requireOpen; next) := by
  intro s orderly
  have undone : s.rollback.Orderly := .of_settled rfl orderly.enforced orderly.database
  rw [perform_bind_ok (perform_modify _ s)]
  cases isOpen : s.isOpen with
  | false =>
    rw [perform_bind_error (Session.perform_requireOpen_closed (s := s.rollback) isOpen)]
    exact undone
  | true =>
    cases isIntact : s.isIntact with
    | true =>
      rw [perform_bind_ok (Session.perform_requireOpen_intact (s := s.rollback) isOpen isIntact)]
      exact kept s.rollback undone rfl isOpen isIntact
    | false =>
      have refused : perform Action.requireOpen s.rollback = (.error (.statement .noDatabase), s.rollback) := by
        simp [Action.requireOpen, perform_bare, Statement.requireOpen, perform_bind, Session.rollback, isOpen, isIntact]
      rw [perform_bind_error refused]
      exact undone

theorem keeps_upgrade : Keeps Action.upgrade := by
  apply keeps_afterRollback
  intro s orderly settled isOpen isIntact
  rw [perform_bind_ok (perform_get s), orderly.database.upgrade]
  exact .of_settled settled orderly.enforced (.head orderly.database.visible)

theorem keeps_downgrade : Keeps Action.downgrade := by
  apply keeps_afterRollback
  intro s orderly settled isOpen isIntact
  obtain ⟨after, done, sound⟩ := orderly.database.downgrade
  rw [perform_bind_ok (perform_get s), perform_bind_ok (perform_get s), Session.schema_of_enforced orderly.enforced, done]
  exact .of_settled settled orderly.enforced sound

end Action

def Entry.visible : Entry → Store
  | .database stored => stored.visible
  | .folder | .foreign => .empty

namespace Directory

variable {d after : Directory} {file other name : String} {entry : Entry} {database : Database}

def visible (d : Directory) (file : String) : Store := (d.content file).visible

theorem visible_congr {a b : Directory} (same : a.entry? file = b.entry? file) : a.visible file = b.visible file := by
  rw [visible, visible, content, content, same]

theorem visible_of_entry (found : d.entry? file = some entry) : d.visible file = entry.visible := by
  rw [visible, content, found]

theorem visible_put (d : Directory) (file : String) (entry : Entry) (other : String) :
    (d.put file entry).visible other = if other = file then entry.visible else d.visible other := by
  split
  case isTrue own => exact visible_of_entry (own ▸ entry?_put_self d file entry)
  case isFalse different => exact visible_congr (entry?_put_of_ne different)

def Sound (d : Directory) : Prop := ∀ file database, d.entry? file = some (.database database) → database.Sound

theorem Sound.content (sound : d.Sound) (held : d.content file = .database database) :
    database.Sound := by
  unfold Directory.content at held
  split at held
  case h_1 found => exact sound file database (held ▸ found)
  case h_2 =>
    cases held
    exact .blank

theorem Sound.visible (sound : d.Sound) (file : String) : (d.visible file).WellFormed := by
  unfold Directory.visible
  cases held : d.content file with
  | database database => exact (sound.content held).visible
  | folder | foreign => exact .empty

theorem Opens.eq (opens : d.Opens file database) (sound : d.Sound) : database = ⟨true, .initial, d.visible file⟩ := by
  obtain ⟨old, held, upgraded⟩ := opens.stored
  cases (sound.content held).upgrade.symm.trans upgraded
  rw [Directory.visible, held]
  rfl

theorem visible_openFile (sound : d.Sound) (file other : String) :
    visible (d.openFile file).1 other = d.visible other := by
  by_cases own : other = file
  case neg => exact visible_congr (entry?_openFile_of_ne own)
  rw [own]
  cases opened : (d.openFile file).2 with
  | ok database =>
    have opens := openFile_snd_eq_ok.mp opened
    rw [visible_of_entry (entry?_openFile_self opens), opens.eq sound]
    rfl
  | error fault =>
    cases connected : d.connected file with
    | error fault => rw [openFile_of_refused connected]
    | ok entry =>
      obtain ⟨-, -, held⟩ := connected_eq_ok.mp connected
      rw [openFile_of_connected connected] at opened ⊢
      split at opened
      · cases opened
      · rw [visible_of_entry (entry?_put_self _ _ _), visible, held]

structure Follows (d after : Directory) : Prop where
  sound : after.Sound
  stands : ∀ file, (d.entry? file).isSome = true → (after.entry? file).isSome = true

namespace Follows

theorem refl (sound : d.Sound) : Follows d d := ⟨sound, fun _ => id⟩

theorem of_entries {kept : Directory} (sound : d.Sound) (same : ∀ file, kept.entry? file = d.entry? file) :
    Follows d kept where
  sound file database found := sound file database (same file ▸ found)
  stands file stood := same file ▸ stood

theorem put (follows : Follows d after) (formed : ∀ database, entry = .database database → database.Sound) :
    Follows d (after.put file entry) where
  sound := by
    intro other database found
    rw [entry?_put] at found
    split at found
    · exact formed database (Option.some.inj found)
    · exact follows.sound other database found
  stands := by
    intro other stood
    rw [entry?_put]
    split
    · rfl
    · exact follows.stands other stood

theorem openFile (follows : Follows d after) (file : String) : Follows d (after.openFile file).1 := by
  cases connected : after.connected file with
  | error fault =>
    rw [openFile_of_refused connected]
    exact follows
  | ok entry =>
    obtain ⟨-, -, held⟩ := connected_eq_ok.mp connected
    have made : Follows d (after.put file entry) :=
      follows.put fun database same => follows.sound.content (held.trans same)
    rw [openFile_of_connected connected]
    split
    case h_1 database migrated =>
      obtain ⟨-, old, rfl, upgraded⟩ := migrated_eq_ok.mp migrated
      have sound := follows.sound.content held
      cases sound.upgrade.symm.trans upgraded
      refine made.put fun database same => ?_
      cases same
      exact .head sound.visible
    case h_2 => exact made

theorem establish (sound : d.Sound) (name : String) : Follows d (d.establish name).1 := by
  rcases d.establish_cases name with ⟨fault, refused⟩ | ⟨-, -, same⟩
  · rw [refused]
    exact .refl sound
  · rw [same]
    have made : Follows d (folder d.entries) := .of_entries sound fun _ => rfl
    exact made.openFile _

theorem putOver (sound : d.Sound) (formed : ∀ database, entry = .database database → database.Sound)
    (placed : d.putOver name entry = .ok after) : Follows d after := by
  have replaced : Follows d (d.put name entry) := (Follows.refl sound).put formed
  unfold Directory.putOver at placed
  split at placed <;> cases placed <;> exact replaced

theorem putAt {path : List String} (sound : d.Sound)
    (formed : ∀ database, entry = .database database → database.Sound) (placed : d.putAt path entry = .ok after) :
    Follows d after := by
  unfold Directory.putAt at placed
  split at placed
  · cases placed
  · cases placed
    exact .refl sound
  · exact .putOver sound formed placed
  · exact .putOver sound (fun _ => Entry.noConfusion) placed

theorem replacedBy {isFolder : Bool} (sound : d.Sound) (placed : d.replacedBy isFolder = .ok after) :
    Follows d after := by
  have same (file : String) : after.entry? file = d.entry? file := by
    cases d <;> cases isFolder <;> cases placed <;> rfl
  exact .of_entries sound same

end Follows
end Directory

namespace Desk

open Session (Call)

/-- What the handles of a desk can come to, and its directory with them. -/
inductive Reached : Desk → Prop
  | bare {directory : Directory} :
    (∀ file database, directory.entry? file = some (.database database) → database = .blank) → Reached { directory }
  | establish {desk : Desk} (name workspace : String) : Reached desk → Reached (desk.openWorkspace name workspace).2
  | call {desk : Desk} (name : String) (call : Call) : Reached desk → Reached (desk.run name call.action).2
  | upgrade {desk : Desk} (name : String) : Reached desk → Reached (desk.run name Action.upgrade).2
  | downgrade {desk : Desk} (name : String) : Reached desk → Reached (desk.run name Action.downgrade).2
  | prepare {desk after : Desk} {path : String} {isFolder : Bool} {content : String} :
    Reached desk → desk.prepare path isFolder content = .ok after → Reached after
  /-- All handles are lost. -/
  | restart {desk : Desk} : Reached desk → Reached { directory := desk.directory }

structure Keeps (directory : Directory) (handle : Handle) : Prop where
  enforced : handle.enforced = true
  place : handle.place = .file (Workspace.fileName handle.name)
  stands : (directory.entry? (Workspace.fileName handle.name)).isSome = true
  pending : ∀ store, handle.pending = some store → store.WellFormed

theorem prepare_eq_ok {desk after : Desk} {path content : String} {isFolder : Bool}
    (placed : desk.prepare path isFolder content = .ok after) :
    let entry := if isFolder then .folder else .ofContent content
    ∃ directory, (if path.isEmpty then desk.directory.replacedBy isFolder
      else desk.directory.putAt (Path.ofString path).parts entry) = .ok directory ∧ { desk with directory } = after := by
  intro entry
  have run : desk.prepare path isFolder content = (if path.isEmpty then desk.directory.replacedBy isFolder
      else desk.directory.putAt (Path.ofString path).parts entry) >>= fun directory => .ok { desk with directory } := by
    cases isFolder <;> unfold Desk.prepare <;> cases path.isEmpty <;> rfl
  rw [run] at placed
  cases written : (if path.isEmpty then desk.directory.replacedBy isFolder
      else desk.directory.putAt (Path.ofString path).parts entry) with
  | error obstacle =>
    rw [written] at placed
    cases placed
  | ok directory =>
    rw [written] at placed
    cases placed
    exact ⟨directory, rfl, rfl⟩

structure Orderly (desk : Desk) : Prop where
  directory : desk.directory.Sound
  handles : ∀ name handle, desk.handle? name = some handle → Keeps desk.directory handle

namespace Orderly

variable {desk after : Desk} {name : String} {handle : Handle}

theorem of_follows (orderly : desk.Orderly) (follows : desk.directory.Follows after.directory)
    (same : ∀ name, after.handle? name = desk.handle? name) : after.Orderly where
  directory := follows.sound
  handles := by
    intro name handle found
    obtain ⟨enforced, place, stands, pending⟩ := orderly.handles name handle (same name ▸ found)
    exact ⟨enforced, place, follows.stands _ stands, pending⟩

theorem putHandle (orderly : desk.Orderly) (keeps : Keeps desk.directory handle) :
    (desk.putHandle name handle).Orderly where
  directory := by
    rw [directory_putHandle]
    exact orderly.directory
  handles := by
    intro other old found
    rw [directory_putHandle]
    rw [handle?_putHandle] at found
    split at found
    · cases found
      exact keeps
    · exact orderly.handles other old found

theorem session (orderly : desk.Orderly) (found : desk.handle? name = some handle) : (desk.session handle).Orderly := by
  obtain ⟨enforced, place, -, pending⟩ := orderly.handles name handle found
  have database : (desk.session handle).database.Sound := by
    show Database.Sound ((desk.database? handle.place).getD .blank)
    rw [place]
    show Database.Sound ((desk.directory.database? _).getD .blank)
    cases stored : desk.directory.database? (Workspace.fileName handle.name) with
    | some database => exact orderly.directory _ database (Directory.database?_eq_some.mp stored)
    | none => exact .blank
  refine ⟨database, ?_, enforced⟩
  show Store.WellFormed (handle.pending.getD _)
  cases left : handle.pending with
  | some store => exact pending store left
  | none => exact database.formed

theorem run {α : Type} {x : Action α} (orderly : desk.Orderly) (name : String) (keeps : x.Keeps) :
    (desk.run name x).2.Orderly := by
  cases found : desk.handle? name with
  | none =>
    rw [run_unknown found]
    exact orderly
  | some handle =>
    obtain ⟨-, place, stands, -⟩ := orderly.handles name handle found
    have after := keeps _ (orderly.session found)
    rw [run_eq found, putSession, place]
    have follows : desk.directory.Follows (desk.putDatabase (.file (Workspace.fileName handle.name))
        (perform x (desk.session handle)).2.database).directory := by
      rw [directory_putDatabase]
      split
      · refine (Directory.Follows.refl orderly.directory).put fun database same => ?_
        cases same
        exact after.database
      · exact .refl orderly.directory
    refine (orderly.of_follows follows fun other => handle?_putDatabase desk _ _ other).putHandle
      ⟨after.enforced, rfl, follows.stands _ stands, fun store left => ?_⟩
    have contents := after.contents
    rwa [Session.contents, show Session.pending _ = some store from left] at contents

theorem establish (orderly : desk.Orderly) (name workspace : String) :
    (desk.openWorkspace name workspace).2.Orderly := by
  have follows := Directory.Follows.establish orderly.directory workspace
  have made : Orderly { desk with directory := (desk.directory.establish workspace).1 } :=
    orderly.of_follows follows fun _ => rfl
  cases opened : (desk.directory.establish workspace).2 with
  | error fault =>
    rw [openWorkspace_eq_error opened]
    exact made
  | ok database =>
    rw [openWorkspace_eq_ok opened]
    refine made.putHandle ⟨rfl, rfl, ?_, nofun⟩
    exact Option.isSome_of_eq_some (Directory.entry?_establish_self opened)

theorem prepare {path content : String} {isFolder : Bool} (orderly : desk.Orderly)
    (placed : desk.prepare path isFolder content = .ok after) : after.Orderly := by
  have formed (database : Database)
      (same : (if isFolder then Entry.folder else .ofContent content) = .database database) : database.Sound := by
    split at same
    · cases same
    · unfold Entry.ofContent at same
      split at same <;> cases same
      exact .blank
  obtain ⟨directory, written, rfl⟩ := prepare_eq_ok placed
  split at written
  · exact orderly.of_follows (.replacedBy orderly.directory written) fun _ => rfl
  · exact orderly.of_follows (.putAt orderly.directory formed written) fun _ => rfl

end Orderly

theorem Reached.orderly {desk : Desk} (reached : desk.Reached) : desk.Orderly := by
  induction reached with
  | bare blank =>
    refine ⟨fun file database found => ?_, nofun⟩
    rw [blank file database found]
    exact .blank
  | establish name workspace _ ih => exact ih.establish name workspace
  | call name call _ ih => exact ih.run name (Action.keeps_call call)
  | upgrade name _ ih => exact ih.run name Action.keeps_upgrade
  | downgrade name _ ih => exact ih.run name Action.keeps_downgrade
  | prepare _ placed ih => exact ih.prepare placed
  | restart _ ih => exact ⟨ih.directory, nofun⟩

end Desk
end Footprint
