import Footprint.Proofs.Workspace.Parents
import Footprint.Proofs.Workspace.Reached
import Footprint.Proofs.Workspace.Reopen

namespace Footprint

namespace Directory

variable {d : Directory} {file name : String} {entry : Entry} {fault : Fault}

/-- What stands in the way of opening a workspace. -/
inductive Refuses (d : Directory) (name : String) : Fault → Prop
  | name : Workspace.acceptsName name = false → Refuses d name (.connection .invalidName)
  | directory : d = .file → Refuses d name (.connection .noDataDirectory)
  | tooLong : Workspace.isFileName (Workspace.fileName name) = false → Refuses d name (.connection .noDatabase)
  | folder : d.entry? (Workspace.fileName name) = some .folder → Refuses d name (.connection .noDatabase)
  | foreign : d.entry? (Workspace.fileName name) = some .foreign → Refuses d name .migration
  | unchangeable : d.allowsChanges (Workspace.fileName name) = false → Refuses d name .migration

theorem connected_refuses (failed : d.connected (Workspace.fileName name) = .error fault) : d.Refuses name fault := by
  unfold Directory.connected at failed
  split at failed
  case isTrue barred =>
    cases failed
    rcases Bool.or_eq_true_iff.mp barred with long | folder
    · exact .tooLong (by simpa using long)
    · exact .folder (of_decide_eq_true folder)
  case isFalse => cases failed

theorem migrated_put (d : Directory) (file : String) (entry held : Entry) :
    (d.put file entry).migrated file held = d.migrated file held := by
  simp only [Directory.migrated, allowsChanges_put]

theorem migrated_refuses (sound : d.Sound) (connected : d.connected (Workspace.fileName name) = .ok entry)
    (failed : d.migrated (Workspace.fileName name) entry = .error fault) : d.Refuses name fault := by
  obtain ⟨-, other, held⟩ := connected_eq_ok.mp connected
  cases entry with
  | folder => exact absurd rfl other
  | foreign =>
    cases failed
    unfold Directory.content at held
    split at held <;> cases held
    exact .foreign ‹_›
  | database database =>
    simp only [Directory.migrated, (sound.content held).upgrade] at failed
    split at failed <;> cases failed
    exact .unchangeable (Bool.eq_false_iff.mpr ‹_›)

theorem establish_refuses (sound : d.Sound) (failed : (d.establish name).2 = .error fault) : d.Refuses name fault := by
  unfold establish at failed
  split at failed
  case h_1 reason refused =>
    cases failed
    unfold prepared at refused
    split at refused
    · cases refused
      exact .name (by simpa using ‹(!_) = true›)
    · split at refused <;> cases refused
      exact .directory rfl
  case h_2 made prepared =>
    obtain ⟨-, -, rfl⟩ := prepared_eq_ok.mp prepared
    cases connected : d.connected (Workspace.fileName name) with
    | error reason =>
      rw [openFile_of_refused (d := folder d.entries) connected] at failed
      cases failed
      exact connected_refuses connected
    | ok entry =>
      rw [openFile_of_connected (d := folder d.entries) connected] at failed
      split at failed <;> cases failed
      case h_2 refused =>
        rw [migrated_put] at refused
        exact migrated_refuses sound connected refused

theorem not_refuses_of_established {database : Database} (opened : (d.establish name).2 = .ok database) (fault : Fault) :
    ¬ d.Refuses name fault := by
  obtain ⟨accepted, free, named, ⟨old, held, -⟩, changes⟩ := establish_snd_eq_ok.mp opened
  rintro (bad | barred | long | folder | foreign | unchangeable)
  · exact Bool.false_ne_true (bad.symm.trans accepted)
  · exact free barred
  · exact Bool.false_ne_true (long.symm.trans named)
  · rw [content, folder] at held
    cases held
  · rw [content, foreign] at held
    cases held
  · exact Bool.false_ne_true (unchangeable.symm.trans changes)

theorem entry?_establish_of_failed (failed : (d.establish name).2 = .error fault)
    (stood : d.entry? (Workspace.fileName name) = some entry) :
    entry? (d.establish name).1 (Workspace.fileName name) = some entry := by
  rcases d.establish_cases name with ⟨reason, refused⟩ | ⟨-, -, same⟩
  · rw [refused]
    exact stood
  · rw [same] at failed ⊢
    cases connected : (folder d.entries).connected (Workspace.fileName name) with
    | error reason =>
      rw [openFile_of_refused connected]
      exact stood
    | ok held =>
      obtain ⟨-, -, content⟩ := connected_eq_ok.mp connected
      have same : held = entry := by
        have stays : entry? (folder d.entries) (Workspace.fileName name) = some entry := stood
        rw [← content, Directory.content, stays]
      rw [openFile_of_connected connected] at failed ⊢
      split at failed
      · cases failed
      · rw [entry?_put_self, same]

end Directory

def Fault.isBootstrap : Fault → Bool
  | connection _ | migration | integrity => true
  | _ => false

theorem Directory.Refuses.isBootstrap {d : Directory} {name : String} {fault : Fault} (refuses : d.Refuses name fault) :
    fault.isBootstrap = true := by
  cases refuses <;> rfl

namespace Desk

open Session (Call)

variable {desk : Desk}

theorem directory_openWorkspace (desk : Desk) (handle workspace : String) :
    (desk.openWorkspace handle workspace).2.directory = (desk.directory.establish workspace).1 := by
  cases opened : (desk.directory.establish workspace).2 with
  | error fault => rw [openWorkspace_eq_error opened]
  | ok database => rw [openWorkspace_eq_ok opened, directory_putHandle]

variable {workspace : String}

theorem session_of_opened {database : Database} (opened : (desk.directory.establish workspace).2 = .ok database)
    (handle : String) :
    ∃ new, (desk.openWorkspace handle workspace).2.handle? handle = some new ∧
      Session.connect database = .ok ((desk.openWorkspace handle workspace).2.session new) := by
  have stored : (desk.openWorkspace handle workspace).2.directory.database? (Workspace.fileName workspace) =
      some database := by
    rw [directory_openWorkspace]
    exact Directory.database?_eq_some.mpr (Directory.entry?_establish_self opened)
  refine ⟨{ name := workspace, place := .file (Workspace.fileName workspace), enforced := true }, ?_, ?_⟩
  · rw [openWorkspace_eq_ok opened, handle?_putHandle_self]
  · rw [session_eq stored rfl, Session.connect_eq]

theorem Orderly.session_of_failed (orderly : desk.Orderly) {fault : Fault}
    (failed : (desk.directory.establish workspace).2 = .error fault) (handle : String) {name : String} {old : Handle}
    (found : desk.handle? name = some old) : (desk.openWorkspace handle workspace).2.session old = desk.session old := by
  obtain ⟨-, place, stands, -⟩ := orderly.handles name old found
  have same : Directory.entry? (desk.directory.establish workspace).1 (Workspace.fileName old.name) =
      desk.directory.entry? (Workspace.fileName old.name) := by
    by_cases own : Workspace.fileName old.name = Workspace.fileName workspace
    · obtain ⟨entry, stood⟩ := Option.isSome_iff_exists.mp stands
      rw [own] at stood ⊢
      rw [Directory.entry?_establish_of_failed failed stood, stood]
    · exact Directory.entry?_establish_of_ne own
  have database : (desk.openWorkspace handle workspace).2.database? old.place = desk.database? old.place := by
    rw [place, Desk.database?, Desk.database?, directory_openWorkspace, Directory.database?, same]
    rfl
  unfold Desk.session
  rw [database]

/-- A workspace opens unless something is in the way, and then with all tables and the rows that there were to see, a
    row without its parents being refused from then on. Otherwise there is a fault of the bootstrap that tells what is
    in the way, and all files that were there and all handles are as they were. -/
theorem openWorkspace_completes_or_leaves (reached : desk.Reached) (handle workspace : String) :
    let file := Workspace.fileName workspace
    let before := desk.directory
    let after := (desk.openWorkspace handle workspace).2
    (∀ other, other ≠ file → after.directory.entry? other = before.entry? other) ∧
    match (desk.openWorkspace handle workspace).1 with
    | .ok opened => opened = workspace ∧ (∀ fault, ¬ before.Refuses workspace fault) ∧
      ∃ new database, after.handle? handle = some new ∧ Session.connect database = .ok (after.session new) ∧
        (∀ kind : Kind, kind.table ∈ database.tableNames) ∧ database.schema = .migrated ∧
        database.store = before.visible file ∧
        ∀ (calls : List Call) (c : Candidate),
          let later := (after.session new).calls calls
          later.contents.Anchored ∧ later.enforced = true ∧
            (later.contents.parentsStored c.subject = false → (perform (Statement.insertRow c) later).1 ≠ .ok true)
    | .error fault => before.Refuses workspace fault ∧ fault.isBootstrap = true ∧
      (after.directory = .file ↔ before = .file) ∧
      (∀ entry, before.entry? file = some entry → after.directory.entry? file = some entry) ∧
      after.handles = desk.handles ∧
      ∀ name old, desk.handle? name = some old → after.session old = desk.session old := by
  intro file before after
  have orderly := reached.orderly
  have left : after.directory = (before.establish workspace).1 := directory_openWorkspace desk handle workspace
  refine ⟨fun other different => left ▸ Directory.entry?_establish_of_ne different, ?_⟩
  cases opened : (before.establish workspace).2 with
  | ok database =>
    have tables := (Directory.establish_snd_eq_ok.mp opened).2.2.eq orderly.directory
    obtain ⟨new, known, connected⟩ := session_of_opened opened handle
    have sound : (after.session new).Sound := by
      have follows := Directory.Follows.establish orderly.directory workspace
      have session : after.session new = { database, enforced := true } :=
        (Except.ok.inj ((Session.connect_eq database).symm.trans connected)).symm
      rw [session]
      exact .of_settled rfl rfl (follows.sound file database (Directory.entry?_establish_self opened)).formed
    have told : (desk.openWorkspace handle workspace).1 = .ok workspace := congrArg Prod.fst (openWorkspace_eq_ok opened)
    rw [told]
    refine ⟨rfl, Directory.not_refuses_of_established opened, new, database, known, connected, ?_, ?_,
      congrArg Database.store tables, ?_⟩
    · intro kind
      rw [tables]
      cases kind <;> simp [Database.tableNames, Kind.all]
    · rw [tables]
      rfl
    · intro calls c later
      have sound : later.Sound := sound.calls calls
      exact ⟨sound.contents.anchored, sound.enforced, Statement.insertRow_orphan sound.enforced⟩
  | error fault =>
    have refuses := Directory.establish_refuses orderly.directory opened
    have handles : after.handles = desk.handles := congrArg (fun made => made.2.handles) (openWorkspace_eq_error opened)
    rw [openWorkspace_eq_error opened]
    refine ⟨refuses, refuses.isBootstrap, ?_, ?_, handles, ?_⟩
    · rw [left]
      exact Directory.establish_eq_file
    · intro entry stood
      rw [left]
      exact Directory.entry?_establish_of_failed opened stood
    · intro name old found
      exact orderly.session_of_failed opened handle found

/-- Next to a file that is no database, a workspace is opened once more with its row, and the file is left alone. -/
theorem openWorkspace_completes_or_leaves_foreign_file :
    let insertion : Call := .event (.operation (.insertDomain (.text "example.com"))) rfl
    let filled := ((Desk.openWorkspace {} "h" "a").2.run "h" insertion.action).2
    ∃ desk, filled.prepare "b.db" false "no database" = .ok desk ∧
      (∃ fault, (desk.openWorkspace "k" "b").1 = .error fault ∧ desk.directory.Refuses "b" fault ∧
        (desk.openWorkspace "k" "b").2.directory.entry? "b.db" = some .foreign) ∧
      (desk.openWorkspace "k" "a").1 = .ok "a" ∧
      ∃ new, (desk.openWorkspace "k" "a").2.handle? "k" = some new ∧
        ((desk.openWorkspace "k" "a").2.session new).database.store.rows.map Row.subject = [.domain "example.com"] := by
  intro insertion filled
  let desk := (filled.prepare "b.db" false "no database").toOption.getD filled
  have placed : filled.prepare "b.db" false "no database" = .ok desk := eq_ok_of_toOption (by decide +kernel)
  have reached : desk.Reached := by
    have start : Reached {} := .bare nofun
    exact ((start.establish "h" "a").call "h" insertion).prepare placed
  obtain ⟨-, refused⟩ := openWorkspace_completes_or_leaves reached "k" "b"
  obtain ⟨-, completed⟩ := openWorkspace_completes_or_leaves reached "k" "a"
  refine ⟨desk, placed, ?_, ?_⟩
  · cases result : (desk.openWorkspace "k" "b").1 with
    | ok opened =>
      have none : (desk.openWorkspace "k" "b").1.toOption = none := by decide +kernel
      rw [result] at none
      cases none
    | error fault =>
      rw [result] at refused
      obtain ⟨refuses, -, -, stays, -⟩ := refused
      exact ⟨fault, rfl, refuses, stays .foreign (by decide +kernel)⟩
  · have opened : (desk.openWorkspace "k" "a").1 = .ok "a" := eq_ok_of_toOption (by decide +kernel)
    rw [opened] at completed
    obtain ⟨-, -, new, database, known, connected, -, -, rows, -⟩ := completed
    refine ⟨opened, new, known, ?_⟩
    rw [← Except.ok.inj ((Session.connect_eq database).symm.trans connected), rows]
    decide +kernel

end Desk
end Footprint
