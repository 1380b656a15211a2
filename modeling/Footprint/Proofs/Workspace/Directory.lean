import Footprint.Workspace.Directory
import Mathlib.Data.Set.Insert

namespace Footprint

namespace Workspace

theorem fileName_ne_journalName (name file : String) : fileName name ≠ journalName file := by
  intro same
  have ends := congrArg (fun name => name.toList.getLast?) same
  simp [fileName, journalName] at ends

theorem fileName_ne_changesName (name file : String) : fileName name ≠ changesName file := by
  intro same
  have ends := congrArg (fun name => name.toList.getLast?) same
  simp [fileName, changesName] at ends

theorem journalName_ne (file : String) : journalName file ≠ file := by
  intro same
  have lengths := congrArg String.length same
  simp [journalName, String.length_append] at lengths

theorem changesName_ne (file : String) : changesName file ≠ file := by
  intro same
  have lengths := congrArg String.length same
  simp [changesName, String.length_append] at lengths

theorem fileName_injective {v w : String} (same : fileName v = fileName w) : v = w := by
  have texts := congrArg String.toList same
  simp only [fileName, String.toList_append] at texts
  exact String.toList_injective (List.append_cancel_right texts)

def companions (file : String) : Set String := {file, journalName file, changesName file}

theorem fileName_mem_companions {v w : String} (member : fileName v ∈ companions (fileName w)) : v = w := by
  rcases member with same | same | same
  · exact fileName_injective same
  · exact absurd same (fileName_ne_journalName v _)
  · exact absurd same (fileName_ne_changesName v _)

end Workspace

namespace Database

theorem upgrade?_of_initial {d : Database} (version : d.version = .initial) : d.upgrade? = some d := if_pos version

theorem version_of_upgrade? {d after : Database} (upgraded : d.upgrade? = some after) : after.version = .initial := by
  unfold upgrade? at upgraded
  split at upgraded
  case isTrue version =>
    cases upgraded
    exact version
  case isFalse =>
    split at upgraded <;> cases upgraded
    rfl

end Database

theorem lookup_replaced {α β : Type} [BEq α] [LawfulBEq α] (pairs : List (α × β)) (a : α) (b : β) (other : α) :
    ((pairs.filter fun (pair : α × β) => pair.1 != a) ++ [(a, b)]).lookup other =
      if other == a then some b else pairs.lookup other := by
  induction pairs with
  | nil =>
    rw [List.filter_nil, List.nil_append, List.lookup_cons]
    cases other == a <;> rfl
  | cons head rest ih =>
    obtain ⟨key, value⟩ := head
    by_cases replaced : key = a
    · subst replaced
      rw [List.filter_cons_of_neg (by simp), ih, List.lookup_cons]
      cases other == key <;> rfl
    · rw [List.filter_cons_of_pos (by simpa using replaced), List.cons_append, List.lookup_cons, List.lookup_cons, ih]
      by_cases same : other = key
      · subst same
        simp [replaced]
      · simp only [beq_eq_false_iff_ne.mpr same]

namespace Directory

variable {d a b : Directory} {file other name : String} {entry : Entry} {database : Database}

theorem entry?_put (d : Directory) (file : String) (entry : Entry) (other : String) :
    entry? (d.put file entry) other = if other = file then some entry else d.entry? other := by
  have replaced := lookup_replaced d.entries file entry other
  simp only [beq_iff_eq] at replaced
  exact replaced

theorem entry?_put_self (d : Directory) (file : String) (entry : Entry) : entry? (d.put file entry) file = some entry := by
  rw [entry?_put, if_pos rfl]

theorem entry?_put_of_ne (different : other ≠ file) : entry? (d.put file entry) other = d.entry? other := by
  rw [entry?_put, if_neg different]

theorem database?_eq_some : d.database? file = some database ↔ d.entry? file = some (.database database) := by
  unfold database?
  split <;> simp_all

theorem ne_file_of_database? (stored : d.database? file = some database) : d ≠ .file := by
  rintro rfl
  cases stored

/-! Opening a file -/

theorem connected_eq_ok : d.connected file = .ok entry ↔
    Workspace.isFileName file = true ∧ entry ≠ .folder ∧ d.content file = entry := by
  unfold connected isFolder content
  grind

theorem migrated_eq_ok : d.migrated file entry = .ok database ↔
    d.allowsChanges file = true ∧ ∃ old, entry = .database old ∧ old.upgrade? = some database := by
  unfold migrated
  grind

theorem allowsChanges_put (d : Directory) (file : String) (entry : Entry) :
    (d.put file entry).allowsChanges file = d.allowsChanges file := by
  simp only [allowsChanges, isFolder, entry?_put_of_ne (Workspace.journalName_ne file),
    entry?_put_of_ne (Workspace.changesName_ne file)]

theorem openFile_of_refused {fault : Fault} (refused : d.connected file = .error fault) :
    d.openFile file = (d, .error fault) := by
  simp only [openFile, refused]

theorem openFile_of_connected (connected : d.connected file = .ok entry) :
    d.openFile file = match (d.put file entry).migrated file entry with
      | .ok database => ((d.put file entry).put file (.database database), .ok database)
      | .error fault => (d.put file entry, .error fault) := by
  cases migrated : (d.put file entry).migrated file entry <;> simp only [openFile, connected, migrated]

structure Opens (d : Directory) (file : String) (database : Database) : Prop where
  named : Workspace.isFileName file = true
  stored : ∃ old, d.content file = .database old ∧ old.upgrade? = some database
  changes : d.allowsChanges file = true

theorem openFile_snd_eq_ok : (d.openFile file).2 = .ok database ↔ d.Opens file database := by
  cases connected : d.connected file with
  | error fault =>
    rw [openFile_of_refused connected]
    refine ⟨nofun, ?_⟩
    rintro ⟨named, ⟨old, stored, -⟩, -⟩
    have made : d.connected file = .ok (.database old) := connected_eq_ok.mpr ⟨named, nofun, stored⟩
    rw [made] at connected
    cases connected
  | ok entry =>
    rw [openFile_of_connected connected]
    have migrated : (d.put file entry).migrated file entry = .ok database ↔ _ := migrated_eq_ok
    rw [allowsChanges_put] at migrated
    obtain ⟨named, -, rfl⟩ := connected_eq_ok.mp connected
    constructor
    · intro opened
      split at opened
      case h_1 same =>
        cases opened
        obtain ⟨changes, stored⟩ := migrated.mp same
        exact ⟨named, stored, changes⟩
      case h_2 => cases opened
    · rintro ⟨-, stored, changes⟩
      rw [migrated.mpr ⟨changes, stored⟩]

theorem entry?_openFile_self (opens : d.Opens file database) :
    entry? (d.openFile file).1 file = some (.database database) := by
  have opened := openFile_snd_eq_ok.mpr opens
  cases connected : d.connected file with
  | error fault =>
    rw [openFile_of_refused connected] at opened
    cases opened
  | ok entry =>
    rw [openFile_of_connected connected] at opened ⊢
    split at opened <;> cases opened
    exact entry?_put_self _ _ _

theorem entry?_openFile_of_ne (different : other ≠ file) : entry? (d.openFile file).1 other = d.entry? other := by
  cases connected : d.connected file with
  | error fault => rw [openFile_of_refused connected]
  | ok entry =>
    rw [openFile_of_connected connected]
    split
    · rw [entry?_put_of_ne different, entry?_put_of_ne different]
    · exact entry?_put_of_ne different

theorem openFile_folder (entries : List (String × Entry)) (file : String) :
    ∃ after, ((folder entries).openFile file).1 = folder after := by
  cases connected : (folder entries).connected file with
  | error fault =>
    rw [openFile_of_refused connected]
    exact ⟨entries, rfl⟩
  | ok entry =>
    rw [openFile_of_connected connected]
    split <;> exact ⟨_, rfl⟩

/-! Opening a workspace -/

theorem prepared_eq_ok {made : Directory} : d.prepared name = .ok made ↔
    Workspace.acceptsName name = true ∧ d ≠ .file ∧ made = folder d.entries := by
  unfold prepared
  cases Workspace.acceptsName name <;> cases d <;> simp [eq_comm]

theorem establish_of_prepared {made : Directory} (prepared : d.prepared name = .ok made) :
    d.establish name = made.openFile (Workspace.fileName name) := by
  simp only [establish, prepared]

theorem establish_cases (d : Directory) (name : String) :
    (∃ fault, d.establish name = (d, .error fault)) ∨
      Workspace.acceptsName name = true ∧ d ≠ .file ∧
        d.establish name = (folder d.entries).openFile (Workspace.fileName name) := by
  cases made : d.prepared name with
  | error fault => exact .inl ⟨fault, by simp only [establish, made]⟩
  | ok prepared =>
    obtain ⟨accepted, free, rfl⟩ := prepared_eq_ok.mp made
    exact .inr ⟨accepted, free, establish_of_prepared made⟩

theorem establish_of_accepted (accepted : Workspace.acceptsName name = true) (free : d ≠ .file) :
    d.establish name = (folder d.entries).openFile (Workspace.fileName name) :=
  establish_of_prepared (prepared_eq_ok.mpr ⟨accepted, free, rfl⟩)

theorem opens_folder : (folder d.entries).Opens file database ↔ d.Opens file database :=
  ⟨fun ⟨named, stored, changes⟩ => ⟨named, stored, changes⟩, fun ⟨named, stored, changes⟩ => ⟨named, stored, changes⟩⟩

theorem establish_snd_eq_ok : (d.establish name).2 = .ok database ↔
    Workspace.acceptsName name = true ∧ d ≠ .file ∧ d.Opens (Workspace.fileName name) database := by
  rcases d.establish_cases name with ⟨fault, refused⟩ | ⟨accepted, free, same⟩
  · rw [refused]
    refine ⟨nofun, ?_⟩
    rintro ⟨accepted, free, opens⟩
    have opened := openFile_snd_eq_ok.mpr (opens_folder.mpr opens)
    rw [← establish_of_accepted accepted free, refused] at opened
    cases opened
  · rw [same, openFile_snd_eq_ok, opens_folder]
    exact ⟨fun opens => ⟨accepted, free, opens⟩, fun opens => opens.2.2⟩

theorem eq_of_established {after : Directory} (missing : d.entry? (Workspace.fileName name) = none)
    (opened : d.establish name = (after, .ok database)) : database = ⟨true, .initial, .empty⟩ := by
  obtain ⟨-, -, opens⟩ := establish_snd_eq_ok.mp (congrArg Prod.snd opened)
  obtain ⟨old, stored, upgraded⟩ := opens.stored
  rw [content, missing] at stored
  cases stored
  cases upgraded
  rfl

theorem version_of_established (opened : (d.establish name).2 = .ok database) : database.version = .initial := by
  obtain ⟨-, -, -, ⟨old, -, upgraded⟩, -⟩ := establish_snd_eq_ok.mp opened
  exact Database.version_of_upgrade? upgraded

theorem entry?_establish_self (opened : (d.establish name).2 = .ok database) :
    entry? (d.establish name).1 (Workspace.fileName name) = some (.database database) := by
  obtain ⟨accepted, free, opens⟩ := establish_snd_eq_ok.mp opened
  rw [establish_of_accepted accepted free]
  exact entry?_openFile_self (opens_folder.mpr opens)

theorem entry?_establish_of_ne (different : other ≠ Workspace.fileName name) :
    entry? (d.establish name).1 other = d.entry? other := by
  rcases d.establish_cases name with ⟨fault, refused⟩ | ⟨-, -, same⟩
  · rw [refused]
  · rw [same]
    exact entry?_openFile_of_ne different

theorem establish_eq_file : (d.establish name).1 = .file ↔ d = .file := by
  rcases d.establish_cases name with ⟨fault, refused⟩ | ⟨-, free, same⟩
  · rw [refused]
  · obtain ⟨after, folder⟩ := openFile_folder d.entries (Workspace.fileName name)
    rw [same, folder]
    exact iff_of_false nofun free

/-! Directories that cannot be told apart -/

structure Agree (files : Set String) (a b : Directory) : Prop where
  barred : a = .file ↔ b = .file
  entries : ∀ file ∈ files, a.entry? file = b.entry? file

namespace Agree

variable {files : Set String}

theorem refl (files : Set String) (d : Directory) : Agree files d d := ⟨.rfl, fun _ _ => rfl⟩

theorem symm (agree : Agree files a b) : Agree files b a :=
  ⟨agree.barred.symm, fun file member => (agree.entries file member).symm⟩

theorem trans {c : Directory} (first : Agree files a b) (second : Agree files b c) : Agree files a c where
  barred := first.barred.trans second.barred
  entries file member := (first.entries file member).trans (second.entries file member)

theorem mono {fewer : Set String} (agree : Agree files a b) (within : fewer ⊆ files) : Agree fewer a b :=
  ⟨agree.barred, fun file member => agree.entries file (within member)⟩

theorem put (agree : Agree files a b) (file : String) (entry : Entry) :
    Agree files (a.put file entry) (b.put file entry) where
  barred := iff_of_false nofun nofun
  entries := by
    intro other member
    rw [entry?_put, entry?_put, agree.entries other member]

theorem put_of_notMem (free : d ≠ .file) (apart : file ∉ files) : Agree files d (d.put file entry) where
  barred := iff_of_false free nofun
  entries := by
    intro other member
    have different : other ≠ file := fun same => apart (same ▸ member)
    rw [entry?_put_of_ne different]

theorem database? (agree : Agree files a b) (member : file ∈ files) : a.database? file = b.database? file := by
  simp only [Directory.database?, agree.entries file member]

theorem connected (agree : Agree files a b) (member : file ∈ files) : a.connected file = b.connected file := by
  unfold Directory.connected isFolder content
  rw [agree.entries file member]

theorem migrated (agree : Agree files a b) (covered : Workspace.companions file ⊆ files) :
    a.migrated file entry = b.migrated file entry := by
  have journal := agree.entries (Workspace.journalName file) (covered (by simp [Workspace.companions]))
  have changes := agree.entries (Workspace.changesName file) (covered (by simp [Workspace.companions]))
  have allowed : a.allowsChanges file = b.allowsChanges file := by
    simp only [allowsChanges, isFolder, journal, changes]
  simp only [Directory.migrated, allowed]

theorem openFile (agree : Agree files a b) (covered : Workspace.companions file ⊆ files) :
    (a.openFile file).2 = (b.openFile file).2 ∧ Agree files (a.openFile file).1 (b.openFile file).1 := by
  have member : file ∈ files := covered (Set.mem_insert _ _)
  have same := agree.connected member
  cases connected : a.connected file with
  | error fault =>
    rw [openFile_of_refused connected, openFile_of_refused (same ▸ connected)]
    exact ⟨rfl, agree⟩
  | ok entry =>
    rw [openFile_of_connected connected, openFile_of_connected (same ▸ connected),
      (agree.put file entry).migrated covered]
    split
    · exact ⟨rfl, (agree.put file entry).put file _⟩
    · exact ⟨rfl, agree.put file entry⟩

theorem establish (agree : Agree files a b) (covered : Workspace.companions (Workspace.fileName name) ⊆ files) :
    (a.establish name).2 = (b.establish name).2 ∧ Agree files (a.establish name).1 (b.establish name).1 := by
  cases accepted : Workspace.acceptsName name with
  | false =>
    simp only [Directory.establish, prepared, accepted]
    exact ⟨rfl, agree⟩
  | true =>
    by_cases free : a = .file
    · obtain rfl := agree.barred.mp free
      rw [free]
      exact ⟨rfl, .refl files _⟩
    · rw [establish_of_accepted accepted free, establish_of_accepted accepted (mt agree.barred.mpr free)]
      have made : Agree files (folder a.entries) (folder b.entries) := ⟨iff_of_false nofun nofun, agree.entries⟩
      exact made.openFile covered

theorem put_stored (stored : d.entry? file = some entry) : Agree Set.univ d (d.put file entry) where
  barred := by
    refine iff_of_false ?_ nofun
    rintro rfl
    cases stored
  entries := by
    intro other _
    rw [entry?_put]
    split
    case isTrue same => rw [same, stored]
    case isFalse => rfl

theorem of_establish (apart : Workspace.fileName name ∉ files) : Agree files d (d.establish name).1 where
  barred := establish_eq_file.symm
  entries := by
    intro other member
    have different : other ≠ Workspace.fileName name := fun same => apart (same ▸ member)
    rw [entry?_establish_of_ne different]

end Agree

/-- There is a database, and it opens as it is. -/
structure Holds (d : Directory) (name : String) (database : Database) : Prop where
  stored : d.entry? (Workspace.fileName name) = some (.database database)
  opened : (d.establish name).2 = .ok database

namespace Holds

variable {files : Set String} {new : Database}

theorem version (holds : d.Holds name database) : database.version = .initial := version_of_established holds.opened

theorem congr (holds : a.Holds name database) (agree : Agree files a b)
    (covered : Workspace.companions (Workspace.fileName name) ⊆ files) : b.Holds name database where
  stored := by
    rw [← agree.entries _ (covered (Set.mem_insert _ _))]
    exact holds.stored
  opened := by
    rw [← (agree.establish covered).1]
    exact holds.opened

theorem of_stored (accepted : Workspace.acceptsName name = true) (free : d ≠ .file)
    (named : Workspace.isFileName (Workspace.fileName name) = true)
    (changes : d.allowsChanges (Workspace.fileName name) = true) (version : database.version = .initial)
    (stored : d.entry? (Workspace.fileName name) = some (.database database)) : d.Holds name database := by
  have same : d.content (Workspace.fileName name) = .database database := by rw [content, stored]
  refine ⟨stored, establish_snd_eq_ok.mpr ⟨accepted, free, named, ⟨database, same, ?_⟩, changes⟩⟩
  exact Database.upgrade?_of_initial version

theorem put (holds : d.Holds name database) (version : new.version = .initial) :
    (d.put (Workspace.fileName name) (.database new)).Holds name new := by
  obtain ⟨accepted, -, named, -, changes⟩ := establish_snd_eq_ok.mp holds.opened
  have still := (allowsChanges_put d (Workspace.fileName name) (.database new)).trans changes
  exact of_stored accepted nofun named still version (entry?_put_self _ _ _)

theorem of_established (opened : (d.establish name).2 = .ok database) : (d.establish name).1.Holds name database := by
  obtain ⟨accepted, free, named, -, changes⟩ := establish_snd_eq_ok.mp opened
  have still : (d.establish name).1.allowsChanges (Workspace.fileName name) = true := by
    simp only [allowsChanges, isFolder, entry?_establish_of_ne (Workspace.fileName_ne_journalName name _).symm,
      entry?_establish_of_ne (Workspace.fileName_ne_changesName name _).symm]
    exact changes
  exact of_stored accepted (mt establish_eq_file.mp free) named still (version_of_established opened)
    (entry?_establish_self opened)

theorem agree_establish (holds : d.Holds name database) : Agree Set.univ d (d.establish name).1 where
  barred := establish_eq_file.symm
  entries := by
    intro other _
    by_cases same : other = Workspace.fileName name
    · rw [same, entry?_establish_self holds.opened, holds.stored]
    · rw [entry?_establish_of_ne same]

end Holds

end Directory
end Footprint
