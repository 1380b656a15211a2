import Footprint.Session.Schema
import Footprint.Workspace.Name

namespace Footprint

inductive Entry
  | folder
  | foreign
  | database (database : Database)
  deriving DecidableEq, Repr

/-- A file of at most one byte counts as an empty database. -/
def Entry.ofContent (content : String) : Entry :=
  if content.utf8ByteSize ≤ 1 then .database .blank else .foreign

inductive Obstacle
  | file
  | folder
  deriving DecidableEq, Repr

inductive Directory
  | missing
  | file
  | folder (entries : List (String × Entry))
  deriving DecidableEq, Repr

namespace Directory

def entries : Directory → List (String × Entry)
  | folder entries => entries
  | _ => []

def entry? (d : Directory) (file : String) : Option Entry := d.entries.lookup file

def put (d : Directory) (file : String) (entry : Entry) : Directory :=
  let others := d.entries.filter fun (name, _) => name != file
  folder (others ++ [(file, entry)])

def database? (d : Directory) (file : String) : Option Database :=
  match d.entry? file with
  | some (.database database) => some database
  | _ => none

def workspaceFiles : Directory → Option (List String)
  | folder entries =>
    let names := (entries.map Prod.fst).filter fun name => ".db".toList.isSuffixOf name.toList
    some (names.mergeSort fun a b => a ≤ b)
  | _ => none

def isFolder (d : Directory) (file : String) : Bool := d.entry? file = some .folder

def putOver (d : Directory) (name : String) (entry : Entry) : Except Obstacle Directory :=
  match d.entry? name, entry with
  | none, _ | some .folder, .folder => .ok (d.put name entry)
  | some .folder, _ => .error .folder
  | some _, .folder => .error .file
  | some _, _ => .ok (d.put name entry)

/-- Puts a file or folder at a path. The folder that it lies in is made; of folders in folders
    only the outermost one is kept. -/
def putAt (d : Directory) (path : List String) (entry : Entry) : Except Obstacle Directory :=
  match d, path with
  | file, _ => .error .file
  | d, [] => .ok d
  | d, [name] => d.putOver name entry
  | d, name :: _ => d.putOver name .folder

def replacedBy (isFolder : Bool) : Directory → Except Obstacle Directory
  | missing => .ok (if isFolder then folder [] else file)
  | file => if isFolder then .error .file else .ok file
  | folder entries => if isFolder then .ok (folder entries) else .error .folder

/-- Whether changes to a file can be made: they need files of their own beside it. -/
def allowsChanges (d : Directory) (file : String) : Bool :=
  Workspace.isFileName (Workspace.journalName file) && !d.isFolder (Workspace.journalName file) &&
    !d.isFolder (Workspace.changesName file)

def content (d : Directory) (file : String) : Entry :=
  match d.entry? file with
  | some entry => entry
  | none => .database .blank

def connected (d : Directory) (file : String) : Except Fault Entry :=
  if !Workspace.isFileName file || d.isFolder file then .error (.connection .noDatabase)
  else .ok (d.content file)

def migrated (d : Directory) (file : String) : Entry → Except Fault Database
  | .database database =>
    match database.upgrade? with
    | some database => if d.allowsChanges file then .ok database else .error .migration
    | none => .error .migration
  | _ => .error .migration

/-- Opens a file of the directory. The file is made first and stays when the rest fails. -/
def openFile (d : Directory) (file : String) : Directory × Except Fault Database :=
  match d.connected file with
  | .error fault => (d, .error fault)
  | .ok entry =>
    let d := d.put file entry
    match d.migrated file entry with
    | .ok database => (d.put file (.database database), .ok database)
    | .error fault => (d, .error fault)

def prepared (d : Directory) (name : String) : Except Fault Directory :=
  if !Workspace.acceptsName name then .error (.connection .invalidName)
  else match d with
    | file => .error (.connection .noDataDirectory)
    | d => .ok (folder d.entries)

def establish (d : Directory) (name : String) : Directory × Except Fault Database :=
  match d.prepared name with
  | .error fault => (d, .error fault)
  | .ok d => d.openFile (Workspace.fileName name)

end Directory
end Footprint
