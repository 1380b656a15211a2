import Footprint.Session.Operation
import Footprint.Workspace.Directory

namespace Footprint

inductive Place
  | memory
  | file (name : String)
  deriving DecidableEq, Repr

structure Handle where
  name : String
  place : Place
  pending : Option Store := none
  seen : RowCache := {}
  isOpen : Bool := true
  enforced : Bool := false
  deriving DecidableEq, Repr

structure Desk where
  directory : Directory := .missing
  memory : Database := .unversioned
  handles : List (String × Handle) := []
  deriving DecidableEq, Repr

namespace Desk

def inMemory (handle : String) : Desk where
  handles := [(handle, { name := "memory", place := .memory, enforced := true })]

def handle? (desk : Desk) (handle : String) : Option Handle := desk.handles.lookup handle

/-- Nothing if the file has come to hold something else. -/
def database? (desk : Desk) : Place → Option Database
  | .memory => some desk.memory
  | .file name => desk.directory.database? name

def putDatabase (desk : Desk) (place : Place) (database : Database) : Desk :=
  match place with
  | .memory => { desk with memory := database }
  | .file name =>
    if (desk.database? (.file name)).isSome then
      { desk with directory := desk.directory.put name (.database database) }
    else desk

def putHandle (desk : Desk) (name : String) (handle : Handle) : Desk :=
  if (desk.handle? name).isSome then
    let choose := fun (other, old) => (other, if other = name then handle else old)
    { desk with handles := desk.handles.map choose }
  else { desk with handles := desk.handles ++ [(name, handle)] }

def session (desk : Desk) (handle : Handle) : Session where
  database := (desk.database? handle.place).getD .blank
  isIntact := (desk.database? handle.place).isSome
  pending := handle.pending
  seen := handle.seen
  isOpen := handle.isOpen
  enforced := handle.enforced

def putSession (desk : Desk) (name : String) (handle : Handle) (s : Session) : Desk :=
  (desk.putDatabase handle.place s.database).putHandle name
    { handle with pending := s.pending, seen := s.seen, isOpen := s.isOpen, enforced := s.enforced }

def run {α : Type} (desk : Desk) (name : String) (action : Action α) :
    Option (Except Fault α) × Desk :=
  match desk.handle? name with
  | none => (none, desk)
  | some handle =>
    let (result, s) := (action.run.run (desk.session handle))
    (some result, desk.putSession name handle s)

/-- A handle on what was opened; on success it replaces an older one of its name. -/
def take (desk : Desk) (name workspace file : String) :
    Directory × Except Fault Database → Except Fault String × Desk
  | (directory, opened) =>
    match opened.bind Session.connect with
    | .ok s =>
      let handle : Handle := { name := workspace, place := .file file, enforced := s.enforced }
      (.ok workspace, { desk with directory }.putHandle name handle)
    | .error fault => (.error fault, { desk with directory })

def openWorkspace (desk : Desk) (name workspace : String) : Except Fault String × Desk :=
  desk.take name workspace (Workspace.fileName workspace) (desk.directory.establish workspace)

def close : Action Unit := modify Session.close

/-- Puts a file with some content, or a folder, into the directory; without a path it stands in
    the directory's place. -/
def prepare (desk : Desk) (path : String) (isFolder : Bool) (content : String) :
    Except Obstacle Desk := do
  let entry := if isFolder then .folder else .ofContent content
  let directory ←
    if path.isEmpty then desk.directory.replacedBy isFolder
    else desk.directory.putAt (Path.ofString path).parts entry
  return { desk with directory }

end Desk
end Footprint
