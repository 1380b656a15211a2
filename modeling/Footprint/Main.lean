import Footprint.Command.Run
import Footprint.Workspace.Snapshot

namespace Footprint.Program

def usage : String :=
  "usage: recongraph [-h] [-w WORKSPACE] [--data-dir DIRECTORY] [-v] " ++
    "\x7badd,list,scope,noscope,delete\x7d ..."

def settingNames : List String :=
  ["app_name", "debug", "data_dir", "default_workspace", "APP_NAME", "DEBUG", "DATA_DIR",
    "DEFAULT_WORKSPACE", "HOME"]

def environment : IO Environment :=
  settingNames.filterMapM fun name => do
    return (← IO.getEnv name).map fun value => (name, value)

def accounts : IO (List (String × String)) := do
  match ← (IO.FS.lines "/etc/passwd").toBaseIO with
  | .ok lines => return lines.toList.filterMap Homes.account?
  | .error _ => return []

def isFolder (path : String) : IO Bool := do
  let found : Except IO.Error Bool ← ((IO.FS.realPath path) >>= fun place => place.isDir).toBaseIO
  return found.toOption.getD false

def contents? (path : String) : IO (Option ByteArray) := do
  match ← (IO.FS.readBinFile path).toBaseIO with
  | .ok bytes => return some bytes
  | .error _ => return none

def entry? (path : String) : IO (Option Entry) := do
  if ← isFolder path then return some .folder
  match ← contents? path with
  | none => return none
  | some bytes =>
    match (String.fromUTF8? bytes).bind Database.decode? with
    | some database => return some (.database database)
    | none => return some .foreign

def folder (path : Path) (file : String) : IO Directory := do
  let names := [file, Workspace.journalName file, Workspace.changesName file]
  return .folder (← names.filterMapM fun name => do
    return (← entry? (path.file name).toString).map fun entry => (name, entry))

/-- The directory of the workspace, which is made if it is missing. One that cannot be made counts
    as one with a file in its place. -/
def made (site : Command.Site) : IO Directory := do
  if !Workspace.acceptsName site.workspace then return .missing
  if ← isFolder site.directory.toString then return .folder []
  match ← (IO.FS.createDirAll site.directory.toString).toBaseIO with
  | .ok _ => return .folder []
  | .error _ => return .file

def place? (site : Command.Site) : Option (Path × String) :=
  match Location.ofWorkspace site.directory site.workspace with
  | .memory => none
  | .file path => path.parent?

def disk (site : Command.Site) : IO Disk := do
  let disk : Disk := [(site.directory, ← made site)]
  match place? site with
  | none => return disk
  | some (path, file) =>
    if ← isFolder path.toString then return disk.put path (← folder path file) else return disk

def save (site : Command.Site) (disk : Disk) : IO Unit := do
  match place? site with
  | none => return
  | some (path, file) => match (disk.directory path).database? file with
    | some database => IO.FS.writeFile (path.file file).toString database.encode
    | none => return

def present (report : Report) : IO UInt32 := do
  IO.print report.output
  IO.eprint report.errors
  return report.code.toUInt32

def carryOut (settings : Settings) (invocation : Command.Invocation) : IO UInt32 := do
  match invocation.site settings with
  | .error (.fault fault) => present (Command.failed (Command.errorText fault))
  | .error .lackingValue => present (Command.failed "Error: an option has no value")
  | .ok site =>
    let (after, report) := Command.execute .basic (← disk site) site invocation.request
    save site after
    present report

def run (words : List String) : IO UInt32 := do
  let env ← environment
  let homes : Homes := { own := (env.lookup "HOME").getD "/", accounts := ← accounts }
  match Settings.read homes env with
  | .error fault =>
    IO.eprintln fault.message
    return 1
  | .ok settings =>
    match Command.read settings.defaultWorkspace (words.map AnyText.plain) with
    | .help =>
      IO.println usage
      return 0
    | .usage =>
      IO.eprintln usage
      return 2
    | .run invocation => carryOut settings invocation

end Footprint.Program

def main (words : List String) : IO UInt32 := Footprint.Program.run words
