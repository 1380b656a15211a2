import Footprint.Command.Request
import Footprint.Settings
import Footprint.Workspace.Desk
import Footprint.Workspace.Location

namespace Footprint

abbrev Disk := List (Path × Directory)

namespace Disk

def isFolder (disk : Disk) (path : Path) : Bool :=
  disk.any fun (known, directory) => match directory with
    | .folder _ => known.isWithin path
    | _ => false

def hasFile (disk : Disk) (path : Path) : Bool :=
  disk.any fun (folder, directory) => directory.entries.any fun (name, entry) =>
    entry != .folder && path.isWithin (folder.file name)

def directory (disk : Disk) (path : Path) : Directory :=
  match disk.lookup path with
  | some .missing | none =>
    if disk.isFolder path then .folder [] else if disk.hasFile path then .file else .missing
  | some directory => directory

def put (disk : Disk) (path : Path) (directory : Directory) : Disk :=
  (disk.filter fun (other, _) => other != path) ++ [(path, directory)]

end Disk

structure Report where
  code : Nat
  output : String := ""
  errors : String := ""
  deriving DecidableEq, Repr

namespace Command

abbrev Answer := Except String (List String)

def describe (row : Row) : String :=
  match row.subject with
  | .link subdomain address => s!"#{row.id}\tsubdomain={subdomain}\tipaddr={address}"
  | subject =>
    let value := match subject.key with
      | .value text => text
      | .ragged text => text.shown
      | .pair .. => ""
    s!"#{row.id}\t{value}" ++ (if row.unscoped then "\t(unscoped)" else "")

def added (kind : Kind) (outcome : Outcome) : List String :=
  let state := if outcome.1 then "added" else "unchanged"
  [s!"{state} {kind.tag} #{outcome.2}"]

def withFilter {α : Type} (parsed : Except Filter.Refusal Filter) (next : Filter → Action α) :
    Action α :=
  match parsed with
  | .ok f => next f
  | .error refusal => throw (.filter refusal)

/-- A missing text reads as an empty list, which is no valid value of any column. -/
def valueOf : Option AnyText → Data
  | some text => .ofText text
  | none => .list []

def addressFamily? : Data → Option Family
  | .text text => Address.family? text
  | .ragged text => Address.family? text.shown
  | _ => none

def add (kind : Kind) (value : Data) (parent : Option AnyText) : Action Answer := do
  let done := fun outcome => Except.ok (added kind outcome)
  match kind, parent with
  | .domain, _ => done <$> Action.insertDomain value
  | .subdomain, none => return .error "add subdomain: the parent domain is required"
  | .subdomain, some domain => done <$> Action.insertSubdomain value (.ofText domain)
  | .address, _ => match addressFamily? value with
    | some family => done <$> Action.insertAddress (.text family.name) value
    | none => throw (.notAnAddress value)
  | .url, none => return .error "add url: the subdomain is required"
  | .url, some subdomain => do
    let id ← Action.getId .subdomain (.ofText subdomain)
    done <$> Action.insertMembers .url [("subdomain_id", .int id), ("value", value)]
  | .email, _ | .link, _ => done <$> Action.insertEmail value

def perform (engine : Sql.Engine) : Request → Action Answer
  | .add kind value parent => add kind (valueOf value) parent
  | .list kind words => do
    let f := Filter.ofWords Filter.parseOptional words
    let rows ← withFilter f fun f => Action.filter kind ⟨f, engine⟩
    return .ok (rows.map describe)
  | .scope kind words => do
    let f := Filter.ofWords Filter.parse words
    let count ← withFilter f fun f => Action.scope kind ⟨f, engine⟩
    return .ok [s!"{count} {kind.plural} in scope"]
  | .noscope kind words => do
    let f := Filter.ofWords Filter.parse words
    let count ← withFilter f fun f => Action.noscope kind ⟨f, engine⟩
    return .ok [s!"{count} {kind.plural} out of scope"]
  | .delete kind words => do
    let f := Filter.ofWords Filter.parse words
    let count ← withFilter f fun f => Action.delete kind ⟨f, engine⟩
    return .ok [s!"{count} {kind.plural} deleted"]

def errorText (fault : Fault) : String :=
  let message := (fault.message?).getD ""
  match fault with
  | .notFound _ => "Error: referenced row does not exist"
  | .invalid .. | .notAnAddress _ | .misfit (.unencodable _) => "Error: invalid input: " ++ message
  | _ => "Error: " ++ message

def printed (texts : List String) : String := String.join (texts.map (· ++ "\n"))

def failed (text : String) : Report := { code := 1, errors := printed [text] }

def executeOn (engine : Sql.Engine) (directory : Directory) (workspace file : String)
    (request : Request) : Directory × Report :=
  match Desk.take { directory } "main" workspace file (directory.openFile file) with
  | (.error fault, desk) => (desk.directory, failed (errorText fault))
  | (.ok _, desk) =>
    let (result, desk) := desk.run "main" (perform engine request)
    let report := match result with
      | some (.ok (.ok lines)) => { code := 0, output := printed lines }
      | some (.ok (.error message)) => failed message
      | some (.error fault) => failed (errorText fault)
      | none => failed ""
    (desk.directory, report)

/-- The directory named by the command line, else the one from the settings; nothing if the
    command line asks for one without naming it. -/
def Invocation.directory? (i : Invocation) (settings : Settings) : Option Path :=
  match i.dataDir with
  | some named => named.map Path.ofString
  | none => some settings.dataDir

structure Site where
  directory : Path
  workspace : String
  deriving DecidableEq, Repr

inductive Displaced
  | fault (fault : Fault)
  | lackingValue

/-- The name of the workspace is looked at before the directory. -/
def Invocation.site (i : Invocation) (settings : Settings) : Except Displaced Site :=
  match i.workspace, i.directory? settings with
  | none, _ => .error .lackingValue
  | some workspace, some directory => .ok ⟨directory, workspace⟩
  | some workspace, none => match Workspace.file? workspace with
    | .error fault => .error (.fault fault)
    | .ok _ => .error .lackingValue

/-- Carries out a request on the file in which the workspace is kept. A database that is kept
    nowhere is as good as one in a folder of its own. -/
def executeAt (engine : Sql.Engine) (disk : Disk) (location : Location) (workspace : String)
    (request : Request) : Disk × Report :=
  let unopened := (disk, failed (errorText (.connection .noDatabase)))
  match location with
  | .memory => (disk, (executeOn engine (.folder []) workspace "memory" request).2)
  | .file path => match path.parent? with
    | none => unopened
    | some (folder, file) => match disk.directory folder with
      | .folder entries =>
        if disk.isFolder path then unopened
        else
          let (directory, report) := executeOn engine (.folder entries) workspace file request
          (disk.put folder directory, report)
      | _ => unopened

def execute (engine : Sql.Engine) (disk : Disk) (site : Site) (request : Request) :
    Disk × Report :=
  match (disk.directory site.directory).prepared site.workspace with
  | .error fault => (disk, failed (errorText fault))
  | .ok made =>
    let location := Location.ofWorkspace site.directory site.workspace
    executeAt engine (disk.put site.directory made) location site.workspace request

def run? (engine : Sql.Engine) (settings : Settings) (disk : Disk) (words : List AnyText) :
    Option (Disk × Report) :=
  match read settings.defaultWorkspace words with
  | .help => some (disk, { code := 0 })
  | .usage => some (disk, { code := 2 })
  | .run invocation => match invocation.site settings with
    | .error .lackingValue => none
    | .error (.fault fault) => some (disk, failed (errorText fault))
    | .ok site => some (execute engine disk site invocation.request)

end Command
end Footprint
