import Footprint.Validation.Scalar
import Footprint.Workspace.Path

namespace Footprint

structure Settings where
  appName : String
  debug : Bool
  dataDir : Path
  defaultWorkspace : String
  deriving DecidableEq, Repr

abbrev Environment := List (String × String)

namespace Environment

/-- Of several spellings of one name the last one counts. -/
def find? (env : Environment) (name : String) : Option String :=
  (env.reverse.find? fun (given, _) => given.toList.map Text.fold == name.toList).map Prod.snd

end Environment

structure Homes where
  own : String
  accounts : List (String × String) := []

namespace Homes

/-- The account of a line in the usual list of accounts: its name and, sixth, its directory. -/
def account? (line : String) : Option (String × String) :=
  match Text.splitOn ':' line.toList with
  | [name, _, _, _, _, home, _] => some (String.ofList name, String.ofList home)
  | _ => none

def find? (homes : Homes) (env : Environment) (name : String) : Option String :=
  if name.isEmpty then some ((env.lookup "HOME").getD homes.own) else homes.accounts.lookup name

end Homes

namespace Settings

inductive Fault
  | invalid (issues : List Issue)
  | noHome

def Fault.message : Fault → String
  | invalid issues => Issue.reportAll "Settings" issues
  | noHome => "Could not determine home directory."

def defaultAppName : String := "recongraph"

def defaultDataDir (homes : Homes) : Path :=
  (Path.ofString homes.own).append (Path.ofString (".local/share/" ++ defaultAppName))

def readDebug (env : Environment) : Checked Bool :=
  match env.find? "debug" with
  | some text => Members.read Rule.flag "DEBUG" (.text text)
  | none => .valid false

def readDataDir (homes : Homes) (env : Environment) : Except Fault Path :=
  match env.find? "data_dir" with
  | none => .ok (defaultDataDir homes)
  | some text => match (Path.ofString text).expandHome? (homes.find? env) with
    | some path => .ok path
    | none => .error .noHome

/-- A missing home directory is reported before any other issue. -/
def read (homes : Homes) (env : Environment) : Except Fault Settings := do
  let dataDir ← readDataDir homes env
  match readDebug env with
  | .invalid issues => .error (.invalid issues)
  | .valid debug => return {
      appName := (env.find? "app_name").getD defaultAppName
      debug
      dataDir
      defaultWorkspace := (env.find? "default_workspace").getD "default" }

end Settings
end Footprint
