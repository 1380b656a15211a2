import Footprint.Session.Fault
import Footprint.Workspace.Path

namespace Footprint.Workspace

def isNameChar (c : Char) : Bool := c.isAlphanum || c == '_' || c == '-'

/-- A line end may close the name. -/
def nameBody (name : List Char) : List Char :=
  if name.getLast? = some '\n' then name.dropLast else name

def acceptsName (name : String) : Bool :=
  let body := nameBody name.toList
  !body.isEmpty && body.all isNameChar

def fileName (name : String) : String := name ++ ".db"

def journalName (file : String) : String := file ++ "-journal"

def changesName (file : String) : String := file ++ "-wal"

def longestFileName : Nat := 255

def isFileName (name : String) : Bool := name.utf8ByteSize ≤ longestFileName

def file? (name : String) : Except Fault String :=
  if acceptsName name then .ok (fileName name) else .error (.connection .invalidName)

def path? (directory : Path) (name : String) : Except Fault Path := directory.file <$> file? name

end Footprint.Workspace
