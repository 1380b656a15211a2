import Footprint.Data
import Footprint.Log.Level
import Footprint.Log.Timestamp

namespace Footprint.Log

structure Record where
  name : String
  level : Level
  message : String
  created : Int
  action : Option Data := none
  target : Option Data := none

/-- A dash stands for a field that the record does not have. -/
def shownField (field : Option Data) : String := (field.map Data.display).getD "-"

def padRight (width : Nat) (text : String) : String :=
  text ++ String.ofList (List.replicate (width - text.length) ' ')

def Record.line (r : Record) : Except TimeFault String := do
  let time ← timestamp r.created
  return " | ".intercalate [
    time,
    padRight 8 r.level.name,
    r.name,
    "action=" ++ shownField r.action,
    "target=" ++ shownField r.target,
    r.message]

end Footprint.Log
