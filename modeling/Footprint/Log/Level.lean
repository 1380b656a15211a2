namespace Footprint.Log

abbrev Level := Int

namespace Level

def debug : Level := 10
def warning : Level := 30

def named : List (String × Level) :=
  [("NOTSET", 0), ("DEBUG", 10), ("INFO", 20), ("WARNING", 30), ("ERROR", 40), ("CRITICAL", 50)]

def alternatives : List (String × Level) := [("WARN", 30), ("FATAL", 50)]

def ofName? (name : String) : Option Level := (named ++ alternatives).lookup name

def name (level : Level) : String :=
  match named.find? fun (_, l) => l == level with
  | some (name, _) => name
  | none => s!"Level {level}"

end Level
end Footprint.Log
