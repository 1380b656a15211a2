import Footprint.Log.Level
import Footprint.Settings

namespace Footprint.Log

structure Logger where
  level : Level
  handlers : List Level
  deriving DecidableEq, Repr

namespace Logger

def fresh : Logger := ⟨0, []⟩

inductive Fault
  | settings (fault : Settings.Fault)
  | unknownLevel (name : String)

/-- Work on the logger. What was done before a fault stays done. -/
abbrev Work := ExceptT Fault (StateM Logger)

def levelNamed (name : String) : Work Level :=
  match Level.ofName? name with
  | some level => return level
  | none => throw (.unknownLevel name)

def setLevel (name : String) : Work Unit := do
  let level ← levelNamed name
  modify fun logger => { logger with level }

def addHandler (name : String) : Work Unit := do
  let level ← levelNamed name
  modify fun logger => { logger with handlers := logger.handlers ++ [level] }

def wantedName (settings : Settings) (level : Option String) : String :=
  level.getD (if settings.debug then Level.debug else Level.warning).name

/-- Every call reads the settings and sets the logger's level; only the first one adds a handler,
    which keeps the level it was made with. -/
def configuring (settings : Except Settings.Fault Settings) (level : Option String) : Work Unit := do
  match settings with
  | .error fault => throw (.settings fault)
  | .ok settings =>
    let name := wantedName settings level
    setLevel name
    if (← get).handlers.isEmpty then addHandler name

def call (settings : Except Settings.Fault Settings) (level : Option String) (logger : Logger) :
    Except Fault Unit × Logger :=
  (configuring settings level).run.run logger

def configure (settings : Except Settings.Fault Settings) (logger : Logger)
    (level : Option String) : Except Fault Logger :=
  let (result, after) := call settings level logger
  result.map fun _ => after

def effectiveLevel (logger : Logger) (above : Level) : Level :=
  if logger.level = 0 then above else logger.level

/-- A record has to pass the logger and a handler. One without a level is never written. -/
def emits (logger : Logger) (above level : Level) : Bool :=
  0 < level && logger.effectiveLevel above ≤ level && logger.handlers.any (· ≤ level)

end Logger

def rootName : String := Settings.defaultAppName

/-- Names outside the application's own tree are put below its root. -/
def loggerName (name : String) : String :=
  if name == rootName || (rootName ++ ".").toList.isPrefixOf name.toList then name
  else rootName ++ "." ++ name

end Footprint.Log
