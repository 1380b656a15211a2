import Footprint.Entity.Kind
import Footprint.Filter
import Footprint.Sql.Query
import Footprint.Validation.Issue

namespace Footprint

inductive StatementError
  | closed
  | noDatabase
  | noTable
  | defect (defect : Sql.Defect)
  | unsupportedValue
  | severalRows
  | tableExists
  | misfit (misfit : Misfit)
  | constraint
  deriving DecidableEq, Repr

inductive Attempt
  | insert
  | update
  | lookUp
  | list
  | filter
  | scope
  | noscope
  | delete
  deriving DecidableEq, Repr

namespace Attempt

def verb : Attempt → String
  | insert => "insert"
  | update => "update"
  | lookUp => "look up"
  | list => "list"
  | filter => "filter"
  | scope => "scope"
  | noscope => "noscope"
  | delete => "delete"

def message (attempt : Attempt) (kind : Kind) : String :=
  let noun := match attempt with
    | insert | update => "row"
    | _ => "rows"
  s!"Failed to {attempt.verb} {kind.table} {noun}"

end Attempt

inductive ConnectionCause
  | invalidName
  | noDataDirectory
  | noDatabase
  deriving DecidableEq, Repr

inductive Fault
  | connection (cause : ConnectionCause)
  | migration
  | integrity
  | notFound (kind : Kind)
  | query (attempt : Attempt) (kind : Kind)
  | filter (refusal : Filter.Refusal)
  | invalid (title : String) (issues : List Issue)
  | misfit (misfit : Misfit)
  | notScopable (kind : Kind)
  | notIterable (typeName : String)
  | unsupported (attempt : Attempt) (typeName : String)
  | notAnAddress (value : Data)
  /-- A row's identity has exactly one value, under the name of its column if it has a name. -/
  | notAnIdentity
  /-- A row was removed between two steps of one operation. -/
  | vanished (kind : Kind)
  | statement (error : StatementError)
  | noOperation (kind : Kind)

namespace ConnectionCause

def message : ConnectionCause → String
  | invalidName => "Invalid workspace name (allowed: letters, digits, '_' and '-')"
  | noDataDirectory => "Failed to create data directory"
  | noDatabase => "Failed to connect to database"

end ConnectionCause

namespace Fault

def isOwn : Fault → Bool
  | connection _ | migration | integrity | notFound _ | query .. | filter _ => true
  | _ => false

def message? : Fault → Option String
  | connection cause => some cause.message
  | migration => some "Failed to run migrations"
  | integrity => some "Failed to enforce foreign keys"
  | notFound kind => some s!"No {kind.table} row matches the given key"
  | query attempt kind => some (attempt.message kind)
  | filter refusal => some refusal.message
  | invalid title issues => some (Issue.reportAll title issues)
  | misfit m => some m.message
  | notScopable kind => some s!"{kind.title} rows cannot be scoped"
  | notIterable typeName => some s!"'{typeName}' object is not iterable"
  | unsupported attempt typeName => some s!"Unsupported {attempt.verb} type: {typeName}"
  | notAnAddress value =>
    some (value.quoted ++ " does not appear to be an IPv4 or IPv6 address")
  | vanished _ | statement _ | noOperation _ | notAnIdentity => none

end Fault
end Footprint
