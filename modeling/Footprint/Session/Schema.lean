import Footprint.Session.Basic

namespace Footprint

namespace Action

def requireOpen : Action Unit := bare Statement.requireOpen

def downgrade : Action Unit := do
  modify Session.rollback
  requireOpen
  match (← get).database.downgrade (← get).schema with
  | .ok database => modify fun s => { s with database }
  | .error e => throw (.statement e)

def upgrade : Action Unit := do
  modify Session.rollback
  requireOpen
  match (← get).database.upgrade? with
  | some database => modify fun s => { s with database }
  | none =>
    modify fun s => { s with database := s.database.tracked }
    throw (.statement .tableExists)

def tableNames : Action (List String) := do
  requireOpen
  return (← get).database.tableNames

/-- Puts references into force and reads back whether they are. The setting is ignored as long as
    changes are pending. -/
def enforceParents : Action Unit := do
  requireOpen
  modify fun s => { s with enforced := s.enforced || s.pending.isNone }
  let enforced := (← get).enforced
  modify Session.commit
  if !enforced then throw .integrity

end Action

def Session.connect (database : Database) : Except Fault Session :=
  match Action.enforceParents.run.run { database } with
  | (.ok (), s) => .ok s
  | (.error _, _) => .error .integrity

end Footprint
