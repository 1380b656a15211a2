import Footprint.Session.Write

namespace Footprint

namespace Candidate

def criteria (c : Candidate) : List Criterion := c.key.criteria c.kind

def changes (c : Candidate) (row : Row) : Assignment :=
  c.supplied.filter fun (a, cell) => !(row.cell (.field a)).equals cell

end Candidate

abbrev Outcome := Bool × Int

namespace Upsert

def lookup (c : Candidate) : Action (Option Row) :=
  .guarded .insert c.kind (Statement.findRow c.kind c.criteria)

def lookupId (c : Candidate) : Action (Option Int) :=
  .guarded .insert c.kind (Statement.findId c.kind c.criteria)

/-- Stores the row and commits, or is rejected and takes back what was pending. -/
def store (c : Candidate) : Action Bool :=
  .guarded .insert c.kind do
    if ← Statement.insertRow c then
      Statement.commit
      return true
    else
      Statement.rollback
      return false

def merge (c : Candidate) (row : Row) : Action Outcome := do
  let changes := c.changes row
  if changes.isEmpty then return (false, row.id)
  .guarded .update c.kind do
    Statement.updateRow c.kind row.id changes
    Statement.commit
  return (true, row.id)

def resolve (c : Candidate) : Action Int := do
  match ← lookupId c with
  | some id => return id
  | none => throw (.notFound c.kind)

def fail {α : Type} (c : Candidate) : Action α := do
  modify Session.rollback
  throw (.query .insert c.kind)

/-- Goes on after a rejection. If the key turns out to be known, another session was faster. -/
def afterRejection (c : Candidate) : Action Outcome := do
  match ← lookupId c with
  | none => fail c
  | some _ =>
    if c.kind = .link then return (false, ← resolve c)
    else match ← lookup c with
      | some row => merge c row
      | none => throw (.vanished c.kind)

def storeOrMerge (c : Candidate) : Action Outcome := do
  if ← store c then return (true, ← resolve c) else afterRejection c

/-- A link has nothing to merge. -/
def run (c : Candidate) : Action Outcome := do
  if c.kind = .link then
    match ← lookupId c with
    | some id => return (false, id)
    | none => storeOrMerge c
  else
    match ← lookup c with
    | some row => merge c row
    | none => storeOrMerge c

end Upsert
end Footprint
