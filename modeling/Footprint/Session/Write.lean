import Footprint.Session.Read

namespace Footprint.Statement

def insertRow (c : Candidate) : Statement Bool := do
  let store ← contents
  require c.misfit?
  match (← schema).insert? store c with
  | some store => replace store; return true
  | none => return false

def updateRow (kind : Kind) (id : Int) (changes : Assignment) : Statement Unit := do
  let store ← contents
  require (changes.misfit?.or (Cell.int id).misfit?)
  replace? ((← schema).update? store kind id changes)

def setScope (kind : Kind) (f : Search) (unscoped : Bool) : Statement Nat := do
  let hits ← matching (.update kind unscoped) f
  let store ← contents
  replace? ((← schema).setScope? store hits.affects unscoped)
  return hits.count store

/-- Tells the number of rows that match, without the rows that go with them. -/
def deleteRows (kind : Kind) (f : Search) : Statement Nat := do
  let hits ← matching (.delete kind) f
  let store ← contents
  replace? ((← schema).delete? store hits.affects)
  return hits.count store

end Footprint.Statement
