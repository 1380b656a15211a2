import Footprint.Session.Upsert
import Footprint.Validation.Revision

namespace Footprint.Action

def unsupported {α : Type} (attempt : Attempt) (value : Data) : Action α :=
  throw (.unsupported attempt value.typeName)

/-! Inserts -/

def candidate (kind : Kind) (members : Members) : Action Candidate :=
  match Candidate.read kind members with
  | .valid submission => return submission.candidate
  | .invalid issues => throw (.invalid (Candidate.title kind) issues)

def insert (c : Candidate) : Action Outcome := Upsert.run c

/-- Inserts after a lookup that was too early to see the row. -/
def insertUnseen (c : Candidate) : Action Outcome := Upsert.storeOrMerge c

def insertMembers (kind : Kind) (members : Members) : Action Outcome := do
  insert (← candidate kind members)

def insertDomain (value : Data) : Action Outcome := insertMembers .domain [("value", value)]

def insertEmail (value : Data) : Action Outcome := insertMembers .email [("value", value)]

def insertAddress (family value : Data) : Action Outcome :=
  insertMembers .address [("family", family), ("value", value)]

def insertLink (subdomain address : Data) : Action Outcome :=
  insertMembers .link [("subdomain_id", subdomain), ("ip_addr_id", address)]

/-! Lookups -/

def getRow? (kind : Kind) (key : Data) : Action (Option Row) := do
  let criteria ← ofExcept (kind.criteria key)
  guarded .lookUp kind (Statement.findRow kind criteria)

def getId? (kind : Kind) (key : Data) : Action (Option Int) := do
  let criteria ← ofExcept (kind.criteria key)
  guarded .lookUp kind (Statement.findId kind criteria)

def getId (kind : Kind) (key : Data) : Action Int := do
  match ← getId? kind key with
  | some id => return id
  | none => throw (.notFound kind)

/-- The one value of an identity, which may stand in a list or under the column's name. -/
def identity? : Data → Option Data
  | .list [id] => some id
  | .object [(name, id)] => if name = Column.id.name then some id else none
  | .list _ | .object _ => none
  | id => some id

def getById? (kind : Kind) (id : Data) : Action (Option Row) :=
  match identity? id with
  | some id => bare (Statement.findRow kind [(.id, id)])
  | none => throw .notAnIdentity

def list (kind : Kind) : Action (List Row) := guarded .list kind (Statement.listRows kind)

def filter (kind : Kind) (f : Search) : Action (List Row) :=
  guarded .filter kind (Statement.filterRows kind f)

/-- The parent domain is created if it is unknown, and stays if the subdomain fails. -/
def insertSubdomain (value domain : Data) : Action Outcome := do
  let id ← match ← getId? .domain domain with
    | some id => pure id
    | none => Prod.snd <$> insertDomain domain
  insertMembers .subdomain [("domain_id", .int id), ("value", value)]

/-! Updates -/

def update (r : Revision) : Action Int := do
  if r.changes.isEmpty then return r.id
  guarded .update r.kind do
    Statement.updateRow r.kind r.id r.changes
    Statement.commit
  return r.id

/-! Operations on many rows -/

def bulk (attempt : Attempt) (kind : Kind) (body : Statement Nat) : Action Nat := do
  let count ← guarded attempt kind do
    let count ← body
    Statement.commit
    return count
  modify fun s => { s with seen := {} }
  return count

def requireScopable (kind : Kind) : Action Unit := do
  if !kind.scopable then throw (.notScopable kind)

def scope (kind : Kind) (f : Search) : Action Nat := do
  requireScopable kind
  bulk .scope kind (Statement.setScope kind f false)

def noscope (kind : Kind) (f : Search) : Action Nat := do
  requireScopable kind
  bulk .noscope kind (Statement.setScope kind f true)

def delete (kind : Kind) (f : Search) : Action Nat :=
  bulk .delete kind (Statement.deleteRows kind f)

/-! The same without a commit -/

def scopePending (kind : Kind) (f : Search) (unscoped : Bool) : Action Nat := do
  if !kind.scopable then throw (.noOperation kind)
  bare (Statement.setScope kind f unscoped)

def deletePending (kind : Kind) (f : Search) : Action Nat := bare (Statement.deleteRows kind f)

def commit : Action Unit := modify Session.commit

def rollback : Action Unit := modify Session.rollback

/-! Views -/

def count (kind : Kind) : Action Nat := do return (← list kind).length

def summaries (kind : Kind) : Action (List String) := do return (← list kind).map Row.summary

structure Relations where
  domain : Option String := none
  subdomain : Option String := none
  subdomains : Option (List Int) := none
  urls : Option (List Int) := none

def value? (row : Row) : Option String :=
  match row.key with
  | .value text => some text
  | .ragged _ | .pair .. => none

def relationsIn (store : Store) (row : Row) : Relations :=
  let children := fun kind => ((store.table kind).filter (·.isChildOf row)).map Row.id
  match row.subject with
  | .domain _ => { subdomains := some (children .subdomain) }
  | .subdomain domain _ =>
    { domain := (store.find? .domain domain).bind value?, urls := some (children .url) }
  | .url subdomain _ => { subdomain := (store.find? .subdomain subdomain).bind value? }
  | _ => {}

def relations (kind : Kind) (key : Data) : Action (Option Relations) := do
  match ← getRow? kind key with
  | none => return none
  | some row => return some (relationsIn (← bare Statement.contents) row)

end Footprint.Action
