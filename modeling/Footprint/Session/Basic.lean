import Footprint.Session.Fault
import Footprint.Store.Constraint

namespace Footprint

inductive SchemaVersion
  | untracked
  | base
  | initial
  deriving DecidableEq, Repr

structure Tables where
  present : List Kind
  store : Store
  deriving DecidableEq, Repr

/-- A table is dropped after its rows were deleted, with what goes along with them. -/
def Tables.drop (schema : Schema) (tables : Tables) (kind : Kind) : Except StatementError Tables :=
  if !tables.present.contains kind then .error .noTable
  else match schema.delete? tables.store (·.kind == kind) with
    | some store => .ok ⟨tables.present.erase kind, store⟩
    | none => .error .constraint

structure Database where
  tables : Bool
  version : SchemaVersion
  store : Store
  deriving DecidableEq, Repr

namespace Database

def blank : Database := ⟨false, .untracked, .empty⟩

/-- A database whose tables were made without a migration. -/
def unversioned : Database := ⟨true, .untracked, .empty⟩

def tableNames (d : Database) : List String :=
  let own := if d.tables then Kind.all.map Kind.table else []
  let versions := if d.version = .untracked then [] else ["alembic_version"]
  (versions ++ own).mergeSort fun a b => a ≤ b

def upgrade? (d : Database) : Option Database :=
  if d.version = .initial then some d
  else if d.tables then none
  else some ⟨true, .initial, .empty⟩

/-- What a failed upgrade leaves: the note of the version is made before the tables. -/
def tracked (d : Database) : Database :=
  if d.version = .untracked then { d with version := .base } else d

/-- Tables that no migration made are those of the models. -/
def schema (d : Database) : Schema := if d.version = .initial then .migrated else .declared

def downgrade (d : Database) (schema : Schema) : Except StatementError Database :=
  if d.version = .initial then do
    let tables : Tables := ⟨if d.tables then Kind.all else [], d.store⟩
    let tables ← Migration.drops.foldlM (Tables.drop schema) tables
    return ⟨!tables.present.isEmpty, .base, tables.store⟩
  else .ok d.tracked

end Database

structure RowCache where
  rows : List Row := []
  deriving DecidableEq, Repr

namespace RowCache

def find? (cache : RowCache) (kind : Kind) (id : Int) : Option Row :=
  cache.rows.find? fun row => row.kind == kind && row.id == id

def refresh (cache : RowCache) (read : List Row) : RowCache :=
  let isRead := fun (row : Row) => read.any fun new => new.kind == row.kind && new.id == row.id
  ⟨read ++ cache.rows.filter fun row => !isRead row⟩

def cached (cache : RowCache) (read : List Row) : List Row :=
  read.filterMap fun row => cache.find? row.kind row.id

end RowCache

structure Session where
  database : Database
  pending : Option Store := none
  seen : RowCache := {}
  isOpen : Bool := true
  isIntact : Bool := true
  /-- Whether references are enforced; a new connection does not enforce them. -/
  enforced : Bool := false
  deriving DecidableEq, Repr

namespace Session

def schema (s : Session) : Schema := if s.enforced then s.database.schema else s.database.schema.loose

def contents (s : Session) : Store := s.pending.getD s.database.store

def commit (s : Session) : Session :=
  { s with database := { s.database with store := s.contents }, pending := none }

def rollback (s : Session) : Session := { s with pending := none, seen := {} }

def close (s : Session) : Session := { s with pending := none, seen := {}, isOpen := false }

end Session

abbrev Statement := ExceptT StatementError (StateM Session)

abbrev Action := ExceptT Fault (StateM Session)

namespace Action

variable {α : Type}

/-- Carries out statements as part of an operation. A failure takes back all pending changes,
    except that the complaint about a misfit is passed on as it is. -/
def guarded (attempt : Attempt) (kind : Kind) (body : Statement α) : Action α :=
  ExceptT.mk fun s =>
    match body.run s with
    | (.ok a, s) => (.ok a, s)
    | (.error (.misfit m), s) => (.error (.misfit m), s)
    | (.error _, s) => (.error (.query attempt kind), s.rollback)

def bare (body : Statement α) : Action α :=
  ExceptT.mk fun s =>
    match body.run s with
    | (.ok a, s) => (.ok a, s)
    | (.error (.misfit m), s) => (.error (.misfit m), s)
    | (.error e, s) => (.error (.statement e), s)

def ofExcept (result : Except Fault α) : Action α := ExceptT.mk fun s => (result, s)

end Action

namespace Statement

def requireOpen : Statement Unit := do
  if !(← get).isOpen then throw .closed
  if !(← get).isIntact then throw .noDatabase

def contents : Statement Store := do
  requireOpen
  let s ← get
  if s.database.tables then return s.contents else throw .noTable

def schema : Statement Schema := do return (← get).schema

/-- A statement is not even tried with a value that the database does not take. -/
def require : Option Misfit → Statement Unit
  | some misfit => throw (.misfit misfit)
  | none => return

def replace (store : Store) : Statement Unit := modify fun s => { s with pending := some store }

def replace? : Option Store → Statement Unit
  | some store => replace store
  | none => throw .constraint

def commit : Statement Unit := modify Session.commit

def rollback : Statement Unit := modify Session.rollback

def fetch (read : List Row) : Statement (List Row) := do
  modify fun s => { s with seen := s.seen.refresh read }
  return (← get).seen.cached read

end Statement
end Footprint
