import Footprint.Session.Basic
import Footprint.Sql.Engine

namespace Footprint

/-- A filter, with the engine that answers what it asks. -/
structure Search extends Filter where
  engine : Sql.Engine

def Search.ofText (text : String) : Search := ⟨⟨text⟩, .basic⟩

abbrev Criterion := Column × Data

namespace Kind

def keyItems? : Data → Option (List Data)
  | .text s => some (s.toList.map fun c => .text (String.singleton c))
  | .ragged r => some (r.points.map fun p => .ofText (.ofPoints [p]))
  | .bytes b => some (b.map fun x => .int x.toNat)
  | .list items => some items
  | .object members => some (members.map fun (name, _) => .text name)
  | _ => none

/-- Items beyond the columns of the key are ignored and missing ones do not restrict. -/
def criteria (kind : Kind) (key : Data) : Except Fault (List Criterion) :=
  match kind with
  | link => match keyItems? key with
    | some items => .ok (kind.keyColumns.zip items)
    | none => .error (.notIterable key.typeName)
  | _ => .ok (kind.keyColumns.zip [key])

end Kind

namespace Key

def toData : Key → Data
  | value text => .text text
  | ragged text => .ragged text
  | pair a b => .list [.int a, .int b]

def criteria (kind : Kind) : Key → List Criterion
  | value text => kind.keyColumns.zip [.text text]
  | ragged text => kind.keyColumns.zip [.ragged text]
  | pair a b => kind.keyColumns.zip [.int a, .int b]

end Key

namespace Statement

def parameter : Data → Statement Sql.Value
  | .null => return .null
  | .bool b => return .int (if b then 1 else 0)
  | .int n => if Word.holds n then return .int n else throw (.misfit .oversizedInteger)
  | .real .nan => return .null
  | .real x => return .real x
  | .text s => return .text s
  | .ragged r => throw (.misfit (.unencodable r))
  | .bytes b => return .blob b
  | .list _ | .object _ => throw .unsupportedValue

def parameters (criteria : List Criterion) : Statement (List (Column × Sql.Value)) :=
  criteria.mapM fun (column, data) => return (column, ← parameter data)

def meets (row : Row) (criteria : List (Column × Sql.Value)) : Bool :=
  criteria.all fun (column, value) =>
    (Sql.affinityOf column).compare? (.ofCell (row.cell column)) value == some .eq

def select (kind : Kind) (criteria : List Criterion) : Statement (List Row) := do
  let store ← contents
  let values ← parameters criteria
  return (store.table kind).filter fun row => meets row values

def atMostOne : List Row → Statement (Option Row)
  | [] => return none
  | [row] => return some row
  | _ => throw .severalRows

def findRow (kind : Kind) (criteria : List Criterion) : Statement (Option Row) := do
  let row ← atMostOne (← select kind criteria)
  return (← fetch row.toList).head?

def findId (kind : Kind) (criteria : List Criterion) : Statement (Option Int) := do
  return (← atMostOne (← select kind criteria)).map Row.id

def listRows (kind : Kind) : Statement (List Row) := do
  fetch ((← contents).table kind)

def search {α : Type} (query : Sql.Query) (f : Filter)
    (answer : String → Store → Except Sql.Defect α) : Statement α := do
  if !(← get).isOpen then throw .closed
  require (query.misfit? f.script)
  match answer f.text (← contents) with
  | .ok found => return found
  | .error defect => throw (.defect defect)

def matching (query : Sql.Query) (f : Search) : Statement Sql.Hits :=
  search query f.toFilter (query.hits f.engine)

def filterRows (kind : Kind) (f : Search) : Statement (List Row) := do
  fetch (← search (.select kind) f.toFilter (Sql.Query.rows kind f.engine))

end Statement
end Footprint
