import Footprint.Store.Basic
import Footprint.Store.Schema

namespace Footprint

/-- A null agrees with nothing. -/
def Row.agrees (row other : Row) (columns : List Column) : Bool :=
  columns.all fun column =>
    row.cell column != .null && (row.cell column).equals (other.cell column)

namespace ColumnRule

def leadsTo (rule : ColumnRule) (row other : Row) : Bool :=
  rule.reference.any fun reference =>
    other.kind == reference.target && .int other.id == row.cell rule.column

def follows (rule : ColumnRule) (row other : Row) : Bool :=
  rule.reference.any Reference.cascades && rule.leadsTo row other

def allows (rule : ColumnRule) (tables : Store) (row : Row) : Bool :=
  if row.cell rule.column = .null then rule.isNullable
  else rule.reference.isNone || tables.rows.any (rule.leadsTo row)

end ColumnRule

def TableRule.keys (rule : TableRule) : List (List Column) :=
  let single := rule.columns.filter fun c => c.isPrimary || c.isUnique
  single.map (fun c => [c.column]) ++ rule.unique

namespace Schema

def allows (schema : Schema) (tables : Store) (others : List Row) (written : Column → Bool)
    (row : Row) : Bool :=
  let rule := schema.table row.kind
  let isKept := fun key => !others.any fun other => other.kind == row.kind && row.agrees other key
  (rule.columns.all fun c => !written c.column || c.allows tables row) &&
    rule.keys.all fun key => !key.any written || isKept key

def insert? (schema : Schema) (store : Store) (c : Candidate) : Option Store :=
  let row := Row.create (store.nextId c.kind) c.subject c.supplied
  let tables : Store := ⟨store.rows ++ [row]⟩
  if schema.allows tables store.rows (fun _ => true) row then some tables else none

def modify? (schema : Schema) (store : Store) (written : List Column) (affected : Row → Bool)
    (change : Row → Row) : Option Store :=
  let tables := store.modify affected change
  let isAllowed := fun row =>
    schema.allows tables (tables.rows.filter (·.id != row.id)) written.contains row
  if (store.rows.filter affected).all (isAllowed ∘ change) then some tables else none

def update? (schema : Schema) (store : Store) (kind : Kind) (id : Int) (changes : Assignment) :
    Option Store :=
  let written := changes.map fun (a, _) => .field a
  schema.modify? store written (fun row => row.kind == kind && row.id == id) (·.write changes)

def setScope? (schema : Schema) (store : Store) (affected : Row → Bool) (unscoped : Bool) :
    Option Store :=
  schema.modify? store [.unscoped] affected fun row => { row with unscoped }

def goes (schema : Schema) (store : Store) (matched : Row → Bool) : Nat → Row → Bool
  | 0, row => matched row
  | links + 1, row =>
    matched row || store.rows.any fun other =>
      ((schema.table row.kind).columns.any fun c => c.follows row other) &&
        schema.goes store matched links other

/-- Removes the matched rows and what goes along with them, unless a row that stays refers to one
    of those. References lead from table to table and never back, so that no chain of them is
    longer than there are tables. -/
def delete? (schema : Schema) (store : Store) (matched : Row → Bool) : Option Store :=
  let isGone := schema.goes store matched Kind.all.length
  let gone := store.rows.filter isGone
  let left := store.rows.filter fun row => !isGone row
  let isHeld := fun row => gone.any fun other =>
    (schema.table row.kind).columns.any fun c => c.leadsTo row other
  if left.any isHeld then none else some ⟨left⟩

end Schema
end Footprint
