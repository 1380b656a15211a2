import Footprint.Sql.Query
import Footprint.Store.Basic

namespace Footprint.Sql

structure Hits where
  affects : Row → Bool
  /-- Whether the statement tells their number. -/
  isCounted : Bool := true

namespace Hits

def within (hits : Hits) (kind : Kind) : Hits :=
  { hits with affects := fun row => row.kind == kind && hits.affects row }

def count (hits : Hits) (store : Store) : Nat :=
  if hits.isCounted then (store.rows.filter hits.affects).length else 0

end Hits

/-- Answers the texts that the grammar has no part for: functions, arithmetic, `glob`, `case`, subqueries and all else
    that a database may take behind a statement. The tables alone decide what such a text comes to: one that asks for
    more, such as `random()` or `changes()`, is left out. -/
structure Engine where
  select (kind : Kind) (text : String) (store : Store) : Except Defect (List Row)
  change (q : Query) (text : String) (store : Store) : Except Defect Hits

namespace Query

/-- The condition, unless the grammar alone does not tell what the text comes to. -/
def ruled? (q : Query) (text : String) (store : Store) : Option (Except Defect Expr) :=
  match q.condition text with
  | .ok condition => if condition.strains (store.table q.kind) then none else some (.ok condition)
  | .error .foreign => none
  | .error defect => some (.error defect)

def hits (q : Query) (engine : Engine) (text : String) (store : Store) : Except Defect Hits :=
  match q.ruled? text store with
  | some found => found.map fun condition => Hits.within ⟨condition.matchesRow, true⟩ q.kind
  | none => (engine.change q text store).map (·.within q.kind)

def rows (kind : Kind) (engine : Engine) (text : String) (store : Store) : Except Defect (List Row) :=
  match (select kind).ruled? text store with
  | some found => found.map fun condition => (store.table kind).filter condition.matchesRow
  | none => engine.select kind text store

def returning? (q : Query) (text : String) : Option Expr := do
  guard (Mark.names text.toList).isEmpty
  let (tokens, rest) ← Token.lex text.toList
  match tokens.span (· != .keyword .returning) with
  | (tokens, [_, .name part]) =>
    let _ ← part.column? q.kind
    (q.conditionOf tokens rest).toOption
  | _ => none

end Query

namespace Engine

/-- A change that returns something from its rows does not count them. All else is refused. -/
def basic : Engine where
  select _ _ _ := .error .foreign
  change q text store := match q.returning? text with
    | some condition =>
      if condition.strains (store.table q.kind) then .error .foreign
      else .ok ⟨condition.matchesRow, false⟩
    | none => .error .foreign

end Engine
end Footprint.Sql
