import Footprint.Entity.Row
import Footprint.Sql.Comparison

namespace Footprint.Sql

inductive Expr
  | literal (value : Value)
  | boolean (value : Bool)
  | column (column : Column)
  | compare (op : Comparison) (left right : Expr)
  | isTruth (operand : Expr) (expected : Bool)
  | like (operand pattern : Expr)
  | between (operand low high : Expr)
  | member (operand : Expr) (choices : List Expr)
  | and (left right : Expr)
  | or (left right : Expr)
  | not (operand : Expr)
  | negate (operand : Expr)

def affinityOf : Column → Affinity
  | .id | .domainId | .subdomainId | .addressId | .unscoped => .numeric
  | .family | .value => .text
  | .field a => match a.type with
    | .text => .text
    | .bytes => .blob
    | .flag | .integer | .number => .numeric

namespace Expr

def affinity : Expr → Affinity
  | column c => affinityOf c
  | _ => .none

/-- Membership compares under the affinity of the left side alone. -/
def memberTruth (affinity : Affinity) (value : Value) (choices : List Value) : Option Bool :=
  choices.foldr (fun choice found => Truth.or (Comparison.eq.eval affinity value choice) found)
    (some false)

mutual

def eval (row : Row) : Expr → Value
  | literal v => v
  | boolean b => .ofTruth (some b)
  | column c => .ofCell (row.cell c)
  | compare op l r =>
    .ofTruth (op.eval (.ofSides l.affinity r.affinity) (eval row l) (eval row r))
  | isTruth e expected => .ofTruth (some ((eval row e).truth? == some expected))
  | like e pattern => (eval row e).like (eval row pattern)
  | between e low high =>
    .ofTruth (Truth.and
      (Comparison.ge.eval (.ofSides e.affinity low.affinity) (eval row e) (eval row low))
      (Comparison.le.eval (.ofSides e.affinity high.affinity) (eval row e) (eval row high)))
  | member e choices => .ofTruth (memberTruth e.affinity (eval row e) (evalAll row choices))
  | and l r => .ofTruth (Truth.and (eval row l).truth? (eval row r).truth?)
  | or l r => .ofTruth (Truth.or (eval row l).truth? (eval row r).truth?)
  | not e => .ofTruth (Truth.not (eval row e).truth?)
  | negate e => (eval row e).negate

def evalAll (row : Row) : List Expr → List Value
  | [] => []
  | e :: rest => eval row e :: evalAll row rest

end

/-- A row matches if the condition is true, not if it is unknown. -/
def matchesRow (e : Expr) (row : Row) : Bool := (e.eval row).truth? == some true

def isLongIn (rows : List Row) : Expr → Bool
  | literal value => value.isLong
  | e => rows.any fun row => (e.eval row).isLong

mutual

/-- Whether there is a pattern that is too long. It depends on the order of evaluation whether such a pattern is come
    upon. -/
def strains (rows : List Row) : Expr → Bool
  | literal _ | boolean _ | column _ => false
  | like e pattern => pattern.isLongIn rows || e.strains rows || pattern.strains rows
  | compare _ l r | and l r | or l r => l.strains rows || r.strains rows
  | between e low high => e.strains rows || low.strains rows || high.strains rows
  | member e choices => e.strains rows || anyStrains rows choices
  | isTruth e _ | not e | negate e => e.strains rows

def anyStrains (rows : List Row) : List Expr → Bool
  | [] => false
  | e :: rest => e.strains rows || anyStrains rows rest

end

end Expr
end Footprint.Sql
