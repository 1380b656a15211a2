import Footprint.Sql.Value

namespace Footprint.Sql

inductive Comparison
  | eq
  | ne
  | lt
  | le
  | gt
  | ge
  | is
  | isNot
  deriving DecidableEq, Repr

namespace Comparison

def holds : Comparison → Ordering → Bool
  | eq, o | is, o => o == .eq
  | ne, o | isNot, o => o != .eq
  | lt, o => o == .lt
  | le, o => o != .gt
  | gt, o => o == .gt
  | ge, o => o != .lt

/-- `is` and `is not` take null for a value like any other. -/
def eval (op : Comparison) (affinity : Affinity) (a b : Value) : Option Bool :=
  match affinity.compare? a b with
  | some order => some (op.holds order)
  | none => match op with
    | is => some (a == .null && b == .null)
    | isNot => some !(a == .null && b == .null)
    | _ => none

end Comparison

namespace Truth

def and : Option Bool → Option Bool → Option Bool
  | some false, _ | _, some false => some false
  | some true, some true => some true
  | _, _ => none

def or : Option Bool → Option Bool → Option Bool
  | some true, _ | _, some true => some true
  | some false, some false => some false
  | _, _ => none

def not (a : Option Bool) : Option Bool := a.map (!·)

end Truth

end Footprint.Sql
