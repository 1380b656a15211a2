import Footprint.Proofs.Entity.Row
import Footprint.Proofs.Number.Numeral
import Footprint.Proofs.Session.Lookup

namespace Footprint

def Column.type : Column → AttributeType
  | id | domainId | subdomainId | addressId => .integer
  | family | value => .text
  | field a => a.type
  | unscoped => .flag

/-- What a column is asked for. -/
inductive Wanted
  | text (s : String)
  | number (n : Int)
  deriving DecidableEq, Repr

namespace Wanted

def spelled : Wanted → String
  | text s => s
  | number n => toString n

def cell : Wanted → Cell
  | text s => .text s
  | number n => .int n

/-- Texts are asked for in columns of texts, and integers of 64 bits in columns of integers or flags. -/
def suits : AttributeType → Wanted → Bool
  | .text, text s => !s.toList.contains '\x00'
  | .integer, number n | .flag, number n => Word.holds n
  | _, _ => false

end Wanted

structure Equation (kind : Kind) where
  column : Column
  wanted : Wanted
  named : column ∈ kind.columns
  suits : wanted.suits column.type = true

inductive Connective
  | and
  | or
  deriving DecidableEq, Repr

variable {kind : Kind} {row : Row}

namespace Equation

/-- Flags are asked for by the numbers zero and one. -/
def holds (e : Equation kind) (row : Row) : Bool := (row.cell e.column).equals e.wanted.cell

def expr (e : Equation kind) : Sql.Expr := .compare .eq (.column e.column) (.literal (.text e.wanted.spelled))

end Equation

namespace Connective

def holds (c : Connective) (equations : List (Equation kind)) (row : Row) : Bool :=
  match c with
  | and => equations.all (·.holds row)
  | or => equations.any (·.holds row)

def expr : Connective → Sql.Expr → Sql.Expr → Sql.Expr
  | and => .and
  | or => .or

def truth : Connective → Bool → Bool → Bool
  | and => (· && ·)
  | or => (· || ·)

end Connective

theorem Row.WellFormed.admits (formed : row.WellFormed) (column : Column) :
    column.type.admits (row.cell column) = true := by
  cases column with
  | field a => exact formed.types a
  | id | unscoped => rfl
  | domainId | subdomainId | addressId | family | value => 
    obtain ⟨id, subject, attributes, unscoped⟩ := row
    cases subject <;> rfl

namespace Sql

theorem affinityOf_eq (column : Column) : affinityOf column = match column.type with
    | .text => .text
    | .bytes => .blob
    | .flag | .integer | .number => .numeric := by
  cases column <;> rfl

@[simp] theorem Value.truth?_ofTruth (t : Option Bool) : (Value.ofTruth t).truth? = t := by
  cases t with
  | none => rfl
  | some b => cases b <;> rfl

theorem Affinity.compare?_wanted {column : Column} {cell : Cell} {wanted : Wanted}
    (admitted : column.type.admits cell = true) (plain : cell.isRagged = false)
    (suits : wanted.suits column.type = true) :
    (Affinity.ofSides (affinityOf column) .none).compare? (.ofCell cell) (.text wanted.spelled) = some .eq ↔
      cell.equals wanted.cell = true := by
  have affinity := affinityOf_eq column
  generalize column.type = t at admitted suits affinity
  cases wanted with
  | text s =>
    -- the column holds no number, which would be compared as a text
    cases t <;> try cases suits
    cases cell <;> simp [AttributeType.admits, Cell.isRagged] at admitted plain
    all_goals
      simp [affinity, Affinity.ofSides, Affinity.compare?, isText, toText, Value.ofCell, Value.numberText?,
        Value.compare?, Wanted.spelled, Wanted.cell, Cell.equals, Cell.number?, Statement.compareText_eq_iff]
  | number n =>
    have numeric : affinityOf column = .numeric := by
      cases t <;> first | exact affinity | cases suits
    have fits : Word.holds n = true := by
      cases t <;> first | exact suits | cases suits
    -- the wanted text becomes a number under the column's affinity, and the column holds no text
    have whole : cell = .null ∨ (∃ b, cell = .bool b) ∨ ∃ m, cell = .int m := by
      cases t <;> try cases suits
      all_goals cases cell <;> simp [AttributeType.admits] at admitted ⊢
    have wanted : toNumber (.text (toString n)) = .int n := by
      rw [toNumber, Value.wholeNumber?_toString fits]
      rfl
    have kept : toNumber (.ofCell cell) = .ofCell cell := by
      rcases whole with rfl | ⟨b, rfl⟩ | ⟨m, rfl⟩ <;> rfl
    have numbers : (Affinity.ofSides (affinityOf column) .none).compare? (.ofCell cell) (.text (toString n)) =
        (Value.ofCell cell).compare? (.int n) := by
      rw [numeric]
      change (toNumber (.ofCell cell)).compare? (toNumber (.text (toString n))) = _
      rw [kept, wanted]
    rw [Wanted.spelled, numbers]
    rcases whole with rfl | ⟨b, rfl⟩ | ⟨m, rfl⟩ <;>
      simp [Value.ofCell, Value.compare?, Wanted.cell, Cell.equals, Cell.number?]

namespace Expr

theorem matchesRow_and (l r : Expr) (row : Row) :
    (Expr.and l r).matchesRow row = (l.matchesRow row && r.matchesRow row) := by
  have joined : (Expr.and l r).eval row = .ofTruth (Truth.and (l.eval row).truth? (r.eval row).truth?) := by
    rw [eval]
  rw [matchesRow, matchesRow, matchesRow, joined, Value.truth?_ofTruth]
  rcases (l.eval row).truth? with _ | _ | _ <;> rcases (r.eval row).truth? with _ | _ | _ <;> rfl

theorem matchesRow_or (l r : Expr) (row : Row) :
    (Expr.or l r).matchesRow row = (l.matchesRow row || r.matchesRow row) := by
  have joined : (Expr.or l r).eval row = .ofTruth (Truth.or (l.eval row).truth? (r.eval row).truth?) := by
    rw [eval]
  rw [matchesRow, matchesRow, matchesRow, joined, Value.truth?_ofTruth]
  rcases (l.eval row).truth? with _ | _ | _ <;> rcases (r.eval row).truth? with _ | _ | _ <;> rfl

theorem matchesRow_compare (op : Comparison) (l r : Expr) (row : Row) : (Expr.compare op l r).matchesRow row =
    (op.eval (.ofSides l.affinity r.affinity) (l.eval row) (r.eval row) == some true) := by
  have compared : (Expr.compare op l r).eval row =
      .ofTruth (op.eval (.ofSides l.affinity r.affinity) (l.eval row) (r.eval row)) := by
    rw [eval]
  rw [matchesRow, compared, Value.truth?_ofTruth]

end Expr

theorem Comparison.eval_eq (affinity : Affinity) (a b : Value) :
    eq.eval affinity a b = some true ↔ affinity.compare? a b = some .eq := by
  unfold eval
  cases affinity.compare? a b with
  | none => simp
  | some order => cases order <;> simp [holds]

end Sql

namespace Equation

theorem matchesRow_expr (e : Equation kind) (formed : row.WellFormed) (plain : row.Plain) :
    e.expr.matchesRow row = e.holds row := by
  have compared := Sql.Affinity.compare?_wanted (formed.admits e.column) (plain.cell e.column) e.suits
  rw [Bool.eq_iff_iff, expr, Sql.Expr.matchesRow_compare, beq_iff_eq, Sql.Comparison.eval_eq]
  rw [Sql.Expr.eval, Sql.Expr.eval]
  exact compared

end Equation

namespace Connective

theorem matchesRow_expr (c : Connective) (l r : Sql.Expr) (row : Row) :
    (c.expr l r).matchesRow row = c.truth (l.matchesRow row) (r.matchesRow row) := by
  cases c with
  | and => exact Sql.Expr.matchesRow_and l r row
  | or => exact Sql.Expr.matchesRow_or l r row

def joined (c : Connective) (first : Equation kind) (rest : List (Equation kind)) : Sql.Expr :=
  rest.foldl (fun condition e => c.expr condition e.expr) first.expr

theorem holds_cons (c : Connective) (first : Equation kind) (rest : List (Equation kind)) (row : Row) :
    c.holds (first :: rest) row = rest.foldl (fun truth e => c.truth truth (e.holds row)) (first.holds row) := by
  cases c with
  | and =>
    have fold (b : Bool) : rest.foldl (fun truth e => truth && e.holds row) b = (b && rest.all (·.holds row)) := by
      induction rest generalizing b with
      | nil => simp
      | cons e rest ih => simp [ih, Bool.and_assoc]
    simpa [holds, truth] using (fold (first.holds row)).symm
  | or =>
    have fold (b : Bool) : rest.foldl (fun truth e => truth || e.holds row) b = (b || rest.any (·.holds row)) := by
      induction rest generalizing b with
      | nil => simp
      | cons e rest ih => simp [ih, Bool.or_assoc]
    simpa [holds, truth] using (fold (first.holds row)).symm

theorem matchesRow_joined (c : Connective) (first : Equation kind) (rest : List (Equation kind))
    (formed : row.WellFormed) (plain : row.Plain) :
    (c.joined first rest).matchesRow row = c.holds (first :: rest) row := by
  have fold (condition : Sql.Expr) :
      (rest.foldl (fun condition e => c.expr condition e.expr) condition).matchesRow row =
        rest.foldl (fun truth e => c.truth truth (e.holds row)) (condition.matchesRow row) := by
    induction rest generalizing condition with
    | nil => rfl
    | cons e rest ih =>
      rw [List.foldl_cons, List.foldl_cons, ih, c.matchesRow_expr, e.matchesRow_expr formed plain]
  rw [joined, fold, first.matchesRow_expr formed plain, holds_cons]

end Connective
end Footprint
