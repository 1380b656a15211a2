import Footprint.Sql.Expr
import Footprint.Sql.Mark
import Footprint.Sql.Parser

namespace Footprint.Sql

structure Query where
  kind : Kind
  opening : String
  /-- The number of symbols in the opening. -/
  outer : Nat
  values : List Value := []
  names : List String := []

namespace Query

def select (kind : Kind) : Query where
  kind
  opening :=
    let columns := kind.columns.map fun column => s!"{kind.table}.{column.name}"
    "SELECT " ++ ", ".intercalate columns ++ s!" \nFROM {kind.table} \nWHERE "
  outer := 5

def delete (kind : Kind) : Query where
  kind
  opening := s!"DELETE FROM {kind.table} WHERE "
  outer := 6

def update (kind : Kind) (unscoped : Bool) : Query where
  kind
  opening := s!"UPDATE {kind.table} SET unscoped=? WHERE "
  outer := 9
  values := [.ofTruth (some unscoped)]
  names := ["unscoped"]

/-- A parameter without a number is a new one, and so has no value. -/
def value? (q : Query) (number : Option Nat) : Option Value :=
  number.bind fun n => if n = 0 then none else q.values[n - 1]?

def lacks (q : Query) : Token → Bool
  | .parameter number => (q.value? number).isNone
  | _ => false

end Query

namespace NamePart

def column? (part : NamePart) (kind : Kind) : Option Column :=
  match kind.columns.find? fun column => part.is column.name with
  | some column => some column
  | none => if part.is "rowid" || part.is "oid" || part.is "_rowid_" then some .id else none

def fallback? (part : NamePart) : Option Expr :=
  if part.mayBeText then some (.literal (.text (String.ofList part.text)))
  else part.truth?.map .boolean

end NamePart

namespace Expr

def ofName? (kind : Kind) : List NamePart → Option Expr
  | [name] => match name.column? kind with
    | some c => some (.column c)
    | none => name.fallback?
  | [table, name] => if table.is kind.table then .column <$> name.column? kind else none
  | [schema, table, name] =>
    if schema.is "main" && table.is kind.table then .column <$> name.column? kind else none
  | _ => none

/-- Whether a term is true, or false, is a question of its own: it is never unknown. -/
def ofComparison : Comparison → Expr → Expr → Expr
  | .is, left, .boolean b => .isTruth left b
  | .isNot, left, .boolean b => .not (.isTruth left b)
  | op, left, right => .compare op left right

end Expr

namespace Term

mutual

/-- Nothing if a name is unknown. A minus sign in front of digits is read together with them. -/
def resolve? (q : Query) : Term → Option Expr
  | integer n => some (.literal (.ofDigits false n))
  | literal value => some (.literal value)
  | truth value => some (.boolean value)
  | name parts => Expr.ofName? q.kind parts
  | parameter number => some (.literal ((q.value? number).getD .null))
  | compare op l r =>
    match l.resolve? q, r.resolve? q with
    | some l, some r => some (.ofComparison op l r)
    | _, _ => none
  | like e pattern =>
    match e.resolve? q, pattern.resolve? q with
    | some e, some pattern => some (.like e pattern)
    | _, _ => none
  | between e low high =>
    match e.resolve? q, low.resolve? q, high.resolve? q with
    | some e, some low, some high => some (.between e low high)
    | _, _, _ => none
  | member e choices =>
    match e.resolve? q, resolveAll? q choices with
    | some e, some choices => some (.member e choices)
    | _, _ => none
  | and l r =>
    match l.resolve? q, r.resolve? q with
    | some l, some r => some (.and l r)
    | _, _ => none
  | or l r =>
    match l.resolve? q, r.resolve? q with
    | some l, some r => some (.or l r)
    | _, _ => none
  | not e => (e.resolve? q).map .not
  | negate (.integer n) => some (.literal (.ofDigits true n))
  | negate e => (e.resolve? q).map .negate

def resolveAll? (q : Query) : List Term → Option (List Expr)
  | [] => some []
  | e :: rest =>
    match e.resolve? q, resolveAll? q rest with
    | some e, some rest => some (e :: rest)
    | _, _ => none

end

end Term

inductive Defect
  /-- A mark names a parameter that the statement does not have. -/
  | unknownMark
  | zeroCharacter
  | foreign
  /-- The parser has no room for the text, or a term of it is too high. -/
  | overflow
  | unknownName
  | furtherText
  | lackingValue
  deriving DecidableEq, Repr

namespace Query

def serves (q : Query) (text : String) : Bool :=
  (Mark.names text.toList).all fun name => q.names.contains (String.ofList name)

def conditionOf (q : Query) (tokens : List Token) (rest : List Char) : Except Defect Expr :=
  match Reading.ofTokens? tokens with
  | none => .error .foreign
  | some reading =>
    if !reading.fits q.outer then .error .overflow
    else match reading.term.resolve? q with
      | none => .error .unknownName
      | some condition =>
        if !Token.isVoid rest then .error .furtherText
        else if tokens.any q.lacks then .error .lackingValue
        else .ok condition

/-- An empty text is no condition at all: every row matches. -/
def condition (q : Query) (text : String) : Except Defect Expr :=
  let chars := text.toList
  if chars.isEmpty then .ok (.boolean true)
  else if !q.serves text then .error .unknownMark
  else if chars.contains '\x00' then .error .zeroCharacter
  else if !(Mark.names chars).isEmpty then .error .foreign
  else match Token.lex chars with
    | none => .error .foreign
    | some (tokens, rest) => q.conditionOf tokens rest

/-- A text that cannot be encoded keeps the whole statement from being sent. -/
def misfit? (q : Query) (script : AnyText) : Option Misfit :=
  match script with
  | .plain _ => none
  | .ragged text =>
    if q.serves text.shown then some (.unencodable { text with front := q.opening ++ text.front }) else none

end Query
end Footprint.Sql
