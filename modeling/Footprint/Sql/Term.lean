import Footprint.Sql.Comparison
import Footprint.Sql.Token

namespace Footprint.Sql

inductive Term
  | integer (n : Nat)
  | literal (value : Value)
  | truth (value : Bool)
  | name (parts : List NamePart)
  | parameter (number : Option Nat)
  | compare (op : Comparison) (left right : Term)
  | like (operand pattern : Term)
  | between (operand low high : Term)
  | member (operand : Term) (choices : List Term)
  | and (left right : Term)
  | or (left right : Term)
  | not (operand : Term)
  | negate (operand : Term)

namespace NamePart

def is (part : NamePart) (name : String) : Bool := part.text.map Text.lowerAscii == name.toList

/-- The words `true` and `false`, as long as no column has such a name. -/
def truth? (part : NamePart) : Option Bool :=
  if part.mayBeTruth && part.is "true" then some true
  else if part.mayBeTruth && part.is "false" then some false
  else none

end NamePart

namespace Term

def isFalse : Term → Bool
  | integer n => n == 0
  | truth value => !value
  | _ => false

mutual

def isConstant : Term → Bool
  | integer _ | literal _ | truth _ | parameter _ => true
  | name [part] => part.truth?.isSome
  | name _ | like .. => false
  | compare _ l r | and l r | or l r => isConstant l && isConstant r
  | between e low high => isConstant e && isConstant low && isConstant high
  | member e choices => isConstant e && areConstant choices
  | not e | negate e => isConstant e

def areConstant : List Term → Bool
  | [] => true
  | e :: rest => isConstant e && areConstant rest

end

end Term

/-- A term, its height, and the greatest height of any term on the way to it. -/
structure Sized where
  term : Term
  height : Nat
  tallest : Nat

namespace Sized

def above (term : Term) (height tallest : Nat) : Sized := ⟨term, height, max height tallest⟩

def leaf (term : Term) : Sized := ⟨term, 1, 1⟩

def ofName (parts : List NamePart) : Sized := ⟨.name parts, parts.length, parts.length⟩

def binary (build : Term → Term → Term) (l r : Sized) : Sized :=
  above (build l.term r.term) (max l.height r.height + 1) (max l.tallest r.tallest)

def unary (build : Term → Term) (e : Sized) : Sized := above (build e.term) (e.height + 1) e.tallest

/-- With a false side the whole is false, whatever the other side says. -/
def and (l r : Sized) : Sized :=
  if l.term.isFalse || r.term.isFalse then above (.integer 0) 1 (max l.tallest r.tallest)
  else binary .and l r

def negatedIf (negated : Bool) (e : Sized) : Sized := if negated then unary .not e else e

/-- The bounds do not count for the height. -/
def between (e low high : Sized) : Sized :=
  above (.between e.term low.term high.term) (e.height + 1) (max e.tallest (max low.tallest high.tallest))

/-- Nothing is a member of an empty list, whatever stands in front of it. A single constant is
    compared with as an operand one level higher. -/
def member (negated : Bool) (e : Sized) (choices : List Sized) : Sized :=
  match choices with
  | [] => above (.truth negated) 1 e.tallest
  | _ =>
    let lift := match choices with
      | [choice] => if choice.term.isConstant then 1 else 0
      | _ => 0
    let highest := choices.foldl (fun height choice => max height choice.height) 0
    let tallest := choices.foldl (fun height choice => max height choice.tallest) e.tallest
    negatedIf negated
      (above (.member e.term (choices.map term)) (max e.height (highest + lift) + 1) tallest)

def isNull (e : Sized) (negated : Bool) : Sized :=
  unary (fun e => .compare (if negated then .isNot else .is) e (.literal .null)) e

end Sized
end Footprint.Sql
