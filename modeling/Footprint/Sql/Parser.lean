import Footprint.Sql.Term

/-!
From tokens to terms. The parser keeps the symbols that are not yet part of a finished term on a
stack. From loose to tight: `or`, `and`, `not`, equality and the other predicates, order, and the
minus sign.
-/

namespace Footprint.Sql.Parser

inductive Level
  | or
  | and
  | not
  | equality
  | order
  | minus
  deriving DecidableEq, Repr

namespace Level

def rank : Level → Nat
  | or => 0
  | and => 1
  | not => 2
  | equality => 3
  | order => 4
  | minus => 5

end Level

inductive Operator
  | or
  | and
  | compare (op : Comparison)
  deriving DecidableEq, Repr

namespace Operator

def level : Operator → Level
  | or => .or
  | and => .and
  | compare .eq | compare .ne | compare .is | compare .isNot => .equality
  | compare _ => .order

def build : Operator → Sized → Sized → Sized
  | or => Sized.binary .or
  | and => Sized.and
  | compare op => Sized.binary (.compare op)

def symbols : Operator → Nat
  | compare .isNot => 2
  | _ => 1

def ofToken? : Token → Option Operator
  | .keyword .or => some or
  | .sign .eq => some (compare .eq)
  | .sign .ne => some (compare .ne)
  | .sign .lt => some (compare .lt)
  | .sign .le => some (compare .le)
  | .sign .gt => some (compare .gt)
  | .sign .ge => some (compare .ge)
  | _ => none

end Operator

inductive Frame
  | paren
  | not
  | minus
  | operator (op : Operator) (left : Sized)
  | pattern (negated : Bool) (left : Sized)
  | low (negated : Bool) (left : Sized)
  | high (negated : Bool) (left least : Sized)
  | choices (negated : Bool) (left : Sized) (found : List Sized)

namespace Frame

/-- How many symbols a frame puts on the stack. All choices found so far are one symbol. -/
def width : Frame → Nat
  | paren | not | minus => 1
  | operator op _ => 1 + op.symbols
  | pattern .. | low .. => 2
  | high .. => 4
  | choices _ _ [] => 3
  | choices .. => 5

/-- How tight a frame holds the term behind it; some frames need a sign of their own to end. -/
def level? : Frame → Option Level
  | not => some .not
  | minus => some .minus
  | operator op _ => some op.level
  | pattern .. | high .. => some .equality
  | paren | low .. | choices .. => none

def fill : Frame → Sized → Option Sized
  | not, e => some (e.unary .not)
  | minus, e => some (e.unary .negate)
  | operator op left, e => some (op.build left e)
  | pattern negated left, e => some (.negatedIf negated (.binary .like left e))
  | high negated left least, e => some (.negatedIf negated (.between left least e))
  | paren, _ | low .., _ | choices .., _ => none

end Frame

abbrev Stack := List Frame

namespace Stack

def depth : Stack → Nat
  | [] => 0
  | frame :: rest => frame.width + depth rest

def holds (level : Level) (frame : Frame) : Bool :=
  match frame.level? with
  | some held => level.rank ≤ held.rank
  | none => false

/-- Fills the innermost frames as long as they hold the term. -/
def reduce (level : Level) : Stack → Sized → Option (Stack × Sized)
  | [], e => some ([], e)
  | frame :: rest, e =>
    if holds level frame then (frame.fill e).bind (reduce level rest)
    else some (frame :: rest, e)

end Stack

inductive Focus
  | start
  | behind (e : Sized)
  | behindNot (e : Sized)
  | behindIs (e : Sized)
  | behindIn (negated : Bool) (e : Sized)
  | firstChoice (negated : Bool) (e : Sized)

structure State where
  stack : Stack
  focus : Focus
  /-- The greatest depth of the stack so far. -/
  deepest : Nat

def finish (deepest : Nat) (stack : Stack) (symbols : Nat) (e : Sized) : State :=
  ⟨stack, .behind e, max deepest (stack.depth + symbols)⟩

def opened (deepest : Nat) (frame : Frame) (stack : Stack) : State := ⟨frame :: stack, .start, deepest⟩

def leaf? : Token → Option Sized
  | .keyword .null => some (.leaf (.literal .null))
  | .path parts => some (.ofName parts)
  | .text s => some (.leaf (.literal (.text (String.ofList s))))
  | .integer n => some (.leaf (.integer n))
  | .literal value => some (.leaf (.literal value))
  | .parameter number => some (.leaf (.parameter number))
  | token => (Token.namePart? token).map fun part => .ofName [part]

/-- How many symbols a leaf is written with: a dot counts like a part of a name. -/
def leafSymbols : Token → Nat
  | .path parts => 2 * parts.length - 1
  | _ => 1

def startTerm (deepest : Nat) (stack : Stack) : Token → Option State
  | .keyword .not => some (opened deepest .not stack)
  | .sign .minus => some (opened deepest .minus stack)
  | .sign .leftParen => some (opened deepest .paren stack)
  | token => (leaf? token).map (finish deepest stack (leafSymbols token))

def predicate (deepest : Nat) (negated : Bool) (stack : Stack) (e : Sized) : Keyword → Option State
  | .like => some (opened deepest (.pattern negated e) stack)
  | .between => some (opened deepest (.low negated e) stack)
  | .in => some ⟨stack, .behindIn negated e, deepest⟩
  | _ => none

def comma (deepest : Nat) : Stack × Sized → Option State
  | (.choices negated left found :: stack, e) =>
    some (opened deepest (.choices negated left (e :: found)) stack)
  | _ => none

def close (deepest : Nat) : Stack × Sized → Option State
  | (.paren :: stack, e) => some (finish deepest stack 3 e)
  | (.choices negated left found :: stack, e) =>
    some (finish deepest stack 5 (.member negated left (found.reverse ++ [e])))
  | _ => none

/-- The word `and` ends the lower bound of a `between` before it joins two terms. -/
def and (deepest : Nat) : Stack × Sized → State
  | (.low negated left :: stack, e) => opened deepest (.high negated left e) stack
  | (stack, e) => opened deepest (.operator .and e) stack

def continueTerm (deepest : Nat) (stack : Stack) (e : Sized) (token : Token) : Option State :=
  match Operator.ofToken? token, token with
  | some op, _ =>
    (stack.reduce op.level e).map fun (stack, e) => opened deepest (.operator op e) stack
  | none, .keyword .and => (stack.reduce .and e).map (and deepest)
  | none, .sign .rightParen => (stack.reduce .or e).bind (close deepest)
  | none, .sign .comma => (stack.reduce .or e).bind (comma deepest)
  | none, .keyword word =>
    (stack.reduce .equality e).bind fun (stack, e) => match word with
      | .isNull => some (finish deepest stack 2 (e.isNull false))
      | .notNull => some (finish deepest stack 2 (e.isNull true))
      | .not => some ⟨stack, .behindNot e, deepest⟩
      | .is => some ⟨stack, .behindIs e, deepest⟩
      | word => predicate deepest false stack e word
  | none, _ => none

def step (state : State) (token : Token) : Option State :=
  let ⟨stack, focus, deepest⟩ := state
  match focus, token with
  | .start, token => startTerm deepest stack token
  | .behind e, token => continueTerm deepest stack e token
  | .behindNot e, .keyword .null => some (finish deepest stack 3 (e.isNull true))
  | .behindNot e, .keyword word => predicate deepest true stack e word
  | .behindIs e, .keyword .not => some (opened deepest (.operator (.compare .isNot) e) stack)
  | .behindIs e, token => startTerm deepest (.operator (.compare .is) e :: stack) token
  | .behindIn negated e, .sign .leftParen => some ⟨stack, .firstChoice negated e, deepest⟩
  | .firstChoice negated e, .sign .rightParen =>
    some (finish deepest stack 5 (.member negated e []))
  | .firstChoice negated e, token => startTerm deepest (.choices negated e [] :: stack) token
  | _, _ => none

end Parser

structure Reading where
  term : Term
  tallest : Nat
  deepest : Nat

namespace Reading

def ofState? (state : Parser.State) : Option Reading :=
  match state.focus with
  | .behind e => match state.stack.reduce .or e with
    | some ([], e) => some ⟨e.term, e.tallest, state.deepest⟩
    | _ => none
  | _ => none

def ofTokens? (tokens : List Token) : Option Reading :=
  (tokens.foldlM Parser.step ⟨[], .start, 0⟩).bind ofState?

def greatestHeight : Nat := 1000

def greatestDepth : Nat := 99

def fits (r : Reading) (outer : Nat) : Bool :=
  r.tallest ≤ greatestHeight && outer + r.deepest ≤ greatestDepth

end Reading
end Footprint.Sql
