import Footprint.Proofs.Sql.Equation
import Footprint.Proofs.Sql.Lexing
import Footprint.Sql.Query

namespace Footprint

open Sql

variable {kind : Kind}

theorem Wanted.zero_free {t : AttributeType} (wanted : Wanted) (suitable : wanted.suits t = true) :
    '\x00' ∉ wanted.spelled.toList := by
  cases wanted with
  | text s =>
    cases t
    case text => simpa [suits, spelled] using suitable
    all_goals cases suitable
  | number n =>
    have digits (c : Char) (member : c ∈ Nat.toDigits 10 n.natAbs) : c ≠ '\x00' := by
      rintro rfl
      exact absurd (Numeral.isDigit_toDigits _ _ member) (by decide)
    intro member
    rw [spelled, Numeral.toList_toString] at member
    split at member
    · rcases List.mem_cons.mp member with sign | member
      · exact absurd sign (by decide)
      · exact digits _ member rfl
    · exact digits _ member rfl

theorem Sql.Query.outer_select_le (kind : Kind) : (select kind).outer ≤ 92 := Nat.le_of_ble_eq_true rfl

theorem Sql.Query.outer_delete_le (kind : Kind) : (delete kind).outer ≤ 92 := Nat.le_of_ble_eq_true rfl

def Sql.Token.Plain (token : Token) : Prop := token ≠ .sign .dot ∧ ∀ number, token ≠ .parameter number

theorem Sql.Query.condition_of_reads (q : Query) {text : List Char} {tokens : List Token}
    (read : Token.Reads text tokens []) (plain : ∀ token ∈ tokens, token.Plain) (free : '\x00' ∉ text)
    (unmarked : Mark.names text = []) (written : text ≠ []) {reading : Reading}
    (built : Reading.ofTokens? tokens = some reading) : q.condition (String.ofList text) =
      if reading.fits q.outer then (reading.term.resolve? q).elim (.error .unknownName) .ok else .error .overflow := by
  have lexed : Token.lex text = some (tokens, []) := read.lex fun member => (plain _ member).1 rfl
  have lacking : tokens.any q.lacks = false := by
    rw [List.any_eq_false]
    intro token member
    have other := (plain token member).2
    cases token <;> simp [Query.lacks] at other ⊢
  have nonempty : text.isEmpty = false := by simpa using written
  have zero : text.contains '\x00' = false := by simpa using free
  have served : q.serves (String.ofList text) = true := by simp [Query.serves, unmarked]
  simp only [Query.condition, served, String.toList_ofList, nonempty, zero, unmarked, lexed, Query.conditionOf, built]
  cases reading.fits q.outer with
  | false => rfl
  | true =>
    cases reading.term.resolve? q with
    | none => simp
    | some condition => simp [lacking, Token.isVoid]

/-! The names -/

namespace Sql.Term

variable {q : Query} {l r : Term} {left right : Expr}

theorem resolve?_name {column : Column} (named : column ∈ q.kind.columns) :
    (Term.name [⟨column.name.toList, false, true⟩]).resolve? q = some (.column column) := by
  have each (kind : Kind) : ∀ column ∈ kind.columns,
      NamePart.column? ⟨column.name.toList, false, true⟩ kind = some column := by
    cases kind <;> decide
  rw [resolve?, Expr.ofName?, each q.kind column named]

theorem resolve?_equals (known : l.resolve? q = some left) (known' : r.resolve? q = some right) :
    (Term.compare .eq l r).resolve? q = some (.compare .eq left right) := by
  rw [resolve?, known, known']
  rfl

theorem resolve?_and (known : l.resolve? q = some left) (known' : r.resolve? q = some right) :
    (Term.and l r).resolve? q = some (.and left right) := by
  rw [resolve?, known, known']

theorem resolve?_or (known : l.resolve? q = some left) (known' : r.resolve? q = some right) :
    (Term.or l r).resolve? q = some (.or left right) := by
  rw [resolve?, known, known']

end Sql.Term

namespace Equation

def piece (e : Equation kind) : Filter.Piece := .term e.column.name.toList e.wanted.spelled.toList

def part (e : Equation kind) : NamePart := ⟨e.column.name.toList, false, true⟩

def tokens (e : Equation kind) : List Token := [.name e.part, .sign .eq, .text e.wanted.spelled.toList]

def left (e : Equation kind) : Sized := .ofName [e.part]

def right (e : Equation kind) : Sized := .leaf (.literal (.text (String.ofList e.wanted.spelled.toList)))

def term (e : Equation kind) : Term := .compare .eq e.left.term e.right.term

def sized (e : Equation kind) : Sized := ⟨e.term, 2, 2⟩

theorem reads_piece (e : Equation kind) {later : List Char} (ends : later.head? ≠ some '\'') :
    Token.Reads (e.piece.render ++ later) e.tokens later :=
  .term e.column e.wanted.spelled.toList ends

theorem plain_tokens (e : Equation kind) : ∀ token ∈ e.tokens, token.Plain := by
  simp [tokens, Token.Plain]

theorem zero_free (e : Equation kind) : '\x00' ∉ e.piece.render := by
  have name : '\x00' ∉ e.column.name.toList := by
    cases e.column
    case field a => cases a <;> decide
    all_goals decide
  have value := e.wanted.zero_free e.suits
  simp [piece, Filter.Piece.render, Filter.literal, Filter.mem_doubleQuotes, name, value]

theorem resolve?_term {q : Query} (e : Equation q.kind) : e.term.resolve? q = some e.expr := by
  have right : e.right.term.resolve? q = some (.literal (.text e.wanted.spelled)) := by
    change (Term.literal (.text (String.ofList e.wanted.spelled.toList))).resolve? q = _
    rw [Term.resolve?, String.ofList_toList]
  exact Term.resolve?_equals (Term.resolve?_name e.named) right

end Equation

namespace Connective

def word : Connective → String
  | and => "and"
  | or => "or"

def keyword : Connective → Keyword
  | and => .and
  | or => .or

def operator : Connective → Parser.Operator
  | and => .and
  | or => .or

def term : Connective → Term → Term → Term
  | and => .and
  | or => .or

def pieces (c : Connective) (first : Equation kind) (rest : List (Equation kind)) : List Filter.Piece :=
  first.piece :: rest.flatMap fun e => [.verbatim c.word.toList, e.piece]

def tokens (c : Connective) (first : Equation kind) (rest : List (Equation kind)) : List Token :=
  first.tokens ++ rest.flatMap fun e => .keyword c.keyword :: e.tokens

variable (c : Connective)

theorem reads_word (later : List Char) :
    Token.Reads (' ' :: (c.word.toList ++ ' ' :: later)) [.keyword c.keyword] (' ' :: later) := by
  cases c with
  | and => exact .and later
  | or => exact .or later

theorem reads_pieces (first : Equation kind) (rest : List (Equation kind)) :
    Token.Reads (Filter.render (c.pieces first rest)) (c.tokens first rest) [] := by
  -- the text behind an equation is empty or starts with a space, which ends its literal
  induction rest generalizing first with
  | nil =>
    have whole : Filter.render (c.pieces first []) = first.piece.render ++ [] := by simp [pieces, Filter.render]
    have same : c.tokens first [] = first.tokens := by simp [tokens]
    rw [whole, same]
    exact first.reads_piece (by simp)
  | cons e rest ih =>
    have later := ih e
    obtain ⟨text, starts⟩ : ∃ text, Filter.render (c.pieces e rest) = ' ' :: text := ⟨_, rfl⟩
    have split : Filter.render (c.pieces first (e :: rest)) =
        first.piece.render ++ ' ' :: (c.word.toList ++ Filter.render (c.pieces e rest)) := by
      simp [pieces, Filter.render, Filter.Piece.render]
    have same : c.tokens first (e :: rest) = first.tokens ++ ([.keyword c.keyword] ++ c.tokens e rest) := by
      simp [tokens]
    rw [split, same]
    rw [starts] at later ⊢
    exact (first.reads_piece (by simp)).trans ((c.reads_word text).trans later)

theorem plain_tokens (first : Equation kind) (rest : List (Equation kind)) :
    ∀ token ∈ c.tokens first rest, token.Plain := by
  intro token member
  rcases List.mem_append.mp member with member | member
  · exact first.plain_tokens token member
  · obtain ⟨e, -, member⟩ := List.mem_flatMap.mp member
    rcases List.mem_cons.mp member with rfl | member
    · simp [Token.Plain]
    · exact e.plain_tokens token member

theorem notMem_render {x : Char} (word : x ∉ (Filter.Piece.verbatim c.word.toList).render) {first : Equation kind}
    {rest : List (Equation kind)} (each : ∀ e ∈ first :: rest, x ∉ e.piece.render) :
    x ∉ Filter.render (c.pieces first rest) := by
  intro member
  obtain ⟨piece, among, inside⟩ := List.mem_flatMap.mp member
  rcases List.mem_cons.mp among with rfl | among
  · exact each first List.mem_cons_self inside
  · obtain ⟨e, listed, among⟩ := List.mem_flatMap.mp among
    simp only [List.mem_cons, List.not_mem_nil, or_false] at among
    rcases among with rfl | rfl
    · exact word inside
    · exact each e (List.mem_cons_of_mem _ listed) inside

theorem zero_free (first : Equation kind) (rest : List (Equation kind)) :
    '\x00' ∉ Filter.render (c.pieces first rest) :=
  c.notMem_render (by cases c <;> decide) fun e _ => e.zero_free

/-! The parser -/

def stack (before : Option Sized) : Parser.Stack := (before.map (Parser.Frame.operator c.operator)).toList

def behind (before : Option Sized) (e : Equation kind) (deepest : Nat) : Parser.State :=
  ⟨.operator (.compare .eq) e.left :: c.stack before, .behind e.right, deepest⟩

def deepened (before : Option Sized) (deepest : Nat) : Nat :=
  max (max deepest ((c.stack before).depth + 1)) (2 + (c.stack before).depth + 1)

def grow (before : Option Sized) (e : Equation kind) : Sized :=
  match before with
  | none => e.sized
  | some before => c.operator.build before e.sized

theorem depth_stack (before : Option Sized) : (c.stack before).depth ≤ 2 := by
  cases c <;> cases before <;> simp [stack, operator, Parser.Stack.depth, Parser.Frame.width, Parser.Operator.symbols]

theorem deepened_le {deepest : Nat} (least : deepest ≤ 5) (before : Option Sized) : c.deepened before deepest ≤ 5 := by
  have depth := c.depth_stack before
  unfold deepened
  omega

theorem reduce_stack (before : Option Sized) (e : Sized) :
    (c.stack before).reduce .equality e = some (c.stack before, e) := by
  cases before with
  | none => rfl
  | some before => cases c <;> rfl

theorem foldlM_tokens (before : Option Sized) (e : Equation kind) (deepest : Nat) :
    e.tokens.foldlM Parser.step ⟨c.stack before, .start, deepest⟩ =
      some (c.behind before e (c.deepened before deepest)) := by
  have name (d : Nat) : Parser.step ⟨c.stack before, .start, d⟩ (.name e.part) =
      some ⟨c.stack before, .behind e.left, max d ((c.stack before).depth + 1)⟩ := rfl
  have sign (d : Nat) : Parser.step ⟨c.stack before, .behind e.left, d⟩ (.sign .eq) =
      some ⟨.operator (.compare .eq) e.left :: c.stack before, .start, d⟩ := by
    have waits := c.reduce_stack before e.left
    simp [Parser.step, Parser.continueTerm, Parser.Operator.ofToken?, Parser.Operator.level, waits, Parser.opened]
  have text (d : Nat) : Parser.step ⟨.operator (.compare .eq) e.left :: c.stack before, .start, d⟩
      (.text e.wanted.spelled.toList) = some (c.behind before e (max d (2 + (c.stack before).depth + 1))) := rfl
  simp [Equation.tokens, name, sign, text, deepened]

theorem reduce_equation {level : Parser.Level} (loose : level.rank ≤ c.operator.level.rank) (before : Option Sized)
    (e : Equation kind) : Parser.Stack.reduce level (.operator (.compare .eq) e.left :: c.stack before) e.right =
      some ([], c.grow before e) := by
  have below : c.operator.level.rank ≤ Parser.Level.rank .equality := by cases c <;> decide
  have waits : Parser.Stack.holds level (.operator (.compare .eq) e.left) = true :=
    decide_eq_true (Nat.le_trans loose below)
  have built : (Parser.Frame.operator (.compare .eq) e.left).fill e.right = some e.sized := rfl
  rw [Parser.Stack.reduce, if_pos waits, built, Option.bind_some]
  cases before with
  | none => rfl
  | some before =>
    have waits' : Parser.Stack.holds level (.operator c.operator before) = true := decide_eq_true loose
    change Parser.Stack.reduce level [.operator c.operator before] _ = _
    rw [Parser.Stack.reduce, if_pos waits']
    rfl

theorem step_keyword (before : Option Sized) (e : Equation kind) (deepest : Nat) :
    Parser.step (c.behind before e deepest) (.keyword c.keyword) =
      some ⟨c.stack (some (c.grow before e)), .start, deepest⟩ := by
  have reduced := c.reduce_equation (Nat.le_refl _) before e
  cases c with
  | and =>
    have step : Parser.step (and.behind before e deepest) (.keyword .and) =
        (Parser.Stack.reduce .and (and.behind before e deepest).stack e.right).map (Parser.and deepest) := rfl
    exact step.trans (congrArg (Option.map _) reduced)
  | or =>
    have step : Parser.step (or.behind before e deepest) (.keyword .or) =
        (Parser.Stack.reduce .or (or.behind before e deepest).stack e.right).map
          fun read => Parser.opened deepest (.operator .or read.2) read.1 := rfl
    exact step.trans (congrArg (Option.map _) reduced)

theorem ofState?_behind (before : Option Sized) (e : Equation kind) (deepest : Nat) :
    Reading.ofState? (c.behind before e deepest) =
      some ⟨(c.grow before e).term, (c.grow before e).tallest, deepest⟩ := by
  have loose : Parser.Level.rank .or ≤ c.operator.level.rank := Nat.zero_le _
  have reduced := c.reduce_equation loose before e
  simp only [Reading.ofState?, behind]
  rw [reduced]

theorem ofTokens?_tokens (first : Equation kind) (rest : List (Equation kind)) :
    let grown := rest.foldl (fun before e => c.grow (some before) e) first.sized
    ∃ deepest ≤ 5, Reading.ofTokens? (c.tokens first rest) = some ⟨grown.term, grown.tallest, deepest⟩ := by
  have run (before : Option Sized) (deepest : Nat) (least : deepest ≤ 5) (first : Equation kind) :
      let grown := rest.foldl (fun before e => c.grow (some before) e) (c.grow before first)
      ∃ deepest' ≤ 5, ((c.tokens first rest).foldlM Parser.step ⟨c.stack before, .start, deepest⟩).bind Reading.ofState? =
        some ⟨grown.term, grown.tallest, deepest'⟩ := by
    -- at every equation the stack holds no more than the term of those before it
    induction rest generalizing before deepest first with
    | nil =>
      have same : c.tokens first [] = first.tokens := by simp [tokens]
      refine ⟨_, c.deepened_le least before, ?_⟩
      rw [same, c.foldlM_tokens, Option.bind_some, c.ofState?_behind]
      rfl
    | cons e rest ih =>
      have same : c.tokens first (e :: rest) = first.tokens ++ (.keyword c.keyword :: c.tokens e rest) := by
        simp [tokens]
      rw [same, List.foldlM_append, c.foldlM_tokens]
      simp only [Option.bind_eq_bind, Option.bind_some, List.foldlM_cons]
      rw [c.step_keyword]
      exact ih (some (c.grow before first)) _ (c.deepened_le least before) e
  exact run none 0 (Nat.zero_le 5) first

theorem foldl_grow (rest : List (Equation kind)) (term : Term) (height : Nat) (proper : term.isFalse = false)
    (least : 2 ≤ height) : rest.foldl (fun before e => c.grow (some before) e) ⟨term, height, height⟩ =
      ⟨rest.foldl (fun term e => c.term term e.term) term, height + rest.length, height + rest.length⟩ := by
  induction rest generalizing term height with
  | nil => rfl
  | cons e rest ih =>
    -- an equation is never higher than the term of those before it
    have grown : c.grow (some ⟨term, height, height⟩) e = ⟨c.term term e.term, height + 1, height + 1⟩ := by
      have single : e.term.isFalse = false := rfl
      have heights : max height 2 + 1 = height + 1 ∧ max (height + 1) (max height 2) = height + 1 := by omega
      cases c <;>
        simp [grow, operator, Parser.Operator.build, Sized.and, Sized.binary, Sized.above, Connective.term, proper,
          single, Equation.sized, heights]
    have proper' : (c.term term e.term).isFalse = false := by cases c <;> rfl
    have sum : height + 1 + rest.length = height + (e :: rest).length := by
      rw [List.length_cons]
      omega
    rw [List.foldl_cons, grown, ih _ _ proper' (Nat.le_succ_of_le least), sum, List.foldl_cons]

/-! The condition -/

theorem resolve?_joined {q : Query} {l r : Term} {left right : Expr} (known : l.resolve? q = some left)
    (known' : r.resolve? q = some right) : (c.term l r).resolve? q = some (c.expr left right) := by
  cases c with
  | and => exact Term.resolve?_and known known'
  | or => exact Term.resolve?_or known known'

theorem resolve?_foldl {q : Query} (rest : List (Equation q.kind)) {term : Term} {condition : Expr}
    (known : term.resolve? q = some condition) :
    (rest.foldl (fun term e => c.term term e.term) term).resolve? q =
      some (rest.foldl (fun condition e => c.expr condition e.expr) condition) := by
  induction rest generalizing term condition with
  | nil => exact known
  | cons e rest ih => exact ih (c.resolve?_joined known e.resolve?_term)

/-- The text is the condition that the equations stand for, as long as its term is not too high. -/
theorem condition_pieces (q : Query) (room : q.outer ≤ 92) (first : Equation q.kind) (rest : List (Equation q.kind))
    (unmarked : Mark.names (Filter.render (c.pieces first rest)) = []) :
    q.condition (String.ofList (Filter.render (c.pieces first rest))) =
      if rest.length + 2 ≤ Reading.greatestHeight then .ok (c.joined first rest) else .error .overflow := by
  obtain ⟨deepest, shallow, built⟩ := c.ofTokens?_tokens first rest
  have resolved := c.resolve?_foldl rest first.resolve?_term
  have grown : rest.foldl (fun before e => c.grow (some before) e) first.sized = _ :=
    c.foldl_grow rest first.term 2 rfl (Nat.le_refl 2)
  rw [grown] at built
  rw [q.condition_of_reads (c.reads_pieces first rest) (c.plain_tokens first rest) (c.zero_free first rest) unmarked
    nofun built, Nat.add_comm rest.length]
  have fits : Reading.fits ⟨rest.foldl (fun term e => c.term term e.term) first.term, 2 + rest.length, deepest⟩ q.outer =
      decide (2 + rest.length ≤ Reading.greatestHeight) := by
    have space : q.outer + deepest ≤ Reading.greatestDepth := by
      simp only [Reading.greatestDepth]
      omega
    simp [Reading.fits, space]
  simp only [fits, resolved, Option.elim_some, decide_eq_true_eq]
  rfl

end Connective
end Footprint
