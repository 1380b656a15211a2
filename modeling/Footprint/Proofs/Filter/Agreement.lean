import Footprint.Proofs.Filter.Requirement
import Footprint.Proofs.Sql.Nesting
import Footprint.Proofs.Sql.Parsing
import Footprint.Proofs.Workspace.Handles

namespace Footprint

open Sql

theorem Sql.Reading.fits_mono {reading : Reading} {inner outer : Nat} (less : inner ≤ outer)
    (fits : reading.fits outer = true) : reading.fits inner = true := by
  simp only [Reading.fits, Bool.and_eq_true, decide_eq_true_eq] at fits ⊢
  exact ⟨fits.1, Nat.le_trans (Nat.add_le_add_right less _) fits.2⟩

namespace Sql.Query

variable {q : Query} {text : String} {condition : Expr}

/-- The text is a condition behind a `select`, but there is no room for it behind the statement. -/
def overflows (q : Query) (text : String) : Bool :=
  match Token.lex text.toList with
  | some (tokens, _) => (Reading.ofTokens? tokens).any fun reading =>
    reading.fits (select q.kind).outer && !reading.fits q.outer
  | none => false

/-- The text has marks or parameters, and the statement has a value for each of them. -/
def lends (q : Query) (text : String) : Bool :=
  if (Mark.names text.toList).isEmpty then match Token.lex text.toList with
    | some (tokens, _) => tokens.any (select q.kind).lacks && !tokens.any q.lacks
    | none => false
  else q.serves text

theorem lacks_parameter (bare : q.values = []) (number : Option Nat) : q.lacks (.parameter number) = true := by
  cases number <;> simp [lacks, value?, bare]

theorem lacks_of_lacks {p : Query} (bare : p.values = []) {token : Token} (lacking : q.lacks token = true) :
    p.lacks token = true := by
  cases token with
  | parameter number => exact lacks_parameter bare number
  | _ => cases lacking

theorem lends_eq_false (bare : q.values = [] ∧ q.names = []) (text : String) : q.lends text = false := by
  unfold lends
  split
  case isTrue =>
    split
    next tokens _ _ =>
      cases lacking : tokens.any (select q.kind).lacks with
      | false => rfl
      | true =>
        obtain ⟨token, member, lacks⟩ := List.any_eq_true.mp lacking
        simp [List.any_eq_true.mpr ⟨token, member, lacks_of_lacks bare.1 lacks⟩]
    next => rfl
  case isFalse marked =>
    obtain ⟨name, rest, names⟩ := List.exists_cons_of_ne_nil fun none => marked (List.isEmpty_iff.mpr none)
    simp [serves, names, bare.2]

theorem resolve?_select (q : Query) {tokens : List Token} {reading : Reading}
    (plain : tokens.any (select q.kind).lacks = false) (built : Reading.ofTokens? tokens = some reading) :
    reading.term.resolve? (select q.kind) = reading.term.resolve? q := by
  have closed : Term.Closed fun term => term.resolve? (select q.kind) = term.resolve? q := Term.closed_resolve? rfl
  refine closed.of_ofTokens? (fun number member => ?_) built
  rw [List.any_eq_false] at plain
  exact absurd (lacks_parameter rfl number) (plain _ member)

theorem condition_of_select (room : q.overflows text = false)
    (read : (select q.kind).condition text = .ok condition) : q.condition text = .ok condition := by
  by_cases written : text = ""
  · subst written
    exact read
  obtain ⟨unmarked, free, tokens, rest, lexed, read⟩ := (condition_eq_ok_iff written).mp read
  obtain ⟨reading, built, fits, resolved, ended, plain⟩ := conditionOf_eq_ok_iff.mp read
  have fits' : reading.fits q.outer = true := by simpa [overflows, lexed, built, fits] using room
  have served : tokens.any q.lacks = false := by
    rw [List.any_eq_false] at plain ⊢
    exact fun token member lacking => plain token member (lacks_of_lacks rfl lacking)
  rw [resolve?_select q plain built] at resolved
  have whole : q.conditionOf tokens rest = .ok condition :=
    conditionOf_eq_ok_iff.mpr ⟨reading, built, fits', resolved, ended, served⟩
  exact (condition_eq_ok_iff written).mpr ⟨unmarked, free, tokens, rest, lexed, whole⟩

theorem condition_of_overflow (exceeds : q.overflows text = true)
    (read : (select q.kind).condition text = .ok condition) : q.condition text = .error .overflow := by
  have written : text ≠ "" := by
    rintro rfl
    cases exceeds
  obtain ⟨unmarked, free, tokens, rest, lexed, read⟩ := (condition_eq_ok_iff written).mp read
  obtain ⟨reading, built, fits, -⟩ := conditionOf_eq_ok_iff.mp read
  have tight : reading.fits q.outer = false := by simpa [overflows, lexed, built, fits] using exceeds
  have chars : text.toList.isEmpty = false := by simpa using written
  have served : q.serves text = true := by simp [serves, unmarked]
  have zero : text.toList.contains '\x00' = false := by simpa using free
  simp only [Query.condition, chars, served, zero, unmarked, lexed, conditionOf, built, tight]
  rfl

theorem condition_select_of (longer : (select q.kind).outer ≤ q.outer) (own : q.lends text = false)
    (read : q.condition text = .ok condition) :
    (select q.kind).condition text = .ok condition := by
  by_cases written : text = ""
  · subst written
    exact read
  obtain ⟨unmarked, free, tokens, rest, lexed, read⟩ := (condition_eq_ok_iff written).mp read
  obtain ⟨reading, built, fits, resolved, ended, served⟩ := conditionOf_eq_ok_iff.mp read
  have plain : tokens.any (select q.kind).lacks = false := by
    simpa [lends, unmarked, lexed, served] using own
  have fits' : reading.fits (select q.kind).outer = true := Reading.fits_mono longer fits
  rw [← resolve?_select q plain built] at resolved
  have whole : (select q.kind).conditionOf tokens rest = .ok condition :=
    conditionOf_eq_ok_iff.mpr ⟨reading, built, fits', resolved, ended, plain⟩
  exact (condition_eq_ok_iff written).mpr ⟨unmarked, free, tokens, rest, lexed, whole⟩

/-! Texts that the grammar has no part for -/

theorem conditionOf_eq_foreign_iff {tokens : List Token} {rest : List Char} :
    q.conditionOf tokens rest = .error .foreign ↔ Reading.ofTokens? tokens = none := by
  unfold conditionOf
  split
  next => simp [*]
  next reading built =>
    simp only [built, reduceCtorEq, iff_false]
    repeat' split
    all_goals nofun

theorem condition_eq_foreign_iff (unmarked : Mark.names text.toList = []) : q.condition text = .error .foreign ↔
    text ≠ "" ∧ '\x00' ∉ text.toList ∧
      ∀ tokens rest, Token.lex text.toList = some (tokens, rest) → Reading.ofTokens? tokens = none := by
  by_cases written : text = ""
  · subst written
    simp [condition_empty]
  have chars : text.toList.isEmpty = false := by simpa using written
  have served : q.serves text = true := by simp [serves, unmarked]
  have zero : text.toList.contains '\x00' = true ↔ '\x00' ∈ text.toList := List.contains_iff_mem
  rw [← zero, Bool.not_eq_true]
  unfold Query.condition
  simp only [chars, served, unmarked]
  cases text.toList.contains '\x00' with
  | true => simp
  | false =>
    cases Token.lex text.toList with
    | none => simp [written]
    | some read =>
      obtain ⟨tokens, rest⟩ := read
      simp [written, conditionOf_eq_foreign_iff]

theorem unmarked_of_foreign (foreign : (select q.kind).condition text = .error .foreign) :
    Mark.names text.toList = [] := by
  by_contra marked
  cases foreign.symm.trans (condition_of_marked rfl marked)

theorem condition_of_foreign (foreign : (select q.kind).condition text = .error .foreign) :
    q.condition text = .error .foreign := by
  have unmarked := unmarked_of_foreign foreign
  exact (condition_eq_foreign_iff unmarked).mpr ((condition_eq_foreign_iff unmarked).mp foreign)

theorem overflows_of_foreign (foreign : (select q.kind).condition text = .error .foreign) : q.overflows text = false := by
  obtain ⟨-, -, unbuilt⟩ := (condition_eq_foreign_iff (unmarked_of_foreign foreign)).mp foreign
  unfold overflows
  split
  next tokens rest lexed => simp [unbuilt tokens rest lexed]
  next => rfl

theorem foreign_of_condition (own : q.lends text = false) (foreign : q.condition text = .error .foreign) :
    (select q.kind).condition text = .error .foreign := by
  have unmarked : Mark.names text.toList = [] := by
    by_contra marked
    have some : (Mark.names text.toList).isEmpty = false := by simpa using marked
    have unserved : q.serves text = false := by simpa [lends, some] using own
    cases foreign.symm.trans (condition_of_unserved unserved)
  exact (condition_eq_foreign_iff unmarked).mpr ((condition_eq_foreign_iff unmarked).mp foreign)

/-! What is left to the engine -/

variable {store : Store}

theorem ruled?_of_select (room : q.overflows text = false) (unruled : (select q.kind).ruled? text store = none) :
    q.ruled? text store = none := by
  rcases ruled?_eq_none unruled with foreign | ⟨condition, read, strained⟩
  · exact ruled?_of_foreign (condition_of_foreign foreign) store
  · exact ruled?_of_strained (condition_of_select room read) strained

theorem hits_of_overflow (engine : Engine) (exceeds : q.overflows text = true)
    (unrefused : ∀ defect, (select q.kind).ruled? text store ≠ some (.error defect)) :
    q.hits engine text store = .error .overflow := by
  obtain ⟨condition, read⟩ : ∃ condition, (select q.kind).condition text = .ok condition := by
    cases ruled : (select q.kind).ruled? text store with
    | some found =>
      cases found with
      | ok condition => exact ⟨condition, (ruled?_eq_some_ok ruled).1⟩
      | error defect => exact absurd ruled (unrefused defect)
    | none =>
      rcases ruled?_eq_none ruled with foreign | ⟨condition, read, -⟩
      · cases exceeds.symm.trans (overflows_of_foreign foreign)
      · exact ⟨condition, read⟩
  exact hits_error engine (condition_of_overflow exceeds read) nofun store

theorem hits_of_refused (engine : Engine) (longer : (select q.kind).outer ≤ q.outer) (own : q.lends text = false)
    {defect : Defect} (refused : (select q.kind).ruled? text store = some (.error defect)) :
    ∃ defect, q.hits engine text store = .error defect := by
  obtain ⟨unread, other⟩ := ruled?_eq_some_error refused
  cases read : q.condition text with
  | ok condition => cases unread.symm.trans (condition_select_of longer own read)
  | error defect' =>
    refine ⟨defect', hits_error engine read (fun foreign => ?_) store⟩
    subst foreign
    cases unread.symm.trans (foreign_of_condition own read)
    exact other rfl

end Sql.Query

namespace Alteration

variable {change : Alteration} {kind : Kind} {s : Session}

def mark? : Alteration → Option Bool
  | scope => some false
  | noscope => some true
  | delete => none

theorem longer (change : Alteration) (kind : Kind) : (Query.select kind).outer ≤ (change.query kind).outer := by
  cases change
  · exact Nat.le_of_ble_eq_true rfl
  · exact Nat.le_of_ble_eq_true rfl
  · exact Nat.le_of_ble_eq_true rfl

theorem rows_apply {unscoped : Bool} (marks : change.mark? = some unscoped) (store : Store) (matched : Row → Bool) :
    (change.apply store matched).rows = store.rows.map fun row => if matched row then { row with unscoped } else row := by
  cases change with
  | delete => cases marks
  | scope | noscope =>
    cases marks
    rfl

end Alteration

/-- The text is an expression to the engine: it has a value for each row, the same one behind every statement, or none
    at all. -/
def Sql.Engine.Evaluates (engine : Engine) (kind : Kind) (text : String) (store : Store) : Prop :=
  ∃ value : Except Defect (Row → Bool), engine.select kind text store = value.map (store.table kind).filter ∧
    ∀ change : Alteration, change.suits kind = true →
      engine.change (change.query kind) text store = value.map fun holds => ⟨holds, true⟩

def Sql.Engine.evaluating (value : String → Except Defect (Row → Bool)) : Engine where
  select kind text store := (value text).map (store.table kind).filter
  change _ text _ := (value text).map fun holds => ⟨holds, true⟩

theorem Sql.Engine.evaluates_evaluating (value : String → Except Defect (Row → Bool)) (kind : Kind) (text : String)
    (store : Store) : (Engine.evaluating value).Evaluates kind text store :=
  ⟨value text, rfl, fun _ _ => rfl⟩

namespace Alteration

variable {kind : Kind} {engine : Engine} {text : String} {store : Store}
  (expression : (Query.select kind).ruled? text store = none → engine.Evaluates kind text store)

theorem hits_of_overflow (change : Alteration) (exceeds : (change.query kind).overflows text = true)
    (unrefused : ∀ defect, (Query.select kind).ruled? text store ≠ some (.error defect)) :
    (change.query kind).hits engine text store = .error .overflow := by
  refine Query.hits_of_overflow engine exceeds fun defect => ?_
  rw [query_kind]
  exact unrefused defect

theorem hits_of_unruled (change : Alteration) (room : (change.query kind).overflows text = false)
    (unruled : (Query.select kind).ruled? text store = none) :
    (change.query kind).hits engine text store =
      (engine.change (change.query kind) text store).map (·.within kind) := by
  have unruled' : (change.query kind).ruled? text store = none :=
    Query.ruled?_of_select room (by rwa [query_kind])
  rw [Query.hits_of_unruled engine unruled', query_kind]

include expression

theorem hits_of_rows {rows : List Row} (found : Query.rows kind engine text store = .ok rows) :
    ∃ holds, rows = (store.table kind).filter holds ∧ ∀ change : Alteration, change.suits kind = true →
      ((change.query kind).overflows text = false →
        (change.query kind).hits engine text store = .ok (Hits.within ⟨holds, true⟩ kind)) ∧
      ((change.query kind).overflows text = true →
        (change.query kind).hits engine text store = .error .overflow) := by
  unfold Query.rows at found
  have unrefused (defect : Defect) : (Query.select kind).ruled? text store ≠ some (.error defect) := by
    intro refused
    rw [refused] at found
    cases found
  cases ruled : (Query.select kind).ruled? text store with
  | some result =>
    rw [ruled] at found
    cases result with
    | error defect => cases found
    | ok condition =>
      cases found
      obtain ⟨read, calm⟩ := Query.ruled?_eq_some_ok ruled
      refine ⟨_, rfl, fun change _ => ⟨fun room => ?_, (hits_of_overflow change · unrefused)⟩⟩
      have read' : (change.query kind).condition text = .ok condition :=
        Query.condition_of_select room (by rwa [query_kind])
      rw [← query_kind change kind] at calm
      have answered := Query.hits_ok engine read' calm
      rwa [query_kind] at answered
  | none =>
    obtain ⟨value, selected, changed⟩ := expression ruled
    rw [ruled] at found
    cases value with
    | error defect => cases selected.symm.trans found
    | ok holds =>
      cases selected.symm.trans found
      refine ⟨holds, rfl, fun change suits => ⟨fun room => ?_, (hits_of_overflow change · unrefused)⟩⟩
      rw [hits_of_unruled change room ruled, changed change suits]
      rfl

theorem hits_of_refused {defect : Defect} (refused : Query.rows kind engine text store = .error defect)
    (change : Alteration) (suits : change.suits kind = true) (own : (change.query kind).lends text = false) :
    ∃ defect, (change.query kind).hits engine text store = .error defect := by
  unfold Query.rows at refused
  cases ruled : (Query.select kind).ruled? text store with
  | some result =>
    rw [ruled] at refused
    cases result with
    | ok condition => cases refused
    | error defect =>
      have longer : (Query.select (change.query kind).kind).outer ≤ (change.query kind).outer := by
        rw [query_kind]
        exact change.longer kind
      exact Query.hits_of_refused engine longer own (by rwa [query_kind])
  | none =>
    obtain ⟨value, selected, changed⟩ := expression ruled
    rw [ruled] at refused
    cases value with
    | ok holds => cases selected.symm.trans refused
    | error defect =>
      cases room : (change.query kind).overflows text with
      | false =>
        rw [hits_of_unruled change room ruled, changed change suits]
        exact ⟨defect, rfl⟩
      | true => exact ⟨_, hits_of_overflow change room (by simp [ruled])⟩

end Alteration

namespace Session

variable {s : Session}

theorem condition_everything (kind : Kind) :
    (Query.select kind).condition Filter.everything.text = .ok (.literal (.int 1)) := by
  have lexed : Token.lex Filter.everything.text.toList = some ([.integer 1], []) := by decide +kernel
  have read : (Query.select kind).conditionOf [.integer 1] [] = .ok (.literal (.int 1)) :=
    Query.conditionOf_eq_ok_iff.mpr ⟨_, rfl, rfl, Term.resolve?_one _, rfl, rfl⟩
  exact (Query.condition_eq_ok_iff (by decide)).mpr ⟨by decide, by decide, _, _, lexed, read⟩

theorem filter_everything (formed : s.contents.WellFormed) (kind : Kind) (engine : Engine) (rows : List Row) :
    (perform (Action.filter kind ⟨.everything, engine⟩) s).1 = .ok rows ↔
      (perform (Action.list kind) s).1 = .ok rows := by
  have fit : (Query.select kind).misfit? Filter.everything.script = none := Query.misfit?_plain _ _
  by_cases ready : s.Ready
  · have all : (s.contents.table kind).filter (Expr.literal (.int 1)).matchesRow = s.contents.table kind :=
      List.filter_eq_self.mpr fun _ _ => rfl
    have answered : Query.rows kind engine Filter.everything.text s.contents = _ :=
      Query.rows_ok engine (condition_everything kind) rfl
    rw [Action.perform_filter (f := ⟨.everything, engine⟩) ready formed fit answered, Action.perform_list ready formed, all]
  · obtain ⟨e, other, failed⟩ := Statement.perform_contents_unready ready
    have refused : perform (Statement.listRows kind) s = (.error e, s) := perform_bind_error failed _
    rw [Action.perform_filter_refused (f := ⟨.everything, engine⟩) (fun _ => fit) (fun ready' => absurd ready' ready),
      Action.list, Action.guarded_error other refused]
    simp only [reduceCtorEq]

end Session
end Footprint
