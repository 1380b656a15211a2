import Footprint.Proofs.Session.Congruence
import Footprint.Proofs.Sql.Condition
import Footprint.Proofs.Sql.Engine
import Footprint.Proofs.Workspace.Reachable
import Mathlib.Data.List.Basic

namespace Footprint

open Sql

variable {kind : Kind} {s : Session}

/-! Filters of any text -/

theorem RowCache.cached_self (read : List Row)
    (apart : ∀ row ∈ read, ∀ other ∈ read, row.kind = other.kind → row.id = other.id → row = other) :
    (RowCache.mk read).cached read = read := by
  have found (row : Row) (member : row ∈ read) : (RowCache.mk read).find? row.kind row.id = some row := by
    have any : (read.find? fun other => other.kind == row.kind && other.id == row.id).isSome = true := by
      rw [List.find?_isSome]
      exact ⟨row, member, by simp⟩
    obtain ⟨other, first⟩ := Option.isSome_iff_exists.mp any
    have same : other.kind = row.kind ∧ other.id = row.id := by simpa using List.find?_some first
    rw [find?, first, apart other (List.mem_of_find?_eq_some first) row member same.1 same.2]
  rw [cached, List.filterMap_congr found, List.filterMap_some]

theorem Store.filter_rows (store : Store) (kind : Kind) (p : Row → Bool) :
    store.rows.filter (fun row => row.kind == kind && p row) = (store.table kind).filter p := by
  rw [table, List.filter_filter]
  exact List.filter_congr fun row _ => Bool.and_comm ..

namespace Action

variable {f : Search}

theorem perform_filter (ready : s.Ready) (formed : s.contents.WellFormed)
    (fit : (Query.select kind).misfit? f.script = none) {holds : Row → Bool}
    (answered : Query.rows kind f.engine f.text s.contents = .ok ((s.contents.table kind).filter holds)) :
    (perform (filter kind f) s).1 = .ok ((s.contents.table kind).filter holds) := by
  have searched := Statement.perform_search (Query.rows kind f.engine) ready fit
  rw [answered] at searched
  have found : perform (Statement.filterRows kind f) s =
      perform (Statement.fetch ((s.contents.table kind).filter holds)) s := perform_bind_ok searched _
  have apart (row) (member : row ∈ (s.contents.table kind).filter holds) : row ∈ s.contents.rows :=
    (Store.mem_table.mp (List.mem_filter.mp member).1).1
  rw [filter, guarded_ok found]
  change Except.ok ((s.seen.refresh _).cached _) = _
  rw [RowCache.cached_refresh, RowCache.cached_self]
  intro row member other member'
  exact formed.eq_of_id (apart row member) (apart other member')

theorem perform_filter_refused (fit : s.isOpen = true → (Query.select kind).misfit? f.script = none)
    (refused : s.Ready → ∃ defect, Query.rows kind f.engine f.text s.contents = .error defect) :
    (perform (filter kind f) s).1 = .error (.query .filter kind) := by
  obtain ⟨result, searched, ends⟩ := Statement.search_ends s (.select kind) f.toFilter (Query.rows kind f.engine)
  cases ends with
  | found ready _ answered =>
    obtain ⟨defect, refused⟩ := refused ready
    cases answered.symm.trans refused
  | failed other =>
    have failed : perform (Statement.filterRows kind f) s = _ := perform_bind_error searched _
    rw [filter, guarded_error other failed]
  | misfit isOpen unfit => cases (fit isOpen).symm.trans unfit

end Action

/-- No mark for a parameter stands in the text. -/
def Filter.Unmarked (f : Filter) : Prop := Mark.names f.text.toList = []

instance (f : Filter) : Decidable f.Unmarked := inferInstanceAs (Decidable (_ = _))

/-! Filters of equations -/

theorem Filter.parse_where (words : List String) :
    parse ("where" :: words) = .ok ⟨String.ofList (render (pieces false (words.map String.toList)))⟩ := by
  have start : Text.isWord "where" "where".toList = true := by decide +kernel
  rw [parse, if_pos start]

namespace Equation

def word (e : Equation kind) : String := e.column.name ++ "=" ++ e.wanted.spelled

theorem toList_word (e : Equation kind) :
    e.word.toList = e.column.name.toList ++ '=' :: e.wanted.spelled.toList := by
  simp [word]

theorem splitTerm?_word (e : Equation kind) :
    Filter.splitTerm? e.word.toList = some (e.column.name.toList, e.wanted.spelled.toList) := by
  have named : e.column.name.toList ≠ [] ∧ '=' ∉ e.column.name.toList := by
    cases e.column
    case field a => cases a <;> decide
    all_goals decide
  rw [toList_word]
  exact Filter.splitTerm?_append named.1 named.2 _

theorem isValueOperator_word (e : Equation kind) : Filter.isValueOperator e.word.toList = false := by
  have long : 2 ≤ e.column.name.toList.length := by
    cases e.column
    case field a => cases a <;> decide
    all_goals decide
  have length : 3 ≤ e.word.toList.length := by
    rw [toList_word, List.length_append, List.length_cons]
    omega
  have equals : '=' ∈ e.word.toList := by simp [toList_word]
  rw [← Bool.not_eq_true]
  intro operator
  simp only [Filter.isValueOperator, Bool.or_eq_true, beq_iff_eq] at operator
  rcases operator with (same | same) | same
  · simp [same] at length
  · simp [same] at length
  · have folded : e.word.toList.map Text.fold = "like".toList := by simpa [Text.isWord] using same
    have member : Text.fold '=' ∈ "like".toList := folded ▸ List.mem_map_of_mem equals
    exact absurd member (by decide)

theorem pieces_word (e : Equation kind) (later : List (List Char)) :
    Filter.pieces false (e.word.toList :: later) = e.piece :: Filter.pieces false later := by
  rw [Filter.pieces, isValueOperator_word, splitTerm?_word]
  rfl

end Equation

namespace Connective

variable (c : Connective)

def words (equations : List (Equation kind)) : List String := (equations.map Equation.word).intersperse c.word

theorem pieces_words (first : Equation kind) (rest : List (Equation kind)) :
    Filter.pieces false ((c.words (first :: rest)).map String.toList) = c.pieces first rest := by
  have word (later : List (List Char)) :
      Filter.pieces false (c.word.toList :: later) = .verbatim c.word.toList :: Filter.pieces false later := by
    cases c <;> rfl
  induction rest generalizing first with
  | nil => exact first.pieces_word []
  | cons e rest ih =>
    have split : c.words (first :: e :: rest) = first.word :: c.word :: c.words (e :: rest) := rfl
    rw [split, List.map_cons, List.map_cons, first.pieces_word, word, ih]
    rfl

def filter (first : Equation kind) (rest : List (Equation kind)) : Filter :=
  ⟨String.ofList (Filter.render (c.pieces first rest))⟩

theorem parse_words (first : Equation kind) (rest : List (Equation kind)) :
    Filter.parse ("where" :: c.words (first :: rest)) = .ok (c.filter first rest) := by
  rw [Filter.parse_where, pieces_words]
  rfl

end Connective

/-- A filter's text of so many equations is refused, since the term of one more is too high. -/
def Connective.greatestCount : Nat := 999

theorem Connective.strains_joined (c : Connective) (first : Equation kind) (rest : List (Equation kind)) (rows : List Row) :
    (c.joined first rest).strains rows = false := by
  have each (e : Equation kind) : e.expr.strains rows = false := by simp [Equation.expr, Expr.strains]
  have grows (l r : Expr) : (c.expr l r).strains rows = (l.strains rows || r.strains rows) := by
    cases c <;> rw [Connective.expr, Expr.strains]
  have calm (before : Expr) (known : before.strains rows = false) :
      (rest.foldl (fun condition e => c.expr condition e.expr) before).strains rows = false := by
    induction rest generalizing before with
    | nil => exact known
    | cons e rest ih => exact ih _ (by rw [grows, known, each, Bool.false_or])
  exact calm _ (each first)

theorem Action.perform_filter_equations (ready : s.Ready) (formed : s.contents.WellFormed) (c : Connective)
    (first : Equation kind) (rest : List (Equation kind)) (unmarked : (c.filter first rest).Unmarked) (engine : Engine) :
    (perform (filter kind ⟨c.filter first rest, engine⟩) s).1 =
      if (first :: rest).length ≤ Connective.greatestCount then
        .ok ((s.contents.table kind).filter (c.holds (first :: rest)))
      else .error (.query .filter kind) := by
  have names : Mark.names (Filter.render (c.pieces first rest)) = [] := by
    rwa [Filter.Unmarked, Connective.filter, Filter.text_plain, String.toList_ofList] at unmarked
  have read : (Query.select kind).condition (c.filter first rest).text =
      if rest.length + 2 ≤ Reading.greatestHeight then .ok (c.joined first rest) else .error .overflow :=
    c.condition_pieces (Query.select kind) (Query.outer_select_le kind) first rest names
  have fit : (Query.select kind).misfit? (c.filter first rest).script = none := Query.misfit?_plain _ _
  have bound : rest.length + 2 ≤ Reading.greatestHeight ↔ (first :: rest).length ≤ Connective.greatestCount := by
    simp only [Reading.greatestHeight, Connective.greatestCount, List.length_cons]
    omega
  by_cases few : (first :: rest).length ≤ Connective.greatestCount
  · rw [if_pos (bound.mpr few)] at read
    rw [if_pos few]
    have answered := Query.rows_ok engine read (c.strains_joined first rest (s.contents.table kind))
    rw [perform_filter (f := ⟨c.filter first rest, engine⟩) ready formed fit answered]
    refine congrArg Except.ok (List.filter_congr fun row member => ?_)
    have stored := (Store.mem_table.mp member).1
    exact c.matchesRow_joined first rest (formed.rows row stored) (formed.plain row stored)
  · rw [if_neg fun less => few (bound.mp less)] at read
    rw [if_neg few]
    have refused := Query.rows_error engine read nofun s.contents
    exact perform_filter_refused (fun _ => fit) fun _ => ⟨_, refused⟩

/-! The key -/

def Filter.ofKey (v : String) : Filter := ⟨String.ofList (render [.term "value".toList v.toList])⟩

def Equation.ofKey (keyed : kind ≠ .link) (v : String) (free : '\x00' ∉ v.toList) : Equation kind where
  column := .value
  wanted := .text v
  named := by cases kind <;> simp [Kind.columns, Kind.subjectColumns] at keyed ⊢
  suits := by simpa [Wanted.suits, Column.type] using free

theorem Filter.parse_ofKey (v : String) : Filter.parse ["where", "value=" ++ v] = .ok (ofKey v) := by
  have split : splitTerm? ("value=" ++ v).toList = some ("value".toList, v.toList) := by
    have named : "value".toList ≠ [] ∧ '=' ∉ "value".toList := by decide
    rw [String.toList_append]
    exact splitTerm?_append named.1 named.2 v.toList
  have other : isValueOperator ("value=" ++ v).toList = false := by
    simp [isValueOperator, Text.isWord, Text.fold, Text.lowerAscii]
  rw [parse_where, List.map_singleton, pieces, other, split]
  rfl

section

variable (keyed : kind ≠ .link) {v : String} (free : '\x00' ∉ v.toList)

theorem Equation.holds_ofKey {row : Row} (member : row.kind = kind) :
    (ofKey keyed v free).holds row = (row.key == .value v) := by
  obtain ⟨id, subject, attributes, unscoped⟩ := row
  rw [Bool.eq_iff_iff]
  cases subject
  case link => exact absurd member.symm keyed
  all_goals
    simp [ofKey, holds, Wanted.cell, Row.cell, Subject.cell, Cell.equals, Cell.number?, Row.key, Subject.key]

include keyed free in
theorem condition_ofKey (unmarked : (Filter.ofKey v).Unmarked) (q : Query) (room : q.outer ≤ 92) (same : q.kind = kind) :
    ∃ condition, q.condition (Filter.ofKey v).text = .ok condition ∧ (∀ rows, condition.strains rows = false) ∧
      ∀ row : Row, row.WellFormed → row.Plain → row.kind = kind → condition.matchesRow row = (row.key == .value v) := by
  subst same
  have names : Mark.names (Filter.render (Connective.and.pieces (.ofKey keyed v free) [])) = [] := by
    rwa [Filter.Unmarked, Filter.ofKey, Filter.text_plain, String.toList_ofList] at unmarked
  have read := Connective.and.condition_pieces q room (.ofKey keyed v free) [] names
  refine ⟨_, read, Connective.and.strains_joined _ [], fun row formed plain member => ?_⟩
  rw [Connective.and.matchesRow_joined (.ofKey keyed v free) [] formed plain]
  simp [Connective.holds, Equation.holds_ofKey keyed free member]

include keyed free in
theorem Action.perform_filter_ofKey (unmarked : (Filter.ofKey v).Unmarked) (ready : s.Ready)
    (formed : s.contents.WellFormed) (engine : Engine) :
    (perform (filter kind ⟨.ofKey v, engine⟩) s).1 = .ok ((s.contents.table kind).filter (·.key == .value v)) := by
  obtain ⟨condition, read, calm, found⟩ :=
    condition_ofKey keyed free unmarked (Query.select kind) (Query.outer_select_le kind) rfl
  have fit : (Query.select kind).misfit? (Filter.ofKey v).script = none := Query.misfit?_plain _ _
  have answered := Query.rows_ok engine read (calm (s.contents.table kind))
  rw [perform_filter (f := ⟨.ofKey v, engine⟩) ready formed fit answered]
  refine congrArg Except.ok (List.filter_congr fun row member => ?_)
  obtain ⟨member, same⟩ := Store.mem_table.mp member
  exact found row (formed.rows row member) (formed.plain row member) same

include keyed in
theorem Action.perform_getRow? (ready : s.Ready) (formed : s.contents.WellFormed) (v : String) :
    (perform (getRow? kind (.text v)) s).1 = .ok (s.contents.lookup? kind (.value v)) := by
  have suits : (Key.value v).suits kind = true := by simpa [Key.suits] using keyed
  obtain ⟨c, rfl, same⟩ := Key.exists_candidate suits
  have fits : c.key.fits = true := by rw [same]; rfl
  obtain ⟨cache, found⟩ := perform_getRow?_key ready formed fits
  rw [same] at found
  exact congrArg Prod.fst found

end

namespace Session

end Session
end Footprint
