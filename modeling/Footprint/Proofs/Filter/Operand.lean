import Footprint.Proofs.Filter.Selection

namespace Footprint

open Sql

variable {kind : Kind} {s : Session}

/-! Removing rows of one kind -/

namespace Store

variable {store : Store} {root : Row → Bool} {row : Row}

theorem depth_lt_of_below (roots : ∀ row, root row = true → row.kind = kind) (below : store.Below root row)
    (other : root row = false) : depth kind < depth row.kind := by
  induction below with
  | root found => simp [found] at other
  | @link row parent member child below ih =>
    have less := depth_lt_of_isChildOf child
    cases found : root parent with
    | true => rwa [roots parent found] at less
    | false => exact Nat.lt_trans (ih found) less

theorem table_delete (roots : ∀ row, root row = true → row.kind = kind) :
    (store.delete root).table kind = (store.table kind).filter fun row => !root row := by
  rw [table, delete, List.filter_filter, table, List.filter_filter]
  refine List.filter_congr fun row member => ?_
  by_cases same : row.kind = kind
  · -- a row of the kind that hangs below a root would be deeper than its own kind
    have removed : store.isBelow root longestChain row = root row := by
      rw [Bool.eq_iff_iff, isBelow_longestChain_iff]
      refine ⟨fun below => ?_, .root⟩
      rw [← Bool.not_eq_false]
      intro other
      have less := depth_lt_of_below roots below other
      rw [same] at less
      exact Nat.lt_irrefl _ less
    simp [same, removed]
  · have other : (row.kind == kind) = false := by simpa using same
    simp [other]

end Store

namespace Action

variable {f : Search} (enforced : s.enforced = true)

include enforced in
theorem perform_delete (ready : s.Ready) (fit : (Query.delete kind).misfit? f.script = none) {condition : Expr}
    (read : (Query.delete kind).condition f.text = .ok condition)
    (calm : condition.strains (s.contents.table kind) = false) :
    let removed := perform (delete kind f) s
    removed.1 = .ok ((s.contents.table kind).filter condition.matchesRow).length ∧
      removed.2.contents.table kind = (s.contents.table kind).filter fun row => !condition.matchesRow row := by
  have run : perform (bulk .delete kind (changeMatching (.delete kind) f Store.delete)) s = _ :=
    perform_bulk ready fit (Query.hits_ok f.engine read calm)
  rw [← perform_delete_eq enforced] at run
  intro removed
  have roots (row : Row) (found : (row.kind == kind && condition.matchesRow row) = true) : row.kind = kind := by
    simp only [Bool.and_eq_true, beq_iff_eq] at found
    exact found.1
  have rows := s.contents.filter_rows kind condition.matchesRow
  constructor
  · refine (congrArg Prod.fst run).trans (congrArg (fun rows => Except.ok (List.length rows)) rows)
  · refine (congrArg (fun left => left.2.contents.table kind) run).trans ((Store.table_delete roots).trans ?_)
    refine List.filter_congr fun row member => ?_
    simp [(Store.mem_table.mp member).2]

include enforced in
theorem perform_delete_refused (fit : s.isOpen = true → (Query.delete kind).misfit? f.script = none)
    (refused : s.Ready → ∃ defect, (Query.delete kind).hits f.engine f.text s.contents = .error defect) :
    perform (delete kind f) s = (.error (.query .delete kind), s.rollback) := by
  rw [perform_delete_eq enforced]
  exact perform_bulk_refused fit refused

end Action

/-! The word in its place -/

namespace Filter

def splitKey (column value : List Char) : List Piece :=
  [.verbatim "value".toList, .verbatim "=".toList, .term column value]

def ofSplitKey (column value : List Char) : Filter := ⟨String.ofList (render (splitKey column value))⟩

theorem parse_operand (v : String) : parse ["where", "value", "=", v] = .ok (match splitTerm? v.toList with
    | none => ofKey v
    | some (column, value) => ofSplitKey column value) := by
  have words : pieces false (["value", "=", v].map String.toList) =
      .verbatim "value".toList :: .verbatim "=".toList :: pieces true [v.toList] := rfl
  rw [parse_where, words]
  cases split : splitTerm? v.toList with
  | none => simp [pieces, split, ofKey, render, Piece.render]
  | some parts => simp [pieces, split, ofSplitKey, splitKey]

theorem parse_leaked (v : String) : parse ["where", "value", "=", "value or id=" ++ v] =
    .ok (ofSplitKey "value or id".toList v.toList) := by
  have split : splitTerm? ("value or id=" ++ v).toList = some ("value or id".toList, v.toList) := by
    have named : "value or id".toList ≠ [] ∧ '=' ∉ "value or id".toList := by decide
    rw [String.toList_append]
    exact splitTerm?_append named.1 named.2 v.toList
  rw [parse_operand, split]

theorem plain_of_parse {words : List String} {f : Filter} (parsed : parse words = .ok f) :
    ∃ text, f = ⟨.plain text⟩ := by
  cases words with
  | nil => cases parsed
  | cons first words =>
    rw [parse] at parsed
    split at parsed <;> cases parsed
    exact ⟨_, rfl⟩

theorem ofSplitKey_ne {v : String} {column value : List Char} (split : splitTerm? v.toList = some (column, value)) :
    ofSplitKey column value ≠ ofKey v := by
  obtain ⟨whole, named, apart⟩ := splitTerm?_eq_some split
  intro same
  have texts := congrArg (fun f => f.text.toList.drop 9) same
  have behind : column ++ [' '] ++ '=' :: (' ' :: literal value) =
      '\'' :: doubleQuotes column ++ '=' :: (doubleQuotes value ++ ['\'']) := by
    simpa [ofSplitKey, splitKey, ofKey, render, Piece.render, literal, whole, doubleQuotes_append,
      doubleQuotes_cons] using texts
  have apart' : '=' ∉ column ++ [' '] ∧ '=' ∉ '\'' :: doubleQuotes column := by
    simp [mem_doubleQuotes, apart]
  have read := congrArg splitTerm? behind
  rw [splitTerm?_append (by simp) apart'.1, splitTerm?_append (by simp) apart'.2] at read
  have front : column ++ [' '] = '\'' :: doubleQuotes column := congrArg Prod.fst (Option.some.inj read)
  cases column with
  | nil => exact named rfl
  | cons c column =>
    -- a leading quote would be doubled, and nothing in front makes up for it
    obtain rfl : c = '\'' := (List.cons.inj front).1
    have rest : column ++ [' '] = doubleQuotes ('\'' :: column) := (List.cons.inj front).2
    have length := congrArg List.length rest
    have longer := length_doubleQuotes column
    simp only [doubleQuotes_quote, List.length_append, List.length_cons, List.length_nil] at length
    omega

end Filter

section

variable (keyed : kind ≠ .link) {v : String} (free : '\x00' ∉ v.toList)

include keyed free in
theorem Action.perform_delete_ofKey (unmarked : (Filter.ofKey v).Unmarked) (ready : s.Ready) (sound : s.Sound)
    (engine : Engine) :
    let removed := perform (delete kind ⟨.ofKey v, engine⟩) s
    removed.1 = .ok ((s.contents.table kind).filter (·.key == .value v)).length ∧
      removed.2.contents.table kind = (s.contents.table kind).filter (·.key != .value v) := by
  obtain ⟨condition, read, calm, found⟩ :=
    condition_ofKey keyed free unmarked (Query.delete kind) (Query.outer_delete_le kind) rfl
  have each (row) (member : row ∈ s.contents.table kind) : condition.matchesRow row = (row.key == .value v) := by
    obtain ⟨member, same⟩ := Store.mem_table.mp member
    exact found row (sound.contents.rows row member) (sound.contents.plain row member) same
  have fit : (Query.delete kind).misfit? (Filter.ofKey v).script = none := Query.misfit?_plain _ _
  obtain ⟨count, left⟩ := perform_delete (f := ⟨.ofKey v, engine⟩) sound.enforced ready fit read (calm _)
  refine ⟨count.trans ?_, left.trans ?_⟩
  · rw [List.filter_congr each]
  · exact List.filter_congr fun row member => congrArg (!·) (each row member)

def leakedTokens (v : String) : List Token :=
  let name (column : Column) : Token := .name ⟨column.name.toList, false, true⟩
  [name .value, .sign .eq, name .value, .keyword .or, name .id, .sign .eq, .text v.toList]

theorem reads_leaked (v : String) :
    Token.Reads (Filter.render (Filter.splitKey "value or id".toList v.toList)) (leakedTokens v) [] := by
  let last : List Char := Filter.Piece.render (.term "id".toList v.toList) ++ []
  let middle : List Char := ' ' :: ("value".toList ++ ' ' :: 'o' :: 'r' :: last)
  have first : Token.Reads (' ' :: ("value".toList ++ ' ' :: '=' :: middle))
      [.name ⟨"value".toList, false, true⟩, .sign .eq] middle := (Token.Reads.column .value _).trans (.equals _)
  have second : Token.Reads middle [.name ⟨"value".toList, false, true⟩, .keyword .or] last :=
    (Token.Reads.column .value _).trans (.or _)
  have third : Token.Reads last [.name ⟨"id".toList, false, true⟩, .sign .eq, .text v.toList] [] :=
    .term .id v.toList (by simp)
  have text : Filter.render (Filter.splitKey "value or id".toList v.toList) =
      ' ' :: ("value".toList ++ ' ' :: '=' :: middle) := by
    simp [middle, last, Filter.render, Filter.splitKey, Filter.Piece.render]
  rw [text]
  exact (first.trans second).trans third

include keyed free in
theorem condition_leaked (unmarked : (Filter.ofSplitKey "value or id".toList v.toList).Unmarked) (q : Query)
    (room : q.outer ≤ 92) (same : q.kind = kind) :
    ∃ condition, q.condition (Filter.ofSplitKey "value or id".toList v.toList).text = .ok condition ∧
      (∀ rows, condition.strains rows = false) ∧
      ∀ row : Row, row.Plain → row.kind = kind → condition.matchesRow row = true := by
  have zero : '\x00' ∉ Filter.render (Filter.splitKey "value or id".toList v.toList) := by
    simp [Filter.render, Filter.splitKey, Filter.Piece.render, Filter.literal, Filter.mem_doubleQuotes, free]
  have plain : ∀ token ∈ leakedTokens v, token.Plain := by
    simp [leakedTokens, Token.Plain]
  let part (column : Column) : NamePart := ⟨column.name.toList, false, true⟩
  let wanted : Value := .text (String.ofList v.toList)
  let term : Term := .or (.compare .eq (.name [part .value]) (.name [part .value]))
    (.compare .eq (.name [part .id]) (.literal wanted))
  have parsed : Reading.ofTokens? (leakedTokens v) = some ⟨term, 3, 5⟩ := rfl
  have fits : Reading.fits ⟨term, 3, 5⟩ q.outer = true := by
    have space : q.outer + 5 ≤ Reading.greatestDepth := by
      simp only [Reading.greatestDepth]
      omega
    simp [Reading.fits, space, Reading.greatestHeight]
  have named : Column.value ∈ q.kind.columns ∧ Column.id ∈ q.kind.columns := by
    subst same
    cases kind : q.kind <;> simp [kind, Kind.columns, Kind.subjectColumns] at keyed ⊢
  have value : (Term.name [part .value]).resolve? q = some (.column .value) := Term.resolve?_name named.1
  have id : (Term.name [part .id]).resolve? q = some (.column .id) := Term.resolve?_name named.2
  have text : (Term.literal wanted).resolve? q = some (.literal wanted) := by rw [Term.resolve?]
  have resolved : term.resolve? q =
      some (.or (.compare .eq (.column .value) (.column .value)) (.compare .eq (.column .id) (.literal wanted))) :=
    Term.resolve?_or (Term.resolve?_equals value value) (Term.resolve?_equals id text)
  have names : Mark.names (Filter.render (Filter.splitKey "value or id".toList v.toList)) = [] := by
    rwa [Filter.Unmarked, Filter.ofSplitKey, Filter.text_plain, String.toList_ofList] at unmarked
  have read := q.condition_of_reads (reads_leaked v) plain zero names (List.cons_ne_nil _ _) parsed
  rw [if_pos fits, resolved] at read
  refine ⟨_, read, fun rows => by simp [Expr.strains], fun row plain member => ?_⟩
  -- every row has a value, which equals itself
  obtain ⟨key, cell⟩ : ∃ key, row.cell .value = .text key := by
    obtain ⟨id, subject, attributes, unscoped⟩ := row
    cases subject
    case link => exact absurd member.symm keyed
    case raggedAddress => cases plain.subject .value
    all_goals exact ⟨_, rfl⟩
  rw [Expr.matchesRow_or, Expr.matchesRow_compare, Bool.or_eq_true]
  left
  rw [beq_iff_eq, Comparison.eval_eq, Expr.eval, cell]
  simp [Expr.affinity, affinityOf, Affinity.ofSides, Affinity.compare?, Value.ofCell, Value.compare?,
    Statement.compareText_eq_iff]

include keyed free in
theorem Action.perform_filter_leaked (unmarked : (Filter.ofSplitKey "value or id".toList v.toList).Unmarked)
    (ready : s.Ready) (formed : s.contents.WellFormed) (engine : Engine) :
    (perform (filter kind ⟨.ofSplitKey "value or id".toList v.toList, engine⟩) s).1 = .ok (s.contents.table kind) := by
  obtain ⟨condition, read, calm, all⟩ :=
    condition_leaked keyed free unmarked (Query.select kind) (Query.outer_select_le kind) rfl
  have selected := perform_filter (f := ⟨.ofSplitKey "value or id".toList v.toList, engine⟩) ready formed
    (Query.misfit?_plain _ _) (Query.rows_ok engine read (calm _))
  refine selected.trans (congrArg Except.ok (List.filter_eq_self.mpr fun row member => ?_))
  obtain ⟨stored, same⟩ := Store.mem_table.mp member
  exact all row (formed.plain row stored) same

include keyed free in
theorem Action.perform_delete_leaked (unmarked : (Filter.ofSplitKey "value or id".toList v.toList).Unmarked)
    (ready : s.Ready) (sound : s.Sound) (engine : Engine) :
    (perform (delete kind ⟨.ofSplitKey "value or id".toList v.toList, engine⟩) s).2.contents.table kind = [] := by
  obtain ⟨condition, read, calm, all⟩ :=
    condition_leaked keyed free unmarked (Query.delete kind) (Query.outer_delete_le kind) rfl
  obtain ⟨-, left⟩ := perform_delete (f := ⟨.ofSplitKey "value or id".toList v.toList, engine⟩) sound.enforced ready
    (Query.misfit?_plain _ _) read (calm _)
  refine left.trans (List.filter_eq_nil_iff.mpr fun row member => ?_)
  obtain ⟨stored, same⟩ := Store.mem_table.mp member
  simp [all row (sound.contents.plain row stored) same]

end

namespace Session

end Session
end Footprint
