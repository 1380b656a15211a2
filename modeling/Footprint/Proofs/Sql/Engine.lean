import Footprint.Sql.Engine

namespace Footprint.Sql.Query

variable {q : Query} {kind : Kind} {text : String} {condition : Expr} {defect : Defect}

theorem misfit?_plain (q : Query) (text : String) : q.misfit? (.plain text) = none := rfl

theorem ruled?_ok {store : Store} (read : q.condition text = .ok condition)
    (calm : condition.strains (store.table q.kind) = false) :
    q.ruled? text store = some (.ok condition) := by
  simp only [ruled?, read, calm, Bool.false_eq_true, if_false]

theorem ruled?_error (read : q.condition text = .error defect) (other : defect ≠ .foreign) (store : Store) :
    q.ruled? text store = some (.error defect) := by
  cases defect
  case foreign => exact absurd rfl other
  all_goals simp only [ruled?, read]

theorem ruled?_eq_some_ok {store : Store} (ruled : q.ruled? text store = some (.ok condition)) :
    q.condition text = .ok condition ∧ condition.strains (store.table q.kind) = false := by
  unfold ruled? at ruled
  split at ruled
  next found read =>
    split at ruled
    · cases ruled
    next calm =>
      cases ruled
      exact ⟨read, by simpa using calm⟩
  next => cases ruled
  next => cases ruled

theorem ruled?_eq_some_error {store : Store} (ruled : q.ruled? text store = some (.error defect)) :
    q.condition text = .error defect ∧ defect ≠ .foreign := by
  unfold ruled? at ruled
  split at ruled
  next => split at ruled <;> cases ruled
  next => cases ruled
  next found other read =>
    cases ruled
    exact ⟨read, other⟩

theorem ruled?_eq_none {store : Store} (unruled : q.ruled? text store = none) : q.condition text = .error .foreign ∨
    ∃ condition, q.condition text = .ok condition ∧ condition.strains (store.table q.kind) = true := by
  unfold ruled? at unruled
  split at unruled
  next found read =>
    split at unruled
    next strained => exact .inr ⟨found, read, strained⟩
    · cases unruled
  next read => exact .inl read
  next => cases unruled

theorem ruled?_of_foreign (foreign : q.condition text = .error .foreign) (store : Store) :
    q.ruled? text store = none := by
  simp only [ruled?, foreign]

theorem ruled?_of_strained {store : Store} (read : q.condition text = .ok condition)
    (strained : condition.strains (store.table q.kind) = true) : q.ruled? text store = none := by
  simp only [ruled?, read, strained, if_true]

theorem hits_of_unruled {store : Store} (engine : Engine) (unruled : q.ruled? text store = none) :
    q.hits engine text store = (engine.change q text store).map (·.within q.kind) := by
  rw [hits, unruled]

theorem hits_ok {store : Store} (engine : Engine) (read : q.condition text = .ok condition)
    (calm : condition.strains (store.table q.kind) = false) :
    q.hits engine text store = .ok (Hits.within ⟨condition.matchesRow, true⟩ q.kind) := by
  rw [hits, ruled?_ok read calm]
  rfl

theorem hits_error (engine : Engine) (read : q.condition text = .error defect) (other : defect ≠ .foreign) (store : Store) :
    q.hits engine text store = .error defect := by
  rw [hits, ruled?_error read other]
  rfl

theorem rows_ok {store : Store} (engine : Engine) (read : (select kind).condition text = .ok condition)
    (calm : condition.strains (store.table kind) = false) :
    rows kind engine text store = .ok ((store.table kind).filter condition.matchesRow) := by
  rw [rows, ruled?_ok read calm]
  rfl

theorem rows_error (engine : Engine) (read : (select kind).condition text = .error defect) (other : defect ≠ .foreign)
    (store : Store) : rows kind engine text store = .error defect := by
  rw [rows, ruled?_error read other]
  rfl

/-- The ways in which a text is settled: it is refused, it is read as a condition, or the engine settles it. -/
theorem hits_ways (q : Query) (engine : Engine) (text : String) (store : Store) :
    (∃ defect, q.hits engine text store = .error defect) ∨
    (∃ condition, q.condition text = .ok condition ∧
      q.hits engine text store = .ok (Hits.within ⟨condition.matchesRow, true⟩ q.kind)) ∨
    (q.ruled? text store = none ∧ ∃ hits, engine.change q text store = .ok hits ∧
      q.hits engine text store = .ok (hits.within q.kind)) := by
  unfold hits
  cases ruled : q.ruled? text store with
  | none =>
    cases engine.change q text store with
    | ok hits => exact .inr (.inr ⟨rfl, hits, rfl, rfl⟩)
    | error defect => exact .inl ⟨defect, rfl⟩
  | some found =>
    cases found with
    | error defect => exact .inl ⟨defect, rfl⟩
    | ok condition => exact .inr (.inl ⟨condition, (ruled?_eq_some_ok ruled).1, rfl⟩)

theorem kind_of_hits {engine : Engine} {store : Store} {hits : Hits} (answered : q.hits engine text store = .ok hits)
    {row : Row} (taken : hits.affects row = true) : row.kind = q.kind := by
  have inside (inner : Hits) (same : hits = inner.within q.kind) : row.kind = q.kind := by
    rw [same, Hits.within, Bool.and_eq_true, beq_iff_eq] at taken
    exact taken.1
  rcases q.hits_ways engine text store with ⟨defect, refused⟩ | ⟨condition, -, found⟩ | ⟨-, inner, -, found⟩
  · cases answered.symm.trans refused
  · exact inside _ (Except.ok.inj (answered.symm.trans found))
  · exact inside _ (Except.ok.inj (answered.symm.trans found))

theorem conditionOf_eq_ok_iff {tokens : List Token} {rest : List Char} : q.conditionOf tokens rest = .ok condition ↔
    ∃ reading, Reading.ofTokens? tokens = some reading ∧ reading.fits q.outer = true ∧
      reading.term.resolve? q = some condition ∧ Token.isVoid rest = true ∧ tokens.any q.lacks = false := by
  unfold conditionOf
  cases built : Reading.ofTokens? tokens with
  | none => simp
  | some reading =>
    cases fits : reading.fits q.outer with
    | false => simp [fits]
    | true =>
      cases resolved : reading.term.resolve? q with
      | none => simp [fits, resolved]
      | some found =>
        cases ended : Token.isVoid rest <;> cases lacking : tokens.any q.lacks <;>
          simp [fits, resolved, -List.any_eq_false, -List.any_eq_true]

theorem condition_eq_ok_iff (written : text ≠ "") : q.condition text = .ok condition ↔
    Mark.names text.toList = [] ∧ '\x00' ∉ text.toList ∧
      ∃ tokens rest, Token.lex text.toList = some (tokens, rest) ∧ q.conditionOf tokens rest = .ok condition := by
  have chars : text.toList.isEmpty = false := by simpa using written
  have zero : text.toList.contains '\x00' = true ↔ '\x00' ∈ text.toList := List.contains_iff_mem
  rw [← zero, Bool.not_eq_true]
  unfold Query.condition
  simp only [chars, Bool.false_eq_true, if_false]
  cases names : Mark.names text.toList with
  | nil =>
    have served : q.serves text = true := by simp [serves, names]
    cases Token.lex text.toList with
    | none => cases text.toList.contains '\x00' <;> simp [served]
    | some read =>
      obtain ⟨tokens, rest⟩ := read
      cases text.toList.contains '\x00' <;> simp [served, and_assoc]
  | cons name rest =>
    cases q.serves text <;> cases text.toList.contains '\x00' <;> simp

theorem condition_of_unserved (unserved : q.serves text = false) : q.condition text = .error .unknownMark := by
  have written : text.toList.isEmpty = false := by
    cases chars : text.toList with
    | nil =>
      rw [serves, chars] at unserved
      cases unserved
    | cons c rest => rfl
  simp only [condition, written, unserved, Bool.false_eq_true, if_false, Bool.not_false, if_true]

theorem condition_of_marked (bare : q.names = []) (marked : Mark.names text.toList ≠ []) :
    q.condition text = .error .unknownMark := by
  obtain ⟨name, rest, names⟩ := List.exists_cons_of_ne_nil marked
  exact condition_of_unserved (by simp [serves, names, bare])

end Footprint.Sql.Query
