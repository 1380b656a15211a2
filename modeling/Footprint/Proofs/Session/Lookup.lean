import Footprint.Proofs.Session.Run
import Footprint.Proofs.Store.WellFormed

namespace Footprint

namespace Key

def misfit? : Key → Option Misfit
  | value _ => none
  | ragged text => some (.unencodable text)
  | pair first second => (Cell.int first).misfit?.or (Cell.int second).misfit?

def fits (key : Key) : Bool := key.misfit?.isNone

theorem fits_iff {key : Key} : key.fits = true ↔ key.misfit? = none := by simp [fits]

end Key

theorem Row.Plain.fits_key {row : Row} (plain : row.Plain) (keyed : row.kind ≠ .link) : row.key.fits = true := by
  obtain ⟨id, subject, attributes, unscoped⟩ := row
  cases subject with
  | link => exact absurd rfl keyed
  | raggedAddress => cases plain.subject .value
  | _ => rfl

def Candidate.keyValues (c : Candidate) : List (Column × Sql.Value) :=
  c.kind.keyColumns.map fun column => (column, .ofCell (c.subject.cell column))

namespace Statement

variable {s : Session} {c : Candidate}

theorem compareText_eq_iff (a b : String) : Sql.Value.compareText a b = .eq ↔ a = b := by
  unfold Sql.Value.compareText
  by_cases same : a = b
  · simp [same]
  · simp only [same, if_false, iff_false]
    split <;> simp

theorem perform_parameters (c : Candidate) (s : Session) : perform (parameters c.criteria) s =
    (match c.key.misfit? with
      | none => .ok c.keyValues
      | some m => .error (.misfit m), s) := by
  obtain ⟨subject, supplied⟩ := c
  cases subject with
  | link first second =>
    by_cases fits : Word.holds first = true <;> by_cases fits' : Word.holds second = true <;>
      simp [parameters, parameter, Candidate.criteria, Candidate.keyValues, Candidate.key, Candidate.kind,
        Subject.key, Subject.kind, Subject.cell, Key.criteria, Key.misfit?, Cell.misfit?, Kind.keyColumns,
        Sql.Value.ofCell, fits, fits']
  | _ =>
    simp [parameters, parameter, Candidate.criteria, Candidate.keyValues, Candidate.key, Candidate.kind,
      Subject.key, Subject.kind, Subject.cell, Key.criteria, Key.misfit?, Kind.keyColumns,
      Sql.Value.ofCell]

theorem perform_parameters_fits (fits : c.key.fits = true) (s : Session) :
    perform (parameters c.criteria) s = (.ok c.keyValues, s) := by
  rw [perform_parameters, Key.fits_iff.mp fits]

theorem meets_keyValues {row : Row} (plain : row.Plain) (fits : c.key.fits = true) (same : row.kind = c.kind) :
    meets row c.keyValues = true ↔ row.key = c.key := by
  obtain ⟨id, subject, attributes, unscoped⟩ := row
  obtain ⟨subject', supplied⟩ := c
  cases subject <;> cases subject' <;> simp [Row.kind, Candidate.kind, Subject.kind] at same
  case raggedAddress.address | raggedAddress.raggedAddress => cases plain.subject .value
  case address.raggedAddress => cases fits
  all_goals
    simp [meets, Candidate.keyValues, Candidate.kind, Subject.kind, Kind.keyColumns, Row.cell, Subject.cell,
      Sql.affinityOf, Sql.Value.ofCell, Sql.Affinity.compare?, Sql.Affinity.isText, Sql.Affinity.toText,
      Sql.Affinity.toNumber, Sql.Value.numberText?, Sql.Value.compare?, Row.key, Candidate.key, Subject.key,
      compareText_eq_iff]

section

variable {kind : Kind} {criteria : List Criterion} {values : List (Column × Sql.Value)}

theorem perform_select_of (ready : s.Ready) (given : perform (parameters criteria) s = (.ok values, s)) :
    perform (select kind criteria) s = (.ok ((s.contents.table kind).filter (meets · values)), s) := by
  rw [select, perform_bind_ok (perform_contents ready), perform_bind_ok given]
  rfl

def theOne? : List Row → Except StatementError (Option Row)
  | [] => .ok none
  | [row] => .ok (some row)
  | _ => .error .severalRows

theorem theOne?_toList (found : Option Row) : theOne? found.toList = .ok found := by
  cases found <;> rfl

theorem perform_atMostOne (rows : List Row) (s : Session) : perform (atMostOne rows) s = (theOne? rows, s) := by
  rcases rows with - | ⟨row, - | ⟨other, rest⟩⟩ <;> rfl

theorem perform_fetch (found : Option Row) (s : Session) :
    ∃ cache, perform (fetch found.toList) s = (.ok found.toList, { s with seen := cache }) := by
  refine ⟨s.seen.refresh found.toList, ?_⟩
  cases found <;> simp [fetch, perform_bind, perform_map, RowCache.refresh, RowCache.cached, RowCache.find?]

theorem perform_findId_of (ready : s.Ready) (given : perform (parameters criteria) s = (.ok values, s)) :
    perform (findId kind criteria) s =
      ((theOne? ((s.contents.table kind).filter (meets · values))).map (Option.map Row.id), s) := by
  rw [findId, perform_bind_ok (perform_select_of ready given), perform_bind, perform_atMostOne]
  cases theOne? ((s.contents.table kind).filter (meets · values)) <;> rfl

theorem perform_findRow_of (kind : Kind) (ready : s.Ready) (given : perform (parameters criteria) s = (.ok values, s)) :
    ∃ cache, perform (findRow kind criteria) s =
      (theOne? ((s.contents.table kind).filter (meets · values)), { s with seen := cache }) := by
  rw [findRow, perform_bind_ok (perform_select_of ready given), perform_bind, perform_atMostOne]
  cases theOne? ((s.contents.table kind).filter (meets · values)) with
  | error e => exact ⟨s.seen, rfl⟩
  | ok found =>
    obtain ⟨cache, fetched⟩ := perform_fetch found s
    refine ⟨cache, ?_⟩
    dsimp only
    rw [perform_bind_ok fetched]
    cases found <;> rfl

end

theorem filter_meets (formed : s.contents.WellFormed) (fits : c.key.fits = true) :
    (s.contents.table c.kind).filter (meets · c.keyValues) = (s.contents.table c.kind).filter (·.key == c.key) := by
  refine List.filter_congr fun row member => ?_
  obtain ⟨member, same⟩ := Store.mem_table.mp member
  rw [Bool.eq_iff_iff, meets_keyValues (formed.plain row member) fits same, beq_iff_eq]

theorem perform_select_misfit (ready : s.Ready) {m : Misfit} (misfit : c.key.misfit? = some m) :
    perform (select c.kind c.criteria) s = (.error (.misfit m), s) := by
  have given := perform_parameters c s
  rw [misfit] at given
  rw [select, perform_bind_ok (perform_contents ready), perform_bind_error given]

theorem perform_findId (ready : s.Ready) (formed : s.contents.WellFormed) (fits : c.key.fits = true) :
    perform (findId c.kind c.criteria) s = (.ok ((s.contents.lookup? c.kind c.key).map Row.id), s) := by
  rw [perform_findId_of ready (perform_parameters_fits fits s), filter_meets formed fits, formed.filter_key,
    theOne?_toList]
  rfl

theorem perform_findRow (ready : s.Ready) (formed : s.contents.WellFormed) (fits : c.key.fits = true) :
    ∃ cache, perform (findRow c.kind c.criteria) s =
      (.ok (s.contents.lookup? c.kind c.key), { s with seen := cache }) := by
  obtain ⟨cache, found⟩ := perform_findRow_of c.kind ready (perform_parameters_fits fits s)
  rw [filter_meets formed fits, formed.filter_key, theOne?_toList] at found
  exact ⟨cache, found⟩

theorem holds_of_findId {t : Session} {kind : Kind} {criteria : List Criterion} {id : Int} (ready : s.Ready)
    (looked : perform (findId kind criteria) s = (.ok (some id), t)) : s.contents.holds kind id = true := by
  obtain ⟨rows, u, selected, looked⟩ := perform_bind_eq_ok looked
  obtain ⟨found, v, one, last⟩ := perform_bind_eq_ok looked
  have last : found.map Row.id = some id := Except.ok.inj (congrArg Prod.fst last)
  obtain ⟨row, rfl, rfl⟩ := Option.map_eq_some_iff.mp last
  have among : row ∈ rows := by
    unfold atMostOne at one
    split at one
    · cases one
    · cases one
      exact List.mem_singleton.mpr rfl
    · cases one
  obtain ⟨store, w, held, selected⟩ := perform_bind_eq_ok selected
  rw [perform_contents ready] at held
  cases held
  obtain ⟨values, w', -, selected⟩ := perform_bind_eq_ok selected
  have same : (s.contents.table kind).filter (fun row => meets row values) = rows :=
    Except.ok.inj (congrArg Prod.fst selected)
  rw [← same] at among
  obtain ⟨member, kind⟩ := Store.mem_table.mp (List.mem_filter.mp among).1
  exact Store.holds_iff.mpr ⟨row, member, kind, rfl⟩

end Statement

namespace Key

def suits : Key → Kind → Bool
  | value _, kind => kind != .link
  | ragged _, kind => kind == .address
  | pair .., kind => kind == .link

theorem exists_candidate {key : Key} {kind : Kind} (suits : key.suits kind = true) :
    ∃ c : Candidate, c.kind = kind ∧ c.key = key := by
  cases key with
  | ragged text =>
    obtain rfl : kind = .address := by simpa [Key.suits] using suits
    exact ⟨⟨.raggedAddress .v4 text, []⟩, rfl, rfl⟩
  | pair first second =>
    obtain rfl : kind = .link := by simpa [Key.suits] using suits
    exact ⟨⟨.link first second, []⟩, rfl, rfl⟩
  | value v =>
    cases kind with
    | domain => exact ⟨⟨.domain v, []⟩, rfl, rfl⟩
    | subdomain => exact ⟨⟨.subdomain 0 v, []⟩, rfl, rfl⟩
    | address => exact ⟨⟨.address .v4 v, []⟩, rfl, rfl⟩
    | link => simp [Key.suits] at suits
    | url => exact ⟨⟨.url 0 v, []⟩, rfl, rfl⟩
    | email => exact ⟨⟨.email v, []⟩, rfl, rfl⟩

theorem criteria_toData (c : Candidate) : c.kind.criteria c.key.toData = .ok c.criteria := by
  obtain ⟨subject, supplied⟩ := c
  cases subject <;> rfl

end Key

namespace Action

variable {s : Session} {c : Candidate}

theorem perform_criteria (c : Candidate) (s : Session) :
    perform (ofExcept (c.kind.criteria c.key.toData)) s = (.ok c.criteria, s) := by
  rw [Key.criteria_toData]
  rfl

theorem perform_getId? (ready : s.Ready) (formed : s.contents.WellFormed) (fits : c.key.fits = true) :
    perform (getId? c.kind c.key.toData) s = (.ok ((s.contents.lookup? c.kind c.key).map Row.id), s) := by
  rw [getId?, perform_bind_ok (perform_criteria c s), guarded_ok (Statement.perform_findId ready formed fits)]

theorem perform_getRow?_key (ready : s.Ready) (formed : s.contents.WellFormed) (fits : c.key.fits = true) :
    ∃ cache, perform (getRow? c.kind c.key.toData) s =
      (.ok (s.contents.lookup? c.kind c.key), { s with seen := cache }) := by
  obtain ⟨cache, found⟩ := Statement.perform_findRow ready formed fits
  exact ⟨cache, by rw [getRow?, perform_bind_ok (perform_criteria c s), guarded_ok found]⟩

end Action
end Footprint
