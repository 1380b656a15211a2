import Footprint.Proofs.Workspace.Boundary
import Footprint.Proofs.Workspace.Handles

namespace Footprint

namespace Key

def items : Key → List Int
  | value _ | ragged _ => []
  | pair first second => [first, second]

end Key

theorem Row.key_of_link {row : Row} (link : row.kind = .link) : ∃ first second, row.key = .pair first second := by
  obtain ⟨id, subject, attributes, unscoped⟩ := row
  cases subject <;> cases link
  exact ⟨_, _, rfl⟩

namespace Statement

variable {s : Session} {kind : Kind} {row : Row}

theorem perform_parameters_cons {column : Column} {data : Data} {value : Sql.Value} {criteria : List Criterion}
    {values : List (Column × Sql.Value)} (first : perform (parameter data) s = (.ok value, s))
    (later : perform (parameters criteria) s = (.ok values, s)) :
    perform (parameters ((column, data) :: criteria)) s = (.ok ((column, value) :: values), s) := by
  rw [parameters, List.mapM_cons, perform_bind_ok (perform_bind_ok first _)]
  exact perform_bind_ok later _

theorem perform_parameters_ints (columns : List Column) {items : List Int}
    (fits : ∀ n ∈ items, Word.holds n = true) (s : Session) :
    perform (parameters (columns.zip (items.map .int))) s = (.ok (columns.zip (items.map .int)), s) := by
  induction items generalizing columns with
  | nil => simp [parameters]
  | cons n rest ih =>
    cases columns with
    | nil => rfl
    | cons column columns =>
      have first : perform (parameter (.int n)) s = (.ok (.int n), s) := by
        simp [parameter, fits n List.mem_cons_self]
      exact perform_parameters_cons first (ih columns fun m member => fits m (List.mem_cons_of_mem n member))

theorem compare_int (m n : Int) : (Sql.Affinity.numeric.compare? (.int m) (.int n) == some .eq) = (m == n) := by
  rw [Bool.eq_iff_iff]
  simp [Sql.Affinity.compare?, Sql.Affinity.toNumber, Sql.Value.compare?]

theorem meets_id (row : Row) (id : Int) : meets row [(.id, .int id)] = (row.id == id) := by
  rw [meets, List.all_cons, List.all_nil, Bool.and_true]
  exact compare_int row.id id

theorem meets_items (link : row.kind = .link) (items : List Int) :
    meets row (Kind.link.keyColumns.zip (items.map .int)) = (items.take 2).isPrefixOf row.key.items := by
  obtain ⟨id, subject, attributes, unscoped⟩ := row
  cases subject <;> cases link
  next subdomain address =>
    -- Both columns of a link hold numbers, so that the items are compared as integers.
    rcases items with - | ⟨first, - | ⟨second, rest⟩⟩
    · rfl
    · change (Sql.Affinity.numeric.compare? (.int subdomain) (.int first) == some .eq && true) =
        (first == subdomain && true)
      rw [compare_int, Bool.beq_comm]
    · change (Sql.Affinity.numeric.compare? (.int subdomain) (.int first) == some .eq &&
          (Sql.Affinity.numeric.compare? (.int address) (.int second) == some .eq && true)) =
        (first == subdomain && (second == address && true))
      rw [compare_int, compare_int, Bool.beq_comm, Bool.beq_comm (a := second)]

theorem perform_select_ragged (ready : s.Ready) (keyed : kind ≠ .link) (r : Ragged) :
    perform (select kind (kind.keyColumns.zip [.ragged r])) s = (.error (.misfit (.unencodable r)), s) := by
  have single : kind.keyColumns.zip [Data.ragged r] = [(.value, .ragged r)] := by
    cases kind <;> first | rfl | exact absurd rfl keyed
  have refused : perform (parameter (.ragged r)) s = (.error (.misfit (.unencodable r)), s) := rfl
  rw [single, select, perform_bind_ok (perform_contents ready), parameters, List.mapM_cons,
    perform_bind_error (perform_bind_error (perform_bind_error refused _) _)]

theorem perform_select_unready (unready : ¬ s.Ready) (kind : Kind) (criteria : List Criterion) :
    ∃ e, e ≠ .severalRows ∧ perform (select kind criteria) s = (.error e, s) := by
  obtain ⟨e, -, failed⟩ := perform_contents_unready unready
  refine ⟨e, ?_, perform_bind_error failed _⟩
  rintro rfl
  have told := congrArg Prod.fst failed
  rw [perform_contents_fst] at told
  split_ifs at told <;> cases told

theorem find_ne_severalRows {criteria : List Criterion} {values : List (Column × Sql.Value)} {found : Option Row}
    (given : perform (parameters criteria) s = (.ok values, s))
    (one : (s.contents.table kind).filter (meets · values) = found.toList) :
    (perform (findRow kind criteria) s).1 ≠ .error .severalRows ∧
      (perform (findId kind criteria) s).1 ≠ .error .severalRows := by
  by_cases ready : s.Ready
  · obtain ⟨cache, looked⟩ := perform_findRow_of kind ready given
    rw [looked, perform_findId_of ready given, one, theOne?_toList]
    exact ⟨nofun, nofun⟩
  · obtain ⟨e, other, selected⟩ := perform_select_unready ready kind criteria
    rw [findRow, findId, perform_bind_error selected, perform_bind_error selected]
    exact ⟨fun same => other (Except.error.inj same), fun same => other (Except.error.inj same)⟩

end Statement

namespace Action

variable {s : Session} {kind : Kind} {key : Data}

def told (kind : Kind) (found : List Row) : Except Fault (Option Row) :=
  (Statement.theOne? found).mapError fun _ => .query .lookUp kind

theorem guarded_told {α : Type} {t : Session} {body : Statement α} {rows : List Row} {view : Option Row → α}
    (run : perform body s = ((Statement.theOne? rows).map view, t)) :
    (perform (guarded .lookUp kind body) s).1 = (told kind rows).map view := by
  rw [perform_guarded, run]
  rcases rows with - | ⟨row, - | ⟨other, rest⟩⟩ <;> rfl

theorem perform_getRow?_of {criteria : List Criterion} {values : List (Column × Sql.Value)} (ready : s.Ready)
    (given : kind.criteria key = .ok criteria)
    (read : perform (Statement.parameters criteria) s = (.ok values, s)) :
    (perform (getRow? kind key) s).1 = told kind ((s.contents.table kind).filter (Statement.meets · values)) := by
  obtain ⟨cache, looked⟩ := Statement.perform_findRow_of kind ready read
  rw [← id_eq (Statement.theOne? _), ← Except.map_id] at looked
  rw [getRow?, given]
  exact (guarded_told looked).trans (congrFun Except.map_id _)

theorem perform_getId?_of {criteria : List Criterion} {values : List (Column × Sql.Value)} (ready : s.Ready)
    (given : kind.criteria key = .ok criteria)
    (read : perform (Statement.parameters criteria) s = (.ok values, s)) :
    (perform (getId? kind key) s).1 =
      (told kind ((s.contents.table kind).filter (Statement.meets · values))).map (Option.map Row.id) := by
  rw [getId?, given]
  exact guarded_told (Statement.perform_findId_of ready read)

theorem perform_getRow?_unready {criteria : List Criterion} (unready : ¬ s.Ready)
    (given : kind.criteria key = .ok criteria) :
    perform (getRow? kind key) s = (.error (.query .lookUp kind), s.rollback) := by
  obtain ⟨e, other, selected⟩ := Upsert.perform_select_unready unready kind criteria
  rw [getRow?, given]
  exact guarded_error other (perform_bind_error selected _)

theorem perform_list_unready (unready : ¬ s.Ready) (kind : Kind) :
    perform (list kind) s = (.error (.query .list kind), s.rollback) := by
  obtain ⟨e, other, failed⟩ := Statement.perform_contents_unready unready
  exact guarded_error other (perform_bind_error failed _)

theorem perform_getId_fst (kind : Kind) (key : Data) (s : Session) : (perform (getId kind key) s).1 =
    (perform (getId? kind key) s).1.bind fun found => found.elim (.error (.notFound kind)) .ok := by
  rw [getId, perform_bind]
  rcases perform (getId? kind key) s with ⟨fault | found, t⟩
  · rfl
  · cases found <;> rfl

theorem perform_lookups_ragged (ready : s.Ready) (keyed : kind ≠ .link) (r : Ragged) :
    (perform (getRow? kind (.ragged r)) s).1 = .error (.misfit (.unencodable r)) ∧
    (perform (getId? kind (.ragged r)) s).1 = .error (.misfit (.unencodable r)) ∧
    (perform (getId kind (.ragged r)) s).1 = .error (.misfit (.unencodable r)) := by
  have given : kind.criteria (.ragged r) = .ok (kind.keyColumns.zip [.ragged r]) := by
    cases kind <;> first | rfl | exact absurd rfl keyed
  have selected := Statement.perform_select_ragged ready keyed r
  have row : (perform (getRow? kind (.ragged r)) s).1 = .error (.misfit (.unencodable r)) := by
    rw [getRow?, given]
    exact congrArg Prod.fst (guarded_misfit (perform_bind_error selected _))
  have id : (perform (getId? kind (.ragged r)) s).1 = .error (.misfit (.unencodable r)) := by
    rw [getId?, given]
    exact congrArg Prod.fst (guarded_misfit (perform_bind_error selected _))
  refine ⟨row, id, ?_⟩
  rw [perform_getId_fst, id]
  rfl

theorem perform_getById? (ready : s.Ready) (formed : s.contents.WellFormed) (kind : Kind) (id : Int) :
    (perform (getById? kind (.int id)) s).1 =
      if Word.holds id then .ok (s.contents.find? kind id) else .error (.misfit .oversizedInteger) := by
  change (perform (bare (Statement.findRow kind [(.id, .int id)])) s).1 = _
  by_cases fits : Word.holds id = true
  · have read : perform (Statement.parameters [(.id, .int id)]) s = (.ok [(.id, .int id)], s) :=
      Statement.perform_parameters_cons (by simp [Statement.parameter, fits]) rfl
    obtain ⟨cache, looked⟩ := Statement.perform_findRow_of kind ready read
    simp only [Statement.meets_id] at looked
    rw [formed.filter_id, Statement.theOne?_toList] at looked
    rw [if_pos fits, perform_bare, looked]
  · have refused : perform (Statement.parameter (.int id)) s = (.error (.misfit .oversizedInteger), s) := by
      simp [Statement.parameter, fits]
    have read : perform (Statement.parameters [(.id, .int id)]) s = (.error (.misfit .oversizedInteger), s) := by
      rw [Statement.parameters, List.mapM_cons, perform_bind_error (perform_bind_error refused _)]
    have looked : perform (Statement.select kind [(.id, .int id)]) s = (.error (.misfit .oversizedInteger), s) := by
      rw [Statement.select, perform_bind_ok (Statement.perform_contents ready), perform_bind_error read]
    rw [if_neg fits, perform_bare, Statement.findRow, perform_bind_error looked]

theorem getById?_ne_severalRows (formed : s.contents.WellFormed) (kind : Kind) (id : Int) :
    (perform (getById? kind (.int id)) s).1 ≠ .error (.statement .severalRows) := by
  by_cases ready : s.Ready
  · rw [perform_getById? ready formed]
    split <;> nofun
  · obtain ⟨e, other, selected⟩ := Statement.perform_select_unready ready kind [(.id, .int id)]
    have looked : perform (Statement.findRow kind [(.id, .int id)]) s = (.error e, s) := perform_bind_error selected _
    change (perform (bare (Statement.findRow kind [(.id, .int id)])) s).1 ≠ _
    rw [perform_bare, looked]
    cases e <;> first
      | exact absurd rfl other
      | nofun

end Action

namespace Session

variable {s : Session} {kind : Kind} {key : Key}

/-- What the lookups tell where these are all rows of the kind. No table has an id of more than 64 bits, which could not
    be looked for. -/
structure LooksUp (s : Session) (kind : Kind) (key : Key) (rows : List Row) : Prop where
  found : ∀ row, (perform (Action.getRow? kind key.toData) s).1 = .ok (some row) ↔ row ∈ rows ∧ row.key = key
  missing : (perform (Action.getRow? kind key.toData) s).1 = .ok none ↔ ∀ row ∈ rows, row.key ≠ key
  one : (rows.filter (·.key == key)).length ≤ 1
  id? : (perform (Action.getId? kind key.toData) s).1 =
    (perform (Action.getRow? kind key.toData) s).1.map (Option.map Row.id)
  id : ∀ id, (perform (Action.getId kind key.toData) s).1 = .ok id ↔
    (perform (Action.getId? kind key.toData) s).1 = .ok (some id)
  notFound : (perform (Action.getId kind key.toData) s).1 = .error (.notFound kind) ↔
    (perform (Action.getRow? kind key.toData) s).1 = .ok none
  byId : ∀ row, (perform (Action.getRow? kind key.toData) s).1 = .ok (some row) →
    (perform (Action.getById? kind (.int row.id)) s).1 =
      if Word.holds row.id then .ok (some row) else .error (.misfit .oversizedInteger)

theorem Ready.looksUp (ready : s.Ready) (formed : s.contents.WellFormed) (suits : key.suits kind = true)
    (fits : key.fits = true) : s.LooksUp kind key (s.contents.table kind) := by
  obtain ⟨c, rfl, rfl⟩ := Key.exists_candidate suits
  obtain ⟨cache, row⟩ := Action.perform_getRow?_key ready formed fits
  have id := Action.perform_getId? ready formed fits
  have told := Action.perform_getId_fst c.kind c.key.toData s
  have stored (row : Row) : s.contents.lookup? c.kind c.key = some row ↔
      row ∈ s.contents.table c.kind ∧ row.key = c.key := by
    have same := formed.filter_key c.kind c.key
    rw [← Option.mem_toList, ← same, List.mem_filter, beq_iff_eq]
  rw [id] at told
  constructor
  case found => exact fun other => by rw [row, Except.ok.injEq, stored]
  case missing =>
    rw [row, Except.ok.injEq, Option.eq_none_iff_forall_ne_some]
    simp [stored]
  case one =>
    rw [formed.filter_key]
    cases s.contents.lookup? c.kind c.key <;> simp
  case id? => rw [row, id]; rfl
  case id =>
    intro n
    rw [told, id]
    cases s.contents.lookup? c.kind c.key <;> simp [Except.bind]
  case notFound =>
    rw [told, row]
    cases s.contents.lookup? c.kind c.key <;> simp [Except.bind]
  case byId =>
    intro other looked
    rw [row, Except.ok.injEq, stored] at looked
    obtain ⟨member, kind⟩ := Store.mem_table.mp looked.1
    rw [Action.perform_getById? ready formed, ← kind, formed.find? member]

/-- All lookups agree with the list of the rows of the kind, of which at most one has the key. Without tables to look
    into, each of them fails; none ever fails because there are several rows. A text that cannot be encoded is no
    row's key, but to look for it fails, with a fault that is not the storage layer's own. -/
theorem lookups_agree (reached : s.Reachable) (suits : key.suits kind = true) (fits : key.fits = true) :
    (s.Ready → ∃ rows, (perform (Action.list kind) s).1 = .ok rows ∧ s.LooksUp kind key rows) ∧
    (¬ s.Ready →
      (perform (Action.list kind) s).1 = .error (.query .list kind) ∧
      (perform (Action.getRow? kind key.toData) s).1 = .error (.query .lookUp kind) ∧
      (perform (Action.getId? kind key.toData) s).1 = .error (.query .lookUp kind) ∧
      (perform (Action.getId kind key.toData) s).1 = .error (.query .lookUp kind)) ∧
    (∃ criteria, kind.criteria key.toData = .ok criteria ∧
      (perform (Statement.findRow kind criteria) s).1 ≠ .error .severalRows ∧
      (perform (Statement.findId kind criteria) s).1 ≠ .error .severalRows) ∧
    (∀ id, (perform (Action.getById? kind (.int id)) s).1 ≠ .error (.statement .severalRows)) ∧
    (s.Ready → kind ≠ .link → ∀ r : Ragged, (∀ row ∈ s.contents.table kind, row.key ≠ .ragged r) ∧
      (perform (Action.getRow? kind (.ragged r)) s).1 = .error (.misfit (.unencodable r)) ∧
      (perform (Action.getId? kind (.ragged r)) s).1 = .error (.misfit (.unencodable r)) ∧
      (perform (Action.getId kind (.ragged r)) s).1 = .error (.misfit (.unencodable r))) := by
  have formed := reached.sound.contents
  refine ⟨fun ready => ?_, fun unready => ?_, ?_, Action.getById?_ne_severalRows formed kind, fun ready keyed r =>
    ⟨fun row member same => ?_, Action.perform_lookups_ragged ready keyed r⟩⟩
  · exact ⟨_, Action.perform_list ready formed kind, ready.looksUp formed suits fits⟩
  · obtain ⟨c, rfl, rfl⟩ := Key.exists_candidate suits
    have given := Key.criteria_toData c
    have id := Action.perform_getId?_unready unready given
    rw [Action.perform_list_unready unready, Action.perform_getRow?_unready unready given, Action.perform_getId_fst, id]
    exact ⟨rfl, rfl, rfl, rfl⟩
  · obtain ⟨c, rfl, rfl⟩ := Key.exists_candidate suits
    have rows := (Statement.filter_meets formed fits).trans (formed.filter_key c.kind c.key)
    exact ⟨c.criteria, Key.criteria_toData c,
      Statement.find_ne_severalRows (Statement.perform_parameters_fits fits s) rows⟩
  · obtain ⟨stored, kind⟩ := Store.mem_table.mp member
    have fits := (formed.plain row stored).fits_key (kind ▸ keyed)
    rw [same] at fits
    cases fits

/-- One of two links is found by its key, in the order in which the key has its items. -/
theorem lookups_agree_on_links :
    let s := inMemory.run [.insertSubdomain (.text "www.example.com") (.text "example.com"),
      .insertAddress (.text "v4") (.text "192.0.2.1"), .insertAddress (.text "v4") (.text "192.0.2.2"),
      .insertLink (.int 1) (.int 1), .insertLink (.int 1) (.int 2)]
    let found : Row := ⟨2, .link 1 2, [], false⟩
    (perform (Action.getRow? .link (.list [.int 1, .int 2])) s).1 = .ok (some found) ∧
    (perform (Action.getId .link (.list [.int 1, .int 2])) s).1 = .ok 2 ∧
    (perform (Action.getById? .link (.int 2)) s).1 = .ok (some found) ∧
    (perform (Action.getId .link (.list [.int 2, .int 1])) s).1 = .error (.notFound .link) := by
  intro s found
  have reached : s.Reachable := .operation _ (.operation _ (.operation _ (.operation _ (.operation _ (.fresh .memory)))))
  have ready : s.Ready := ⟨by decide +kernel, by decide +kernel, by decide +kernel⟩
  have suits : (Key.pair 1 2).suits .link = true := rfl
  have suits' : (Key.pair 2 1).suits .link = true := rfl
  obtain ⟨rows, listed, agree⟩ := (lookups_agree reached suits (by decide)).1 ready
  obtain ⟨rows', listed', agree'⟩ := (lookups_agree reached suits' (by decide)).1 ready
  have all : (perform (Action.list .link) s).1 = .ok [⟨1, .link 1 1, [], false⟩, found] :=
    eq_ok_of_toOption (by decide +kernel)
  cases Except.ok.inj (listed.symm.trans all)
  cases Except.ok.inj (listed'.symm.trans all)
  have row := (agree.found found).mpr ⟨by simp, rfl⟩
  refine ⟨row, (agree.id 2).mpr (agree.id?.trans (congrArg _ row)), agree.byId found row, ?_⟩
  exact agree'.notFound.mpr (agree'.missing.mpr (by decide))

/-- The links whose key agrees with the given items, as far as both have any. -/
def linksUnder (s : Session) (items : List Int) : List Row :=
  (s.contents.table .link).filter fun row => (items.take 2).isPrefixOf row.key.items

theorem key_of_linksUnder {items : List Int} {row : Row} (found : row ∈ s.linksUnder items) :
    row.key.items = items ↔ items.length = 2 := by
  obtain ⟨member, begins⟩ := List.mem_filter.mp found
  obtain ⟨first, second, pair⟩ := Row.key_of_link (Store.mem_table.mp member).2
  have two : row.key.items.length = 2 := by
    rw [pair]
    rfl
  refine ⟨fun same => same ▸ two, fun length => ?_⟩
  have whole := List.isPrefixOf_iff_prefix.mp begins
  rw [List.take_of_length_le length.le] at whole
  exact (whole.eq_of_length (length.trans two.symm)).symm

theorem linksUnder_pair (formed : s.contents.WellFormed) {items : List Int} (pair : items.length = 2) :
    (s.linksUnder items).length ≤ 1 := by
  obtain ⟨first, second, rfl⟩ := List.length_eq_two.mp pair
  have whole : s.linksUnder [first, second] = (s.contents.table .link).filter (·.key == .pair first second) := by
    refine List.filter_congr fun row member => ?_
    obtain ⟨own, other, pair⟩ := Row.key_of_link (Store.mem_table.mp member).2
    rw [pair, Bool.eq_iff_iff]
    simp [Key.items, eq_comm (a := first), eq_comm (a := second)]
  rw [whole, formed.filter_key]
  cases s.contents.lookup? .link (.pair first second) <;> simp

/-- A key of any length finds the links whose items agree with it as far as both have any, and a lookup fails if these
    are several. What is found has the whole key if and only if that has two items. -/
theorem link_found_under_items (reached : s.Reachable) {items : List Int} (fits : ∀ n ∈ items, Word.holds n = true) :
    let key := Data.list (items.map .int)
    let told := Action.told .link (s.linksUnder items)
    (s.Ready →
      (perform (Action.getRow? .link key) s).1 = told ∧
      (perform (Action.getId? .link key) s).1 = told.map (Option.map Row.id) ∧
      (perform (Action.getId .link key) s).1 =
        told.bind fun found => found.elim (.error (.notFound .link)) fun row => .ok row.id) ∧
    (¬ s.Ready →
      (perform (Action.getRow? .link key) s).1 = .error (.query .lookUp .link) ∧
      (perform (Action.getId? .link key) s).1 = .error (.query .lookUp .link) ∧
      (perform (Action.getId .link key) s).1 = .error (.query .lookUp .link)) ∧
    (items.length = 2 → (s.linksUnder items).length ≤ 1) ∧
    ∀ row ∈ s.linksUnder items, (row.key.items = items ↔ items.length = 2) := by
  intro key told
  have given : Kind.link.criteria key = .ok (Kind.link.keyColumns.zip (items.map .int)) := rfl
  refine ⟨fun ready => ?_, fun unready => ?_, linksUnder_pair reached.sound.contents, fun _ => key_of_linksUnder⟩
  · have read := Statement.perform_parameters_ints Kind.link.keyColumns fits s
    have under : (s.contents.table .link).filter (Statement.meets · (Kind.link.keyColumns.zip (items.map .int))) =
        s.linksUnder items :=
      List.filter_congr fun row member => Statement.meets_items (Store.mem_table.mp member).2 items
    have row := Action.perform_getRow?_of ready given read
    have id := Action.perform_getId?_of ready given read
    rw [under] at row id
    refine ⟨row, id, ?_⟩
    rw [Action.perform_getId_fst, id]
    change (told.map _).bind _ = _
    rcases told with fault | (- | found) <;> rfl
  · have id := Action.perform_getId?_unready unready given
    rw [Action.perform_getRow?_unready unready given, Action.perform_getId_fst, id]
    exact ⟨rfl, rfl, rfl⟩

/-- The only link is found by its first item alone, by its key with something behind it, and by no item at all. -/
theorem link_found_under_items_of_other_length :
    let s := inMemory.run [.insertSubdomain (.text "www.example.com") (.text "example.com"),
      .insertAddress (.text "v4") (.text "192.0.2.1"), .insertLink (.int 1) (.int 1)]
    (perform (Action.getRow? .link (.list [.int 1])) s).1 = .ok (some ⟨1, .link 1 1, [], false⟩) ∧
    (perform (Action.getId? .link (.list [.int 1, .int 1, .int 7])) s).1 = .ok (some 1) ∧
    (perform (Action.getId .link (.list [])) s).1 = .ok 1 := by
  intro s
  have reached : s.Reachable := .operation _ (.operation _ (.operation _ (.fresh .memory)))
  have ready : s.Ready := ⟨by decide +kernel, by decide +kernel, by decide +kernel⟩
  have short : ∀ n ∈ [1], Word.holds n = true := by decide
  have long : ∀ n ∈ [1, 1, 7], Word.holds n = true := by decide
  have only : (s.contents.table .link) = [⟨1, .link 1 1, [], false⟩] := by decide +kernel
  have under (items : List Int) (begins : (items.take 2).isPrefixOf [1, 1] = true) :
      s.linksUnder items = [⟨1, .link 1 1, [], false⟩] := by
    rw [linksUnder, only]
    exact List.filter_eq_self.mpr (List.forall_mem_singleton.mpr begins)
  obtain ⟨row, -, -⟩ := (link_found_under_items reached short).1 ready
  obtain ⟨-, id, -⟩ := (link_found_under_items reached long).1 ready
  obtain ⟨-, -, told⟩ := (link_found_under_items reached (List.forall_mem_nil _)).1 ready
  rw [under _ (by decide)] at row id told
  exact ⟨row, id, told⟩

end Session
end Footprint
