import Footprint.Proofs.Store.WellFormed
import Footprint.Store.Constraint

namespace Footprint

def Column.isLater : Column → Bool
  | .field _ | .unscoped => true
  | _ => false

/-- The same rules, their order apart. -/
structure TableRule.Matches (a b : TableRule) : Prop where
  columns : a.columns.Perm b.columns
  unique : a.unique.Perm b.unique

theorem TableRule.Matches.keys {a b : TableRule} (same : a.Matches b) : a.keys.Perm b.keys := by
  unfold TableRule.keys
  exact ((same.columns.filter _).map _).append same.unique

def Schema.Matches (a b : Schema) : Prop := ∀ kind, (a.table kind).Matches (b.table kind)

theorem Schema.migrated_matches_declared : migrated.Matches declared := by
  intro kind
  cases kind <;> exact ⟨by decide, by decide⟩

namespace Schema

section Matches

variable {a b : Schema}

theorem Matches.allows (same : a.Matches b) : a.allows = b.allows := by
  funext tables others written row
  have rules := same row.kind
  rw [Schema.allows, Schema.allows, rules.columns.all_eq, rules.keys.all_eq]

theorem Matches.insert? (same : a.Matches b) : a.insert? = b.insert? := by
  funext store c
  rw [Schema.insert?, Schema.insert?, same.allows]

theorem Matches.modify? (same : a.Matches b) : a.modify? = b.modify? := by
  funext store written affected change
  rw [Schema.modify?, Schema.modify?, same.allows]

theorem Matches.update? (same : a.Matches b) : a.update? = b.update? := by
  funext store kind id changes
  rw [Schema.update?, Schema.update?, same.modify?]

theorem Matches.setScope? (same : a.Matches b) : a.setScope? = b.setScope? := by
  funext store affected unscoped
  rw [Schema.setScope?, Schema.setScope?, same.modify?]

theorem Matches.goes (same : a.Matches b) (store : Store) (matched : Row → Bool) (links : Nat) :
    a.goes store matched links = b.goes store matched links := by
  induction links with
  | zero => rfl
  | succ links ih =>
    funext row
    rw [Schema.goes, Schema.goes, ih]
    congr 2
    funext other
    rw [(same row.kind).columns.any_eq]

theorem Matches.delete? (same : a.Matches b) : a.delete? = b.delete? := by
  funext store matched
  rw [Schema.delete?, Schema.delete?, same.goes]
  congr 3
  funext row
  congr 1
  funext other
  rw [(same row.kind).columns.any_eq]

end Matches

/-! The tables of the migration -/

theorem keys_migrated (kind : Kind) : (migrated.table kind).keys = [[.id], kind.keyColumns] := by
  cases kind <;> rfl

theorem leadsTo_migrated (row other : Row) :
    ((migrated.table row.kind).columns.any fun c => c.leadsTo row other) = row.isChildOf other := by
  rw [Bool.eq_iff_iff]
  cases subject : row.subject
  all_goals
    have kind : row.kind = _ := congrArg Subject.kind subject
    simp [kind, Subject.kind, migrated, Migration.table, Migration.unscoped, ColumnRule.leadsTo, Row.isChildOf, subject,
      Subject.parents, Row.cell, Subject.cell]

theorem follows_migrated (row other : Row) :
    ((migrated.table row.kind).columns.any fun c => c.follows row other) = row.isChildOf other := by
  rw [← leadsTo_migrated]
  cases row.kind <;>
    simp [migrated, Migration.table, Migration.unscoped, ColumnRule.leadsTo, ColumnRule.follows]

theorem agrees_id (row other : Row) : row.agrees other [.id] = true ↔ row.id = other.id := by
  simp [Row.agrees, Row.cell, Cell.equals, Cell.number?]

theorem agrees_keyColumns {row other : Row} (same : other.kind = row.kind) :
    row.agrees other row.kind.keyColumns = true ↔ row.key = other.key := by
  obtain ⟨id, subject, attributes, unscoped⟩ := row
  obtain ⟨id', subject', attributes', unscoped'⟩ := other
  cases subject <;> cases subject' <;> cases same
  all_goals
    simp [Row.kind, Subject.kind, Kind.keyColumns, Row.agrees, Row.cell, Subject.cell, Cell.equals, Cell.number?,
      Row.key, Subject.key]

theorem columns_allow_iff {tables : Store} {row : Row} :
    ((migrated.table row.kind).columns.all fun c => c.allows tables row) = true ↔
      tables.parentsStored row.subject = true := by
  rw [Store.parentsStored_iff]
  cases subject : row.subject
  all_goals
    have kind : row.kind = _ := congrArg Subject.kind subject
    simp [kind, Subject.kind, migrated, Migration.table, Migration.unscoped, ColumnRule.allows, ColumnRule.leadsTo,
      subject, Subject.parents, Row.cell, Subject.cell, Store.holds_iff]

theorem parentsStored_append_self {store : Store} {row : Row} :
    Store.parentsStored ⟨store.rows ++ [row]⟩ row.subject = true ↔ store.parentsStored row.subject = true := by
  simp only [Store.parentsStored_iff]
  constructor
  · intro stored parent named
    obtain ⟨other, member, kind, id⟩ := Store.holds_iff.mp (stored parent named)
    rcases List.mem_append.mp member with member | last
    · exact Store.holds_iff.mpr ⟨other, member, kind, id⟩
    · obtain rfl := List.mem_singleton.mp last
      have child : other.isChildOf other = true := Store.isChildOf_iff.mpr (by rw [kind, id]; exact named)
      exact absurd (Store.depth_lt_of_isChildOf child) (Nat.lt_irrefl _)
  · intro stored parent named
    exact Store.holds_append (stored parent named)

theorem keys_allow_created_iff {store : Store} {c : Candidate} :
    ((migrated.table c.kind).keys.all fun key => !key.any (fun _ => true) ||
        !store.rows.any fun other => other.kind == c.kind && (store.created c).agrees other key) = true ↔
      store.keyTaken c.subject = false := by
  have kind : (store.created c).kind = c.kind := rfl
  have id : (store.created c).id = store.nextId c.kind := rfl
  have fresh : ∀ other ∈ store.rows, other.kind = c.kind → (store.created c).agrees other [.id] = false := by
    intro other member same
    rw [← Bool.not_eq_true, agrees_id]
    have below := Store.lt_nextId member
    rw [same] at below
    omega
  have keys : store.keyTaken c.subject = false ↔
      ∀ other ∈ store.rows, other.kind = c.kind → (store.created c).agrees other c.kind.keyColumns = false := by
    rw [← Bool.not_eq_true, Store.keyTaken_iff]
    constructor
    · intro free other member same
      rw [← Bool.not_eq_true, ← kind, agrees_keyColumns (same.trans kind.symm)]
      intro key
      exact free ⟨other, member, same, key.symm⟩
    · rintro apart ⟨other, member, same, key⟩
      have agreed : (store.created c).agrees other c.kind.keyColumns = true :=
        (agrees_keyColumns (same.trans kind.symm)).mpr key.symm
      rw [apart other member same] at agreed
      cases agreed
  have named : c.kind.keyColumns.any (fun _ => true) = true := by
    cases c.kind <;> rfl
  rw [keys, keys_migrated]
  simp [named]
  intro _
  exact fresh

theorem allows_created_iff {store : Store} {c : Candidate} :
    migrated.allows ⟨store.rows ++ [store.created c]⟩ store.rows (fun _ => true) (store.created c) = true ↔
      store.keyTaken c.subject = false ∧ store.parentsStored c.subject = true := by
  have own : Store.parentsStored ⟨store.rows ++ [store.created c]⟩ (store.created c).subject = true ↔
      store.parentsStored c.subject = true := parentsStored_append_self
  have parents : _ ↔ store.parentsStored c.subject = true := columns_allow_iff.trans own
  rw [← parents, ← keys_allow_created_iff, and_comm]
  exact Bool.and_eq_true_iff

theorem insert?_migrated (store : Store) (c : Candidate) : migrated.insert? store c = store.insert? c := by
  cases inserted : store.insert? c with
  | some tables =>
    obtain ⟨free, parents, rfl⟩ := Store.insert?_eq_some_iff.mp inserted
    exact if_pos (allows_created_iff.mpr ⟨free, parents⟩)
  | none =>
    refine if_neg fun allowed => ?_
    obtain ⟨free, parents⟩ := allows_created_iff.mp allowed
    rw [Store.insert?_eq_some_iff.mpr ⟨free, parents, rfl⟩] at inserted
    cases inserted

theorem free_of_isLater {kind : Kind} {c : ColumnRule} (member : c ∈ (migrated.table kind).columns)
    (later : c.column.isLater = true) : c.reference = none ∧ (c.isNullable = true ∨ c.column = .unscoped) := by
  have each : ∀ c ∈ (migrated.table kind).columns, c.column.isLater = true →
      c.reference = none ∧ (c.isNullable = true ∨ c.column = .unscoped) := by
    cases kind <;> decide
  exact each c member later

theorem not_isLater_of_key {kind : Kind} {key : List Column} (member : key ∈ (migrated.table kind).keys)
    {column : Column} (own : column ∈ key) : column.isLater = false := by
  have each : ∀ key ∈ (migrated.table kind).keys, ∀ column ∈ key, column.isLater = false := by
    cases kind <;> decide
  exact each key member column own

theorem allows_later {tables : Store} {others : List Row} {written : List Column} {row : Row}
    (later : ∀ column ∈ written, column.isLater = true) :
    migrated.allows tables others written.contains row = true := by
  have columns : ∀ c ∈ (migrated.table row.kind).columns, c.column ∈ written → c.allows tables row = true := by
    intro c member named
    obtain ⟨leads, nullable | scope⟩ := free_of_isLater member (later c.column named)
    · simp [ColumnRule.allows, leads, nullable]
    · simp [ColumnRule.allows, leads, scope, Row.cell]
  have keys : ∀ key ∈ (migrated.table row.kind).keys, key.any written.contains = false := by
    intro key member
    rw [← Bool.not_eq_true, List.any_eq_true]
    rintro ⟨column, own, named⟩
    have apart := not_isLater_of_key member own
    rw [later column (by simpa using named)] at apart
    cases apart
  simp only [Schema.allows, Bool.and_eq_true, List.all_eq_true]
  constructor
  · intro c member
    by_cases named : c.column ∈ written
    · simp [columns c member named]
    · simp [named]
  · intro key member
    simp [keys key member]

theorem modify?_migrated (store : Store) {written : List Column} (affected : Row → Bool) (change : Row → Row)
    (later : ∀ column ∈ written, column.isLater = true) :
    migrated.modify? store written affected change = some (store.modify affected change) := by
  refine if_pos (List.all_eq_true.mpr fun row _ => ?_)
  exact allows_later later

theorem update?_migrated (store : Store) (kind : Kind) (id : Int) (changes : Assignment) :
    migrated.update? store kind id changes = some (store.update kind id changes) := by
  apply modify?_migrated
  intro column named
  obtain ⟨given, -, rfl⟩ := List.mem_map.mp named
  rfl

theorem setScope?_migrated (store : Store) (affected : Row → Bool) (unscoped : Bool) :
    migrated.setScope? store affected unscoped = some (store.setScope affected unscoped) := by
  apply modify?_migrated
  intro column named
  rw [List.mem_singleton.mp named]
  rfl

theorem goes_migrated (store : Store) (matched : Row → Bool) (links : Nat) :
    migrated.goes store matched links = store.isBelow matched links := by
  induction links with
  | zero => rfl
  | succ links ih =>
    funext row
    rw [Schema.goes, Store.isBelow, ih]
    simp only [follows_migrated]

theorem delete?_migrated (store : Store) (matched : Row → Bool) :
    migrated.delete? store matched = some (store.delete matched) := by
  have enough : store.isBelow matched Kind.all.length = store.isBelow matched Store.longestChain := by
    funext row
    rw [Bool.eq_iff_iff, Store.isBelow_longestChain_iff]
    refine ⟨Store.below_of_isBelow, fun found => Store.isBelow_of_below found ?_⟩
    cases row.kind <;> decide
  -- A row that is left and refers to one that goes would go as well.
  have free : ¬ (store.delete matched).rows.any (fun row =>
      (store.rows.filter (store.isBelow matched Store.longestChain)).any row.isChildOf) = true := by
    rw [List.any_eq_true]
    rintro ⟨row, left, held⟩
    obtain ⟨parent, gone, child⟩ := List.any_eq_true.mp held
    obtain ⟨member, found⟩ := List.mem_filter.mp gone
    obtain ⟨-, apart⟩ := Store.mem_delete.mp left
    exact apart (.link member child (Store.isBelow_longestChain_iff.mp found))
  simp only [Schema.delete?, goes_migrated, leadsTo_migrated, enough]
  exact if_neg free

section Loose

variable {schema : Schema} {store tables : Store}

theorem keys_loose (schema : Schema) (kind : Kind) : (schema.loose.table kind).keys = (schema.table kind).keys := by
  simp [loose, TableRule.keys, List.filter_map, Function.comp_def]

theorem allows_free {rule : ColumnRule} {row : Row} (allowed : rule.allows tables row = true) :
    ColumnRule.allows { rule with reference := none } tables row = true := by
  unfold ColumnRule.allows at allowed ⊢
  split at allowed
  case isTrue null => rw [if_pos null, allowed]
  case isFalse given => rw [if_neg given, Option.isNone_none, Bool.true_or]

theorem allows_loose {others : List Row} {written : Column → Bool} {row : Row}
    (allowed : schema.allows tables others written row = true) :
    schema.loose.allows tables others written row = true := by
  obtain ⟨columns, keys⟩ := Bool.and_eq_true_iff.mp allowed
  rw [List.all_eq_true] at columns
  refine Bool.and_eq_true_iff.mpr ⟨?_, by rwa [keys_loose]⟩
  rw [List.all_eq_true]
  intro loosened found
  obtain ⟨rule, member, rfl⟩ := List.mem_map.mp found
  rcases Bool.or_eq_true_iff.mp (columns rule member) with other | allowed
  · exact Bool.or_eq_true_iff.mpr (.inl other)
  · exact Bool.or_eq_true_iff.mpr (.inr (allows_free allowed))

theorem Matches.loose {a b : Schema} (same : a.Matches b) : a.loose.Matches b.loose := fun kind =>
  ⟨(same kind).columns.map _, (same kind).unique⟩

theorem insert?_loose (store : Store) (c : Candidate) :
    migrated.loose.insert? store c =
      if store.keyTaken c.subject then none else some ⟨store.rows ++ [store.created c]⟩ := by
  have columns : ((migrated.loose.table c.kind).columns.all fun rule =>
      rule.allows ⟨store.rows ++ [store.created c]⟩ (store.created c)) = true := by
    cases subject : c.subject
    all_goals
      have kind : c.kind = _ := congrArg Subject.kind subject
      simp [kind, Subject.kind, loose, migrated, Migration.table, Migration.unscoped, ColumnRule.allows, Row.cell,
        Store.created, Row.create, subject, Subject.cell]
  have allowed : migrated.loose.allows ⟨store.rows ++ [store.created c]⟩ store.rows (fun _ => true) (store.created c) =
      !store.keyTaken c.subject := by
    have keys : _ ↔ store.keyTaken c.subject = false := keys_allow_created_iff
    rw [← keys_loose migrated c.kind] at keys
    rw [Bool.eq_iff_iff, Bool.not_eq_true', ← keys]
    exact Bool.and_eq_true_iff.trans (and_iff_right columns)
  cases taken : store.keyTaken c.subject with
  | true =>
    rw [taken] at allowed
    exact if_neg (Bool.eq_false_iff.mp allowed)
  | false =>
    rw [taken] at allowed
    exact if_pos allowed

theorem modify?_loose {written : List Column} {affected : Row → Bool} {change : Row → Row}
    (done : schema.modify? store written affected change = some tables) :
    schema.loose.modify? store written affected change = some tables := by
  simp only [Schema.modify?] at done ⊢
  split at done
  case isTrue allowed =>
    refine Eq.trans (if_pos ?_) done
    rw [List.all_eq_true] at allowed ⊢
    exact fun row member => allows_loose (allowed row member)
  case isFalse => cases done

end Loose

end Schema
end Footprint
