import Footprint.Proofs.Sql.Equation
import Footprint.Proofs.Workspace.Call

namespace Footprint

namespace ColumnType

def values : ColumnType → AttributeType
  | integer => .integer
  | boolean => .flag
  | float => .number
  | varchar => .text
  | blob => .bytes

def affinity : ColumnType → Sql.Affinity
  | integer | boolean | float => .numeric
  | varchar => .text
  | blob => .blob

end ColumnType

namespace Schema

variable {a b : Schema} {kind : Kind} {rule : ColumnRule}

theorem columns_migrated (kind : Kind) : ((migrated.table kind).columns.map ColumnRule.column).Perm kind.columns := by
  cases kind <;> decide

theorem values_migrated (member : rule ∈ (migrated.table kind).columns) : rule.type.values = rule.column.type := by
  have each : ∀ rule ∈ (migrated.table kind).columns, rule.type.values = rule.column.type := by
    cases kind <;> decide
  exact each rule member

theorem affinity_migrated (member : rule ∈ (migrated.table kind).columns) :
    rule.type.affinity = Sql.affinityOf rule.column := by
  have types := values_migrated member
  rw [Sql.affinityOf_eq, ← types]
  cases rule.type <;> rfl

theorem Matches.admits (same : migrated.Matches b) {row : Row} (formed : row.WellFormed)
    (member : rule ∈ (b.table row.kind).columns) :
    rule.type.values.admits (row.cell rule.column) = true ∧ rule.type.affinity = Sql.affinityOf rule.column := by
  have member := (same row.kind).columns.mem_iff.mpr member
  refine ⟨?_, affinity_migrated member⟩
  rw [values_migrated member]
  exact formed.admits rule.column

end Schema

namespace Session

variable {s t : Session}

/-- At most the version of the schema differs, and with it the rules that the tables go by. -/
def Twins (s t : Session) : Prop := ∃ version, t = { s with database := { s.database with version } }

namespace Twins

theorem contents_eq (twins : s.Twins t) : t.contents = s.contents := by
  obtain ⟨version, rfl⟩ := twins
  rfl

theorem store_eq (twins : s.Twins t) : t.database.store = s.database.store := by
  obtain ⟨version, rfl⟩ := twins
  rfl

theorem congruence : Congruence fun s t => s.Twins t ∧ s.enforced = true where
  enforced := by
    rintro s _ ⟨⟨version, rfl⟩, enforced⟩
    exact ⟨enforced, enforced⟩
  contents := by
    rintro s _ ⟨⟨version, rfl⟩, -⟩
    rw [Statement.perform_contents_fst, Statement.perform_contents_fst]
    rfl
  seen := by
    rintro s _ change ⟨⟨version, rfl⟩, enforced⟩
    exact ⟨⟨version, rfl⟩, enforced⟩
  write := by
    rintro s _ new - ⟨⟨version, rfl⟩, enforced⟩
    exact ⟨⟨version, rfl⟩, enforced⟩
  commit := by
    rintro s _ ⟨⟨version, rfl⟩, enforced⟩
    exact ⟨⟨version, rfl⟩, enforced⟩
  rollback := by
    rintro s _ ⟨⟨version, rfl⟩, enforced⟩
    exact ⟨⟨version, rfl⟩, enforced⟩

theorem respects_call (call : Call) : Respects (fun s t => s.Twins t ∧ s.enforced = true) call.action := by
  apply congruence.respects_call
  rintro s _ ⟨⟨version, rfl⟩, enforced⟩
  exact ⟨⟨version, rfl⟩, enforced⟩

end Twins

/-- The rules of the migration and those of the models agree on all columns, and so do all answers and all tables that
    follow from the same calls. Both keep every value that is stored as it is, and compare it in the same way. -/
theorem migrated_answers_as_declared (calls : List Call) :
    let migrated := (perform Action.upgrade { database := .blank, enforced := true }).2
    let declared := inMemory
    migrated.database.schema = .migrated ∧ declared.database.schema = .declared ∧
    Schema.migrated.Matches .declared ∧
    (∀ kind : Kind, ((Schema.migrated.table kind).columns.map ColumnRule.column).Perm kind.columns) ∧
    declared.replies calls = migrated.replies calls ∧
    (declared.calls calls).database.store = (migrated.calls calls).database.store ∧
    (∀ kind, (declared.calls calls).contents.table kind = (migrated.calls calls).contents.table kind) ∧
    ∀ row ∈ (declared.calls calls).contents.rows, ∀ schema ∈ [Schema.migrated, Schema.declared],
      ∀ rule ∈ (schema.table row.kind).columns,
        rule.type.values.admits (row.cell rule.column) = true ∧ rule.type.affinity = Sql.affinityOf rule.column := by
  intro migrated declared
  have twins : migrated.Twins declared := ⟨.untracked, rfl⟩
  obtain ⟨same, twins, -⟩ := replies_eq_of_respects Twins.respects_call ⟨twins, rfl⟩ calls
  have sound : (declared.calls calls).Sound := Fresh.memory.sound.calls calls
  refine ⟨rfl, rfl, Schema.migrated_matches_declared, Schema.columns_migrated, same, twins.store_eq, ?_, ?_⟩
  · intro kind
    rw [twins.contents_eq]
  · intro row member schema either rule named
    have formed := sound.contents.rows row member
    rcases List.mem_pair.mp either with rfl | rfl
    · exact Schema.Matches.admits (fun kind => ⟨.refl _, .refl _⟩) formed named
    · exact Schema.migrated_matches_declared.admits formed named

end Session
end Footprint
