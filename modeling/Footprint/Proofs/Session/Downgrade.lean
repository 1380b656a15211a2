import Footprint.Proofs.Session.Write
import Mathlib.Data.List.Basic

namespace Footprint

theorem Tables.drop_schema (d : Database) {tables : Tables} {kind : Kind} (present : kind ∈ tables.present) :
    tables.drop d.schema kind = .ok ⟨tables.present.erase kind, tables.store.delete (·.kind == kind)⟩ := by
  simp [drop, present]

def Store.without (store : Store) (kinds : List Kind) : Store :=
  kinds.foldl (fun store kind => store.delete (·.kind == kind)) store

theorem Store.mem_without {store : Store} {kinds : List Kind} {row : Row} (member : row ∈ (store.without kinds).rows) :
    row ∈ store.rows ∧ row.kind ∉ kinds := by
  induction kinds generalizing store with
  | nil => exact ⟨member, List.not_mem_nil⟩
  | cons kind rest ih =>
    obtain ⟨member, others⟩ := ih member
    obtain ⟨member, apart⟩ := Store.mem_delete.mp member
    refine ⟨member, ?_⟩
    rw [List.mem_cons, not_or]
    refine ⟨fun same => apart (.root ?_), others⟩
    simpa using same

theorem Tables.drops_schema (d : Database) {kinds present : List Kind} (store : Store) (distinct : kinds.Nodup)
    (there : ∀ kind ∈ kinds, kind ∈ present) :
    kinds.foldlM (Tables.drop d.schema) ⟨present, store⟩ = .ok ⟨present.diff kinds, store.without kinds⟩ := by
  induction kinds generalizing present store with
  | nil => rfl
  | cons kind rest ih =>
    obtain ⟨apart, distinct⟩ := List.nodup_cons.mp distinct
    have still : ∀ other ∈ rest, other ∈ present.erase kind := by
      intro other member
      -- Each table is dropped once, so the later ones are still there.
      have different : other ≠ kind := fun same => apart (same ▸ member)
      exact (List.mem_erase_of_ne different).mpr (there other (List.mem_cons_of_mem _ member))
    rw [List.foldlM_cons, Tables.drop_schema d (there kind List.mem_cons_self), List.diff_cons]
    exact ih _ distinct still

namespace Database

theorem downgrade_eq_ok {d : Database} (version : d.version = .initial) (tables : d.tables = true) :
    d.downgrade d.schema = .ok ⟨false, .base, .empty⟩ := by
  have dropped : Migration.drops.foldlM (Tables.drop d.schema) ⟨Kind.all, d.store⟩ =
      .ok ⟨[], d.store.without Migration.drops⟩ := Tables.drops_schema d d.store (by decide) (by decide)
  have nothing : d.store.without Migration.drops = .empty := by
    have rows : (d.store.without Migration.drops).rows = [] := by
      apply List.eq_nil_iff_forall_not_mem.mpr
      intro row member
      have other := (Store.mem_without member).2
      cases kind : row.kind <;> simp [kind, Migration.drops] at other
    exact congrArg Store.mk rows
  simp only [downgrade, version, tables, if_true, dropped, nothing]
  rfl

theorem downgrade_eq_error {d : Database} (version : d.version = .initial) (tables : d.tables = false) :
    d.downgrade d.schema = .error .noTable := by
  simp only [downgrade, version, tables, if_true]
  rfl

theorem store_tracked (d : Database) : d.tracked.store = d.store := by
  unfold tracked
  split <;> rfl

theorem store_of_downgrade {d after : Database} (done : d.downgrade d.schema = .ok after) :
    after.store = d.store ∨ after.store = .empty := by
  by_cases version : d.version = .initial
  · cases tables : d.tables with
    | true =>
      rw [downgrade_eq_ok version tables] at done
      cases done
      exact .inr rfl
    | false =>
      rw [downgrade_eq_error version tables] at done
      cases done
  · rw [downgrade, if_neg version] at done
    cases done
    exact .inl d.store_tracked

end Database
end Footprint
