import Footprint.Proofs.Store.Step

namespace Footprint

abbrev Marking := Kind → Int → Option Bool

def Marking.nothing : Marking := fun _ _ => none

namespace Store

variable {store before middle after : Store}

def unscoped (store : Store) (kind : Kind) (id : Int) : Bool := (store.find? kind id).any Row.unscoped

/-- What a change of the scope of the affected rows sets. -/
def marking (store : Store) (affected : Row → Bool) (unscoped : Bool) : Marking := fun kind id =>
  if (store.find? kind id).any affected then some unscoped else none

theorem WellFormed.unscoped_eq (formed : store.WellFormed) {row : Row} (member : row ∈ store.rows) :
    store.unscoped row.kind row.id = row.unscoped := by
  rw [unscoped, formed.find? member, Option.any_some]

theorem unscoped_eq_false {kind : Kind} {id : Int} (absent : store.holds kind id = false) :
    store.unscoped kind id = false := by
  rw [unscoped, find?_eq_none_iff.mpr absent, Option.any_none]

def Marked (marking : Marking) (before after : Store) : Prop :=
  ∀ row ∈ after.rows, row.unscoped = (marking row.kind row.id).getD (before.unscoped row.kind row.id)

namespace Marked

theorem of_kept (formed : before.WellFormed)
    (kept : ∀ row ∈ after.rows, ∃ old ∈ before.rows, old.identity = row.identity ∧ old.unscoped = row.unscoped) :
    Marked .nothing before after := by
  intro row member
  obtain ⟨old, member', identity, same⟩ := kept row member
  obtain ⟨kind, id⟩ := Row.kind_and_id_of_identity identity
  rw [← kind, ← id, formed.unscoped_eq member']
  exact same.symm

theorem refl (formed : before.WellFormed) : Marked .nothing before before :=
  of_kept formed fun row member => ⟨row, member, rfl, rfl⟩

theorem delete (formed : before.WellFormed) (root : Row → Bool) : Marked .nothing before (before.delete root) :=
  of_kept formed fun row member => ⟨row, (mem_delete.mp member).1, rfl, rfl⟩

theorem update (formed : before.WellFormed) (kind : Kind) (id : Int) (changes : Assignment) :
    Marked .nothing before (before.update kind id changes) := by
  refine of_kept formed fun row member => ?_
  obtain ⟨old, member', rfl⟩ := List.mem_map.mp member
  refine ⟨old, member', ?_, ?_⟩
  · split <;> rfl
  · split <;> rfl

theorem setScope (formed : before.WellFormed) (affected : Row → Bool) (unscoped : Bool) :
    Marked (before.marking affected unscoped) before (before.setScope affected unscoped) := by
  intro row member
  obtain ⟨old, member', rfl⟩ := List.mem_map.mp member
  by_cases touched : affected old = true
  · simp only [if_pos touched, Row.kind]
    have found := formed.find? member'
    rw [Row.kind] at found
    simp [Store.marking, found, touched]
  · simp only [if_neg touched]
    simp [Store.marking, formed.find? member', touched, formed.unscoped_eq member']

theorem insert {c : Candidate} (formed : before.WellFormed) (inserted : before.insert? c = some after) :
    Marked .nothing before after := by
  obtain ⟨-, -, rfl⟩ := insert?_eq_some_iff.mp inserted
  intro row member
  rcases List.mem_append.mp member with member | last
  · rw [formed.unscoped_eq member]
    rfl
  · obtain rfl := List.mem_singleton.mp last
    exact (unscoped_eq_false (before.holds_nextId c.kind)).symm

theorem inserted {c : Candidate} {outcome : Outcome} (formed : before.WellFormed)
    (inserted : before.Inserted c outcome after) : Marked .nothing before after := by
  cases inserted with
  | same found same => exact .refl formed
  | merged found _ => exact .update formed _ _ _
  | created _ inserted => exact .insert formed inserted

theorem trans (grows : before.Grows middle) (formed : middle.WellFormed) (first : Marked .nothing before middle)
    (second : Marked .nothing middle after) : Marked .nothing before after := by
  intro row member
  refine (second row member).trans ?_
  change middle.unscoped row.kind row.id = before.unscoped row.kind row.id
  cases held : middle.holds row.kind row.id with
  | true =>
    obtain ⟨old, member', kind, id⟩ := holds_iff.mp held
    rw [← kind, ← id, formed.unscoped_eq member']
    exact first old member'
  | false =>
    have absent : before.holds row.kind row.id = false := by
      rw [← Bool.not_eq_true]
      exact fun held' => Bool.false_ne_true (held.symm.trans (grows.holds held'))
    rw [unscoped_eq_false held, unscoped_eq_false absent]

end Marked
end Store

end Footprint
