import Footprint.Proofs.Workspace.Invariant

namespace Footprint

@[simp] theorem Cell.fits_stored (cell : Cell) : cell.stored.fits = cell.fits := by
  cases cell with
  | real x =>
    cases x with
    | finite negative mantissa exponent => cases mantissa <;> rfl
    | _ => rfl
  | _ => rfl

theorem Word.holds_of_pos {n : Int} (positive : 0 < n) (below : n < Word.bound) : Word.holds n = true := by
  rw [Word.bound] at below
  rw [Word.holds, Bool.and_eq_true, decide_eq_true_iff, decide_eq_true_iff, Word.bound]
  omega

namespace Assignment

theorem fits_get? {changes : Assignment} (fits : changes.fits = true) {a : Attribute} {cell : Cell}
    (given : changes.get? a = some cell) : cell.fits = true :=
  fits_iff.mp fits a cell (mem_of_lookup given)

theorem fits_filter {changes : Assignment} (fits : changes.fits = true) (p : Attribute × Cell → Bool) :
    Assignment.fits (changes.filter p) = true :=
  fits_iff.mpr fun a cell member => fits_iff.mp fits a cell (List.mem_filter.mp member).1

end Assignment

theorem Candidate.changes_fits {c : Candidate} (fits : c.fits = true) (row : Row) : (c.changes row).fits = true :=
  Assignment.fits_filter (Candidate.fits_iff.mp fits).2 _

theorem Revision.misfit?_of_id {r : Revision} (holds : Word.holds r.id = true) : r.misfit? = r.changes.misfit? := by
  rw [misfit?, Cell.fits_iff.mp ((Cell.fits_int r.id).trans holds), Option.or_none]

theorem Candidate.misfit?_revision {c : Candidate} (fits : c.fits = true) {row : Row}
    (holds : Word.holds row.id = true) : (c.revision row).misfit? = none :=
  (Revision.misfit?_of_id holds).trans (Option.isNone_iff_eq_none.mp (changes_fits fits row))

namespace Candidate

variable {c : Candidate} {m : Misfit}

theorem unfit_of_key (misfit : c.key.misfit? = some m) : c.fits = false := by
  rw [← Bool.not_eq_true]
  intro fits
  simp [Key.fits_iff.mp (Upsert.key_fits fits)] at misfit

theorem unfit_of_revision {row : Row} (holds : Word.holds row.id = true) (misfit : (c.revision row).misfit? = some m) :
    c.fits = false := by
  rw [← Bool.not_eq_true]
  intro fits
  simp [misfit?_revision fits holds] at misfit

end Candidate

namespace Row

structure Sized (row : Row) : Prop where
  id : 0 < row.id
  attributes : row.attributes.fits = true

theorem Sized.cell {row : Row} (sized : row.Sized) (a : Attribute) : (row.cell (.field a)).fits = true := by
  rw [Row.cell]
  cases given : row.attributes.get? a with
  | none => rfl
  | some cell => exact Assignment.fits_get? sized.attributes given

theorem Sized.create {id : Int} (positive : 0 < id) (subject : Subject) {supplied : Assignment}
    (fits : supplied.fits = true) : (Row.create id subject supplied).Sized := by
  refine ⟨positive, Assignment.fits_iff.mpr fun a cell member => ?_⟩
  obtain ⟨name, -, same⟩ := List.mem_map.mp member
  cases same
  rw [Cell.fits_stored]
  cases given : supplied.get? a with
  | none => rfl
  | some cell => exact Assignment.fits_get? fits given

theorem Sized.write {row : Row} (sized : row.Sized) {changes : Assignment} (fits : changes.fits = true) :
    (row.write changes).Sized := by
  refine ⟨sized.id, Assignment.fits_iff.mpr fun a cell member => ?_⟩
  obtain ⟨⟨name, old⟩, member', same⟩ := List.mem_map.mp member
  cases same
  cases given : changes.get? a with
  | none => exact Assignment.fits_iff.mp sized.attributes a old member'
  | some cell => exact (Cell.fits_stored cell).trans (Assignment.fits_get? fits given)

end Row

theorem Assignment.misfit?_filter {changes : Assignment} {p : Attribute × Cell → Bool}
    (fits : ∀ a cell, (a, cell) ∈ changes → p (a, cell) = false → cell.fits = true) :
    Assignment.misfit? (changes.filter p) = changes.misfit? := by
  induction changes with
  | nil => rfl
  | cons pair rest ih =>
    have later := ih fun a cell member => fits a cell (List.mem_cons_of_mem _ member)
    simp only [misfit?, List.findSome?_cons] at later ⊢
    cases kept : p pair with
    | true => rw [List.filter_cons_of_pos kept, List.findSome?_cons, later]
    | false =>
      have none := Cell.fits_iff.mp (fits pair.1 pair.2 List.mem_cons_self kept)
      rw [List.filter_cons_of_neg (by simp [kept]), later, none]

theorem Candidate.misfit?_changes {c : Candidate} (proper : c.Proper) {row : Row} (formed : row.WellFormed)
    (sized : row.Sized) : (c.changes row).misfit? = c.supplied.misfit? := by
  refine Assignment.misfit?_filter fun a cell member same => ?_
  have equal : (row.cell (.field a)).equals cell = true := by simpa using same
  have kept := Cell.eq_stored_of_equals (formed.types a) (proper.types a cell member) (formed.normal a) equal
  rw [← Cell.fits_stored, ← kept]
  exact sized.cell a

namespace Store

variable {store new : Store}

def Sized (store : Store) : Prop := ∀ row ∈ store.rows, row.Sized

theorem Sized.empty : Store.empty.Sized := nofun

theorem Sized.modify (sized : store.Sized) {affected : Row → Bool} {change : Row → Row}
    (keeps : ∀ row : Row, row.Sized → (change row).Sized) : (store.modify affected change).Sized := by
  intro row member
  obtain ⟨old, member', rfl⟩ := List.mem_map.mp member
  split
  · exact keeps old (sized old member')
  · exact sized old member'

theorem Sized.insert {c : Candidate} (sized : store.Sized) (fits : c.fits = true)
    (inserted : store.insert? c = some new) : new.Sized := by
  obtain ⟨-, -, rfl⟩ := insert?_eq_some_iff.mp inserted
  intro row member
  rcases List.mem_append.mp member with member | last
  · exact sized row member
  · obtain rfl := List.mem_singleton.mp last
    exact .create (store.nextId_pos c.kind) c.subject (Candidate.fits_iff.mp fits).2

theorem Sized.writes (sized : store.Sized) (written : store.Writes new) : new.Sized := by
  cases written with
  | insert accepted fits inserted => exact sized.insert fits inserted
  | update kind id fits => exact sized.modify fun row sized => sized.write fits
  | setScope affected unscoped => exact sized.modify fun row sized => ⟨sized.id, sized.attributes⟩
  | delete matched => exact fun row member => sized row (mem_delete.mp member).1

theorem Inserted.sized {c : Candidate} {outcome : Outcome} (inserted : store.Inserted c outcome new)
    (sized : store.Sized) (fits : c.fits = true) : new.Sized := by
  cases inserted with
  | same found same => exact sized
  | merged found => exact sized.writes (.update _ _ (Candidate.fits_iff.mp fits).2)
  | created _ inserted => exact sized.insert fits inserted

def IdsFit (store : Store) : Prop := ∀ row ∈ store.rows, Word.holds row.id = true

theorem Sized.holds_id (sized : store.Sized) {row : Row} (member : row ∈ store.rows)
    (room : store.nextId row.kind ≤ Word.bound) : Word.holds row.id = true := by
  exact Word.holds_of_pos (sized row member).id (Int.lt_of_lt_of_le (lt_nextId member) room)

theorem Sized.idsFit (sized : store.Sized) (room : ∀ kind, store.nextId kind ≤ Word.bound) : store.IdsFit :=
  fun row member => sized.holds_id member (room row.kind)

theorem Sized.invariant : Store.Invariant Sized := ⟨.empty, .writes⟩

end Store

namespace Session

variable {s : Session}

structure Sized (s : Session) : Prop where
  committed : s.database.store.Sized
  contents : s.contents.Sized

theorem Reachable.sized (reached : s.Reachable) : s.Sized :=
  have within := reached.within Store.Sized.invariant
  ⟨within.committed, within.contents⟩

end Session
end Footprint
