import Footprint.Proofs.Store.Insertion

/-!
One step of the tables: rows are only added or only removed, no row changes its identity, and each
column holds the value supplied for it in the step, or else the one that it held before.
-/

namespace Footprint

abbrev Supply := Kind → Int → Attribute → Option Cell

namespace Supply

def nothing : Supply := fun _ _ _ => none

def only (kind : Kind) (id : Int) (changes : Assignment) : Supply := fun kind' id' a =>
  if kind' = kind ∧ id' = id then changes.get? a else none

theorem only_nil (kind : Kind) (id : Int) : only kind id [] = nothing := by
  funext kind' id' a
  simp [only, nothing, Assignment.get?]

end Supply

namespace Store

variable {store before middle after : Store} {supply : Supply} {kind : Kind} {row : Row}

def value (store : Store) (kind : Kind) (id : Int) (a : Attribute) : Cell :=
  ((store.find? kind id).map fun row => row.cell (.field a)).getD .null

theorem find?_eq_none_iff {id : Int} : store.find? kind id = none ↔ store.holds kind id = false := by
  simp [find?, holds]

theorem WellFormed.find? (formed : store.WellFormed) (member : row ∈ store.rows) :
    store.find? row.kind row.id = some row := by
  cases found : store.find? row.kind row.id with
  | none =>
    have held : store.holds row.kind row.id = true := holds_iff.mpr ⟨row, member, rfl, rfl⟩
    simp [find?_eq_none_iff.mp found] at held
  | some other =>
    obtain ⟨member', kind⟩ := mem_table.mp (List.mem_of_find?_eq_some found)
    have id : other.id = row.id := by simpa using List.find?_some found
    rw [formed.eq_of_id member' member kind id]

theorem WellFormed.value_eq (formed : store.WellFormed) (member : row ∈ store.rows) (a : Attribute) :
    store.value row.kind row.id a = row.cell (.field a) := by
  rw [value, formed.find? member]
  rfl

theorem value_eq_null {id : Int} (absent : store.holds kind id = false) (a : Attribute) :
    store.value kind id a = .null := by
  rw [value, find?_eq_none_iff.mpr absent]
  rfl

def Grows (before after : Store) : Prop := before.identities.Sublist after.identities

theorem Grows.refl (store : Store) : store.Grows store := List.Sublist.refl _

theorem Grows.of_modify {affected : Row → Bool} {change : Row → Row}
    (keeps : ∀ row, (change row).identity = row.identity) : before.Grows (before.modify affected change) := by
  simp [Grows, identities_modify keeps]

theorem Grows.holds {id : Int} (grows : before.Grows after) (held : before.holds kind id = true) :
    after.holds kind id = true := by
  obtain ⟨subject, named, same⟩ := holds_iff_identity.mp held
  exact holds_iff_identity.mpr ⟨subject, grows.subset named, same⟩

theorem Grows.lookup? {key : Key} (grows : before.Grows after) (formed : after.WellFormed)
    (found : before.lookup? kind key = some row) : ∃ later, after.lookup? kind key = some later ∧ later.id = row.id := by
  obtain ⟨member, rfl, rfl⟩ := mem_of_lookup? found
  obtain ⟨later, member', identity⟩ := List.mem_map.mp (grows.subset (List.mem_map_of_mem member))
  obtain ⟨kind, id⟩ := Row.kind_and_id_of_identity identity
  rw [← kind, ← Row.key_of_identity identity]
  exact ⟨later, formed.lookup? member', id⟩

theorem Grows.parentsStored {subject : Subject} (grows : before.Grows after)
    (stored : before.parentsStored subject = true) : after.parentsStored subject = true :=
  parentsStored_iff.mpr fun parent needed => grows.holds (parentsStored_iff.mp stored parent needed)

theorem Grows.older (grows : before.Grows after) (formed : after.WellFormed) (member : row ∈ after.rows)
    (held : before.holds row.kind row.id = true) : ∃ old ∈ before.rows, old.identity = row.identity := by
  obtain ⟨old, member', kind, id⟩ := holds_iff.mp held
  obtain ⟨later, member'', identity⟩ := List.mem_map.mp (grows.subset (List.mem_map_of_mem member'))
  obtain ⟨kind', id'⟩ := Row.kind_and_id_of_identity identity
  obtain rfl := formed.eq_of_id member'' member (kind'.trans kind) (id'.trans id)
  exact ⟨old, member', identity.symm⟩

theorem Grows.identity_of_key {old : Row} (grows : before.Grows after) (formed : after.WellFormed)
    (earlier : old ∈ before.rows) (member : row ∈ after.rows) (kind : old.kind = row.kind) (key : old.key = row.key) :
    old.identity = row.identity := by
  obtain ⟨later, member', identity⟩ := List.mem_map.mp (grows.subset (List.mem_map_of_mem earlier))
  have kind' := (Row.kind_and_id_of_identity identity).1.trans kind
  obtain rfl := formed.eq_of_key member' member kind' ((Row.key_of_identity identity).trans key)
  exact identity.symm

structure Step (supply : Supply) (before after : Store) : Prop where
  moved : before.Grows after ∨ after.Grows before
  cells : ∀ row ∈ after.rows, ∀ a ∈ row.kind.attributes, row.cell (.field a) =
    ((supply row.kind row.id a).map Cell.stored).getD (before.value row.kind row.id a)

namespace Step

theorem of_kept (formed : before.WellFormed) (moved : before.Grows after ∨ after.Grows before)
    (kept : ∀ row ∈ after.rows, ∃ old ∈ before.rows, old.identity = row.identity ∧ old.attributes = row.attributes) :
    Step .nothing before after where
  moved := moved
  cells row member a named := by
    obtain ⟨old, member', identity, attributes⟩ := kept row member
    obtain ⟨kind, id⟩ := Row.kind_and_id_of_identity identity
    rw [← kind, ← id, formed.value_eq member']
    simp [Row.cell, attributes, Supply.nothing]

theorem refl (formed : before.WellFormed) : Step .nothing before before :=
  of_kept formed (.inl (.refl before)) fun row member => ⟨row, member, rfl, rfl⟩

theorem setScope (formed : before.WellFormed) (affected : Row → Bool) (unscoped : Bool) :
    Step .nothing before (before.setScope affected unscoped) := by
  refine of_kept formed (.inl (.of_modify fun _ => rfl)) fun row member => ?_
  obtain ⟨old, member', rfl⟩ := List.mem_map.mp member
  refine ⟨old, member', ?_, ?_⟩
  · split <;> rfl
  · split <;> rfl

theorem delete (formed : before.WellFormed) (root : Row → Bool) : Step .nothing before (before.delete root) :=
  of_kept formed (.inr identities_delete) fun row member => ⟨row, (mem_delete.mp member).1, rfl, rfl⟩

theorem update (formed : before.WellFormed) (kind : Kind) (id : Int) (changes : Assignment) :
    Step (.only kind id changes) before (before.update kind id changes) where
  moved := .inl (.of_modify fun _ => rfl)
  cells row member a named := by
    obtain ⟨old, member', rfl⟩ := List.mem_map.mp member
    by_cases touched : (old.kind == kind && old.id == id) = true
    · simp only [if_pos touched] at named ⊢
      have value := formed.value_eq member' a
      simp only [Bool.and_eq_true, beq_iff_eq] at touched
      change _ = ((Supply.only kind id changes old.kind old.id a).map _).getD (before.value old.kind old.id a)
      rw [value, Row.cell_write changes ((formed.rows old member').named.mpr named)]
      simp [Supply.only, touched]
    · simp only [if_neg touched]
      rw [formed.value_eq member']
      simp only [Bool.and_eq_true, beq_iff_eq] at touched
      simp [Supply.only, touched]

theorem insert {c : Candidate} (formed : before.WellFormed) (inserted : before.insert? c = some after) :
    Step (.only c.kind (before.nextId c.kind) c.supplied) before after := by
  obtain ⟨-, -, rfl⟩ := insert?_eq_some_iff.mp inserted
  refine ⟨.inl ?_, fun row member a named => ?_⟩
  · simp [Grows, identities]
  · rcases List.mem_append.mp member with member | last
    · rw [formed.value_eq member]
      have older : ¬ (row.kind = c.kind ∧ row.id = before.nextId c.kind) := by
        rintro ⟨kind, id⟩
        have below := lt_nextId member
        rw [kind, id] at below
        exact Int.lt_irrefl _ below
      simp [Supply.only, older]
    · obtain rfl := List.mem_singleton.mp last
      have value := value_eq_null (before.holds_nextId c.kind) a
      change (Row.create (before.nextId c.kind) c.subject c.supplied).cell (.field a) =
        ((Supply.only c.kind (before.nextId c.kind) c.supplied c.kind (before.nextId c.kind) a).map _).getD
          (before.value c.kind (before.nextId c.kind) a)
      rw [value, Row.cell_create _ c.subject _ named]
      cases given : c.supplied.get? a <;> simp [Supply.only, given, Cell.stored]

theorem trans (grows : before.Grows middle) (formed : middle.WellFormed) (grows' : middle.Grows after)
    (first : Step .nothing before middle) (second : Step .nothing middle after) : Step .nothing before after where
  moved := .inl (grows.trans grows')
  cells row member a named := by
    refine (second.cells row member a named).trans ?_
    change middle.value row.kind row.id a = before.value row.kind row.id a
    -- A row that the second step adds was not there before the first one either, which removes none.
    cases held : middle.holds row.kind row.id with
    | true =>
      obtain ⟨old, member', kind, id⟩ := holds_iff.mp held
      rw [← kind, ← id, formed.value_eq member']
      exact first.cells old member' a (kind ▸ named)
    | false =>
      have absent : before.holds row.kind row.id = false := by
        rw [← Bool.not_eq_true]
        exact fun held' => Bool.false_ne_true (held.symm.trans (grows.holds held'))
      rw [value_eq_null held, value_eq_null absent]

end Step

namespace Inserted

variable {c : Candidate} {outcome : Outcome}

theorem wellFormed (formed : before.WellFormed) (proper : c.Proper) (inserted : before.Inserted c outcome after) :
    after.WellFormed := by
  cases inserted with
  | same found same => exact formed
  | merged found plain => exact formed.update proper plain _
  | created plain inserted => exact formed.insert proper plain inserted

theorem grows (inserted : before.Inserted c outcome after) : before.Grows after := by
  cases inserted with
  | same found same => exact .refl before
  | merged found _ => exact .of_modify fun _ => rfl
  | created _ inserted =>
    obtain ⟨-, -, rfl⟩ := insert?_eq_some_iff.mp inserted
    simp [Grows, identities]

theorem nextId_le (inserted : before.Inserted c outcome after) (kind : Kind) :
    after.nextId kind ≤ before.nextId kind + 1 := by
  cases inserted with
  | same found same => exact Int.le_add_one (Int.le_refl _)
  | merged found _ => exact Int.le_add_one (nextId_modify_le (Row.identity_write _) kind)
  | created _ inserted => exact nextId_insert_le inserted kind

theorem step (formed : before.WellFormed) (inserted : before.Inserted c outcome after) :
    Step (.only c.kind outcome.2 c.supplied) before after := by
  cases inserted with
  | @same row found same =>
    have written := Step.update formed c.kind row.id c.supplied
    rwa [same] at written
  | merged found _ => exact .update formed _ _ _
  | created _ inserted => exact .insert formed inserted

end Inserted
end Store
end Footprint
