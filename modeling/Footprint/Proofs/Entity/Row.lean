import Footprint.Store.Basic

namespace Footprint

def AttributeType.admits : AttributeType → Cell → Bool
  | _, .null | .flag, .bool _ | .text, .text _ | .text, .ragged _ | .integer, .int _ | .number, .real _
  | .bytes, .bytes _ => true
  | _, _ => false

def Cell.isRagged : Cell → Bool
  | ragged _ => true
  | _ => false

theorem Binary64.eq_or_zeros_of_equals {x y : Binary64} (equal : x.equals y = true) :
    x = y ∨ (x.isZero = true ∧ y.isZero = true) := by
  cases x <;> cases y <;> simp [Binary64.equals] at equal
  case infinity.infinity => exact .inl (by rw [equal])
  case finite.finite =>
    rcases equal with ⟨rfl, rfl⟩ | ⟨⟨rfl, rfl⟩, rfl⟩
    · exact .inr ⟨rfl, rfl⟩
    · exact .inl rfl

namespace Cell

theorem stored_real {x : Binary64} (proper : x ≠ .nan) :
    (real x).stored = real (if x.isZero then .zero else x) := by
  cases x with
  | nan => exact absurd rfl proper
  | infinity negative => rfl
  | finite negative mantissa exponent => cases mantissa <;> rfl

theorem stored_eq_null_iff {cell : Cell} : cell.stored = .null ↔ cell = .null ∨ cell = .real .nan := by
  cases cell with
  | real x =>
    by_cases proper : x = .nan
    · simp [proper, stored]
    · simp [stored_real proper, proper]
  | _ => simp [stored]

theorem stored_stored (cell : Cell) : cell.stored.stored = cell.stored := by
  cases cell with
  | real x =>
    cases x with
    | nan => rfl
    | infinity negative => rfl
    | finite negative mantissa exponent => cases mantissa <;> rfl
  | _ => rfl

theorem admits_stored {t : AttributeType} {cell : Cell} (admitted : t.admits cell = true) :
    t.admits cell.stored = true := by
  cases cell with
  | real x =>
    by_cases proper : x = .nan
    · subst proper
      cases t <;> rfl
    · rw [stored_real proper]
      cases t <;> exact admitted
  | _ => exact admitted

@[simp] theorem isRagged_stored (cell : Cell) : cell.stored.isRagged = cell.isRagged := by
  cases cell with
  | real x =>
    by_cases proper : x = .nan
    · simp [proper, stored, isRagged]
    · simp [stored_real proper, isRagged]
  | _ => rfl

@[simp] theorem fits_int (n : Int) : (int n).fits = Word.holds n := by
  cases holds : Word.holds n <;> simp [fits, misfit?, holds]

theorem fits_iff {cell : Cell} : cell.fits = true ↔ cell.misfit? = none := by simp [fits]

theorem isRagged_of_fits {cell : Cell} (fits : cell.fits = true) : cell.isRagged = false := by
  cases cell with
  | ragged r => cases fits
  | _ => rfl

theorem equals_ragged {cell : Cell} (plain : cell.isRagged = false) (r : Ragged) : cell.equals (.ragged r) = false := by
  cases cell with
  | ragged r => cases plain
  | _ => rfl

theorem equals_nan (cell : Cell) : cell.equals (.real .nan) = false := by
  cases cell with
  | real x => cases x <;> rfl
  | _ => rfl

theorem stored_equals {cell : Cell} (proper : cell ≠ .real .nan) : cell.stored.equals cell = true := by
  cases cell with
  | real x =>
    have number : x ≠ .nan := fun same => proper (congrArg real same)
    rw [stored_real number]
    cases x with
    | nan => exact absurd rfl number
    | infinity negative => simp [Binary64.isZero, equals, number?, Binary64.equals]
    | finite negative mantissa exponent =>
      cases mantissa <;> simp [Binary64.isZero, Binary64.zero, equals, number?, Binary64.equals]
  | _ => simp [stored, equals, number?]

theorem stored_eq_of_equals {t : AttributeType} {one other : Cell} (type : t.admits one = true)
    (type' : t.admits other = true) (equal : one.equals other = true) : one.stored = other.stored := by
  cases one with
  | real x =>
    cases other with
    | real y =>
      rcases Binary64.eq_or_zeros_of_equals equal with rfl | ⟨zero, zero'⟩
      · rfl
      · have number : x ≠ .nan := by rintro rfl; cases zero
        have number' : y ≠ .nan := by rintro rfl; cases zero'
        rw [stored_real number, stored_real number', zero, zero']
        rfl
    | null => cases equal
    | _ => cases t <;> simp [AttributeType.admits] at type type'
  | bool b =>
    cases other with
    | bool b' => cases b <;> cases b' <;> simp [equals, number?] at equal ⊢
    | null => cases equal
    | _ => cases t <;> simp [AttributeType.admits] at type type'
  | _ =>
    cases other <;> cases t <;> simp_all [AttributeType.admits, equals, number?, stored]

theorem eq_stored_of_equals {t : AttributeType} {kept supplied : Cell} (keptType : t.admits kept = true)
    (suppliedType : t.admits supplied = true) (normal : kept.stored = kept)
    (equal : kept.equals supplied = true) : kept = supplied.stored :=
  normal.symm.trans (stored_eq_of_equals keptType suppliedType equal)

end Cell

theorem Kind.attributes_nodup (kind : Kind) : kind.attributes.Nodup := by
  cases kind <;> decide

section

variable {α β γ : Type} [BEq α] [LawfulBEq α]

theorem mem_of_lookup {pairs : List (α × β)} {a : α} {b : β} (found : pairs.lookup a = some b) :
    (a, b) ∈ pairs := by
  obtain ⟨before, after, rfl, -⟩ := List.lookup_eq_some_iff.mp found
  simp

theorem lookup_eq_some_iff_mem {pairs : List (α × β)} (nodup : (pairs.map Prod.fst).Nodup) {a : α} {b : β} :
    pairs.lookup a = some b ↔ (a, b) ∈ pairs := by
  refine ⟨mem_of_lookup, fun member => ?_⟩
  obtain ⟨before, after, rfl⟩ := List.append_of_mem member
  refine List.lookup_eq_some_iff.mpr ⟨before, after, rfl, fun pair earlier => ?_⟩
  simp only [List.map_append, List.map_cons, List.nodup_append] at nodup
  have apart := nodup.2.2 pair.1 (List.mem_map_of_mem earlier) a (by simp)
  simpa using fun same : a = pair.1 => apart same.symm

theorem lookup_eq_of_perm {pairs others : List (α × β)} (nodup : (pairs.map Prod.fst).Nodup) (same : others.Perm pairs)
    (a : α) : others.lookup a = pairs.lookup a := by
  have nodup' : (others.map Prod.fst).Nodup := (same.map _).nodup_iff.mpr nodup
  ext b
  rw [lookup_eq_some_iff_mem nodup', lookup_eq_some_iff_mem nodup, same.mem_iff]

theorem lookup_filter {pairs : List (α × β)} (nodup : (pairs.map Prod.fst).Nodup) (p : α × β → Bool) (a : α) :
    (pairs.filter p).lookup a = (pairs.lookup a).filter fun b => p (a, b) := by
  have sub : ((pairs.filter p).map Prod.fst).Nodup :=
    nodup.sublist (List.filter_sublist.map _)
  ext b
  rw [lookup_eq_some_iff_mem sub, List.mem_filter, Option.filter_eq_some_iff,
    lookup_eq_some_iff_mem nodup]

theorem lookup_map_snd (pairs : List (α × β)) (f : α → β → γ) (a : α) :
    (pairs.map fun (a, b) => (a, f a b)).lookup a = (pairs.lookup a).map (f a) := by
  induction pairs with
  | nil => rfl
  | cons pair rest ih =>
    obtain ⟨name, b⟩ := pair
    simp only [List.map_cons, List.lookup_cons]
    by_cases same : a = name
    · subst same
      simp
    · rw [beq_eq_false_iff_ne.mpr same]
      exact ih

theorem lookup_map_self (names : List α) (f : α → β) {a : α} (member : a ∈ names) :
    (names.map fun a => (a, f a)).lookup a = some (f a) := by
  induction names with
  | nil => cases member
  | cons name rest ih =>
    simp only [List.map_cons, List.lookup_cons]
    by_cases same : a = name
    · subst same
      simp
    · have later : a ∈ rest := (List.mem_cons.mp member).resolve_left same
      rw [beq_eq_false_iff_ne.mpr same]
      exact ih later

end

structure Assignment.Proper (kind : Kind) (changes : Assignment) : Prop where
  order : (changes.map Prod.fst).Sublist kind.attributes
  types : ∀ a cell, (a, cell) ∈ changes → a.type.admits cell = true

def Assignment.Plain (changes : Assignment) : Prop := ∀ a cell, (a, cell) ∈ changes → cell.isRagged = false

namespace Assignment

theorem fits_iff {changes : Assignment} : changes.fits = true ↔ ∀ a cell, (a, cell) ∈ changes → cell.fits = true := by
  simp [fits, misfit?, Cell.fits]

theorem Plain.of_fits {changes : Assignment} (fits : changes.fits = true) : changes.Plain :=
  fun a cell member => Cell.isRagged_of_fits (fits_iff.mp fits a cell member)

end Assignment

namespace Subject

def Plain (subject : Subject) : Prop := ∀ column, (subject.cell column).isRagged = false

theorem cell_eq_null {subject : Subject} {column : Column} (other : column ∉ subject.kind.subjectColumns) :
    subject.cell column = .null := by
  cases subject <;> cases column <;> first | rfl | simp [kind, Kind.subjectColumns] at other

end Subject

structure Candidate.Plain (c : Candidate) : Prop where
  subject : c.subject.Plain
  supplied : c.supplied.Plain

namespace Candidate

variable {c : Candidate}

theorem fits_iff : c.fits = true ↔
    (∀ column ∈ c.kind.subjectColumns, (c.subject.cell column).fits = true) ∧ c.supplied.fits = true := by
  simp [fits, misfit?, Assignment.fits, Cell.fits]

theorem Plain.of_fits (fits : c.fits = true) : c.Plain where
  subject column := by
    obtain ⟨subject, -⟩ := fits_iff.mp fits
    by_cases own : column ∈ c.kind.subjectColumns
    · exact Cell.isRagged_of_fits (subject column own)
    · rw [Subject.cell_eq_null own]
      rfl
  supplied := .of_fits (fits_iff.mp fits).2

end Candidate

namespace Assignment.Proper

variable {kind : Kind} {changes : Assignment}

theorem nodup (proper : changes.Proper kind) : (changes.map Prod.fst).Nodup :=
  kind.attributes_nodup.sublist proper.order

theorem admits (proper : changes.Proper kind) {a : Attribute} {cell : Cell} (given : changes.get? a = some cell) :
    a.type.admits cell = true :=
  proper.types a cell (mem_of_lookup given)

theorem filter (proper : changes.Proper kind) (p : Attribute × Cell → Bool) :
    Assignment.Proper kind (changes.filter p) where
  order := (List.filter_sublist.map _).trans proper.order
  types a cell member := proper.types a cell (List.mem_filter.mp member).1

end Assignment.Proper

namespace Row

structure WellFormed (row : Row) : Prop where
  shape : row.attributes.map Prod.fst = row.kind.attributes
  types : ∀ a : Attribute, a.type.admits (row.cell (.field a)) = true
  normal : ∀ a : Attribute, (row.cell (.field a)).stored = row.cell (.field a)

structure Plain (row : Row) : Prop where
  subject : row.subject.Plain
  attributes : ∀ a, (row.cell (.field a)).isRagged = false

theorem Plain.cell {row : Row} (plain : row.Plain) (column : Column) : (row.cell column).isRagged = false := by
  cases column with
  | field a => exact plain.attributes a
  | id | unscoped => rfl
  | domainId | subdomainId | addressId | family | value => exact plain.subject _

theorem cell_create (id : Int) (subject : Subject) (supplied : Assignment) {a : Attribute}
    (named : a ∈ subject.kind.attributes) :
    (create id subject supplied).cell (.field a) = ((supplied.get? a).getD .null).stored := by
  have found := lookup_map_self subject.kind.attributes
    (fun a => ((supplied.get? a).getD .null).stored) named
  simp only [cell, create, Assignment.get?] at found ⊢
  rw [found]
  rfl

theorem cell_eq_null {row : Row} {a : Attribute} (unnamed : a ∉ row.attributes.map Prod.fst) :
    row.cell (.field a) = .null := by
  have missing : row.attributes.get? a = none := by
    simp only [Assignment.get?, List.lookup_eq_none_iff]
    intro pair member
    simpa using fun same : a = pair.1 => unnamed (same ▸ List.mem_map_of_mem member)
  simp only [cell, missing]
  rfl

theorem get?_eq_cell {row : Row} {a : Attribute} (named : a ∈ row.attributes.map Prod.fst) :
    row.attributes.get? a = some (row.cell (.field a)) := by
  obtain ⟨pair, member, rfl⟩ := List.mem_map.mp named
  have known : (row.attributes.get? pair.1).isSome = true := by
    simp only [Assignment.get?, List.lookup_isSome_iff]
    exact ⟨pair, member, by simp⟩
  obtain ⟨cell, found⟩ := Option.isSome_iff_exists.mp known
  simp only [Row.cell, found, Option.getD_some]

@[simp] theorem write_names (row : Row) (changes : Assignment) :
    (row.write changes).attributes.map Prod.fst = row.attributes.map Prod.fst := by
  simp [write, Function.comp_def]

theorem cell_write {row : Row} (changes : Assignment) {a : Attribute} (named : a ∈ row.attributes.map Prod.fst) :
    (row.write changes).cell (.field a) =
      ((changes.get? a).map Cell.stored).getD (row.cell (.field a)) := by
  have found : (row.write changes).attributes.get? a =
      some (((changes.get? a).map Cell.stored).getD (row.cell (.field a))) := by
    have kept : List.lookup a row.attributes = some (row.cell (.field a)) := get?_eq_cell named
    simp only [write, Assignment.get?]
    rw [lookup_map_snd row.attributes (fun a cell => ((List.lookup a changes).map Cell.stored).getD cell), kept]
    rfl
  rw [cell, found]
  rfl

theorem Plain.create {c : Candidate} (plain : c.Plain) (id : Int) : (Row.create id c.subject c.supplied).Plain where
  subject := plain.subject
  attributes a := by
    by_cases named : a ∈ c.subject.kind.attributes
    · rw [cell_create id c.subject c.supplied named, Cell.isRagged_stored]
      cases given : c.supplied.get? a with
      | none => rfl
      | some cell => exact plain.supplied a cell (mem_of_lookup given)
    · rw [cell_eq_null (by simpa [Row.create, Function.comp_def] using named)]
      rfl

theorem Plain.write {row : Row} (plain : row.Plain) {changes : Assignment} (plain' : changes.Plain) :
    (row.write changes).Plain where
  subject := plain.subject
  attributes a := by
    by_cases named : a ∈ row.attributes.map Prod.fst
    · rw [cell_write changes named]
      cases given : changes.get? a with
      | none => exact plain.attributes a
      | some cell => exact (Cell.isRagged_stored cell).trans (plain' a cell (mem_of_lookup given))
    · rw [cell_eq_null (by rwa [write_names])]
      rfl

theorem Plain.of_differing {row : Row} (plain : row.Plain) {supplied : Assignment}
    (differing : Assignment.Plain (supplied.filter fun (a, cell) => !(row.cell (.field a)).equals cell)) :
    supplied.Plain := by
  intro a cell member
  cases cell with
  | ragged r => exact differing a _ (List.mem_filter.mpr ⟨member, by simp [Cell.equals_ragged (plain.attributes a)]⟩)
  | _ => rfl

namespace WellFormed

theorem named {row : Row} (formed : row.WellFormed) {a : Attribute} :
    a ∈ row.attributes.map Prod.fst ↔ a ∈ row.kind.attributes := by rw [formed.shape]

theorem create {id : Int} {subject : Subject} {supplied : Assignment}
    (proper : supplied.Proper subject.kind) : (Row.create id subject supplied).WellFormed := by
  have shape : (Row.create id subject supplied).attributes.map Prod.fst = subject.kind.attributes := by
    simp [Row.create, Function.comp_def]
  have cells (a : Attribute) : (Row.create id subject supplied).cell (.field a) = .null ∨
      ∃ cell, a.type.admits cell = true ∧ (Row.create id subject supplied).cell (.field a) = cell.stored := by
    by_cases named : a ∈ subject.kind.attributes
    · right
      rw [cell_create id subject supplied named]
      cases given : supplied.get? a with
      | none => exact ⟨.null, by cases a.type <;> rfl, rfl⟩
      | some cell => exact ⟨cell, proper.admits given, rfl⟩
    · exact .inl (cell_eq_null (shape ▸ named))
  refine ⟨shape, fun a => ?_, fun a => ?_⟩
  · rcases cells a with empty | ⟨cell, admitted, value⟩
    · rw [empty]
      cases a.type <;> rfl
    · rw [value]
      exact Cell.admits_stored admitted
  · rcases cells a with empty | ⟨cell, -, value⟩
    · rw [empty]
      rfl
    · rw [value, Cell.stored_stored]

theorem write {row : Row} (formed : row.WellFormed) {changes : Assignment}
    (proper : changes.Proper row.kind) : (row.write changes).WellFormed := by
  have cells (a : Attribute) : (row.write changes).cell (.field a) = row.cell (.field a) ∨
      ∃ cell, a.type.admits cell = true ∧ (row.write changes).cell (.field a) = cell.stored := by
    by_cases named : a ∈ row.attributes.map Prod.fst
    · rw [cell_write changes named]
      cases given : changes.get? a with
      | none => exact .inl rfl
      | some cell => exact .inr ⟨cell, proper.admits given, rfl⟩
    · left
      rw [cell_eq_null named, cell_eq_null (by rwa [write_names])]
  refine ⟨(write_names row changes).trans formed.shape, fun a => ?_, fun a => ?_⟩
  · rcases cells a with same | ⟨cell, admitted, value⟩
    · rw [same]
      exact formed.types a
    · rw [value]
      exact Cell.admits_stored admitted
  · rcases cells a with same | ⟨cell, -, value⟩
    · rw [same]
      exact formed.normal a
    · rw [value, Cell.stored_stored]

theorem cell_of_mem {row : Row} (formed : row.WellFormed) {a : Attribute} {cell : Cell}
    (member : (a, cell) ∈ row.attributes) : row.cell (.field a) = cell := by
  have nodup : (row.attributes.map Prod.fst).Nodup := formed.shape ▸ row.kind.attributes_nodup
  have found : row.attributes.get? a = some cell := (lookup_eq_some_iff_mem nodup).mpr member
  simp [Row.cell, found]

theorem attributes_eq {row : Row} (formed : row.WellFormed) :
    row.attributes = row.kind.attributes.map fun a => (a, row.cell (.field a)) := by
  rw [← formed.shape, List.map_map]
  refine (List.map_id row.attributes).symm.trans (List.map_congr_left fun pair member => ?_)
  simp [formed.cell_of_mem member]

theorem ext {row other : Row} (formed : row.WellFormed) (formed' : other.WellFormed) (id : row.id = other.id)
    (subject : row.subject = other.subject) (unscoped : row.unscoped = other.unscoped)
    (cells : ∀ a ∈ row.kind.attributes, row.cell (.field a) = other.cell (.field a)) : row = other := by
  have kind : row.kind = other.kind := congrArg Subject.kind subject
  have attributes : row.attributes = other.attributes := by
    rw [formed.attributes_eq, formed'.attributes_eq, ← kind]
    exact List.map_congr_left fun a named => by rw [cells a named]
  cases row
  cases other
  simp_all

theorem write_differing {row : Row} (formed : row.WellFormed) {supplied : Assignment}
    (proper : supplied.Proper row.kind) :
    row.write (supplied.filter fun (a, cell) => !(row.cell (.field a)).equals cell) = row.write supplied := by
  refine ext (formed.write (proper.filter _)) (formed.write proper) rfl rfl rfl fun a named => ?_
  have named : a ∈ row.attributes.map Prod.fst := formed.named.mpr named
  rw [cell_write _ named, cell_write _ named, Assignment.get?, lookup_filter proper.nodup]
  change _ = ((supplied.lookup a).map Cell.stored).getD _
  cases given : supplied.lookup a with
  | none => rfl
  | some cell =>
    cases equal : (row.cell (.field a)).equals cell with
    | false => simp [Option.filter, equal]
    | true =>
      have same := Cell.eq_stored_of_equals (formed.types a) (proper.admits given) (formed.normal a) equal
      simpa [Option.filter, equal] using same

end WellFormed
end Row
end Footprint
