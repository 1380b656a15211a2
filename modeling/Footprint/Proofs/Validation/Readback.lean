import Footprint.Proofs.Validation.Accepted

namespace Footprint

def Cell.toData : Cell → Data
  | null => .null
  | bool b => .bool b
  | int n => .int n
  | real x => .real x
  | text s => .text s
  | ragged r => .ragged r
  | bytes b => .bytes b

def Kind.offeredColumns (kind : Kind) : List Column :=
  kind.columns.filter fun column => column != .id && column != .unscoped

/-- The tag of the row's kind and what is read back from its columns apart from its id and its scope. -/
def Row.members (row : Row) : Members :=
  ("kind", .text row.kind.tag) :: row.kind.offeredColumns.map fun column => (column.name, (row.cell column).toData)

def Assignment.members (changes : Assignment) : Members := changes.map fun (a, cell) => (a.name, cell.toData)

/-- The tag of the candidate's kind and each field that was supplied, with the value that it was read as. -/
def Candidate.members (c : Candidate) : Members :=
  ("kind", .text c.kind.tag) :: (c.kind.subjectColumns.map fun column => (column.name, (c.subject.cell column).toData)) ++
    c.supplied.members

/-- The subject of a candidate that was accepted and that the tables can hold. -/
def Subject.Accepted (subject : Subject) : Prop := ∃ c : Candidate, c.Accepted ∧ c.fits = true ∧ c.subject = subject

/-! Values -/

theorem Attribute.rule_toData {a : Attribute} {cell : Cell} (admitted : a.type.admits cell = true) :
    a.rule cell.toData = .ok cell := by
  cases cell with
  | null => rfl
  | _ =>
    cases type : a.type <;> simp [type, AttributeType.admits] at admitted
    all_goals
      simp only [rule, type, Cell.toData]
      rfl

namespace Rule

theorem nonemptyText_text {text value : String} : nonemptyText (.text text) = .ok value ↔ text ≠ "" ∧ text = value := by
  show (if text.isEmpty then Except.error _ else Except.ok text) = .ok value ↔ _
  by_cases empty : text = "" <;> simp [empty]

theorem nonempty_of_read {data : Data} {value : String} (read : nonemptyText data = .ok value) : value ≠ "" := by
  unfold nonemptyText at read
  cases given : text data with
  | error problem =>
    rw [given] at read
    cases read
  | ok other =>
    rw [given] at read
    change (if other.isEmpty then _ else _) = _ at read
    split at read
    · cases read
    next proper =>
      cases read
      simpa using proper

theorem nonemptyText_again {data : Data} {value : String} (read : nonemptyText data = .ok value) :
    nonemptyText (.text value) = .ok value :=
  nonemptyText_text.mpr ⟨nonempty_of_read read, rfl⟩

theorem choice_family (family : Family) : choice Kind.familyChoices (.text family.name) = .ok family := by
  cases family <;> rfl

end Rule

/-! Members -/

namespace Members

variable {members : Members}

theorem assignment_supplied {names : List Attribute} {changes : Assignment} (nodup : names.Nodup)
    (order : (changes.map Prod.fst).Sublist names) (types : ∀ a cell, (a, cell) ∈ changes → a.type.admits cell = true)
    (shown : ∀ a ∈ names, members.lookup a.name = (changes.get? a).map Cell.toData) :
    members.assignment names = .valid changes := by
  induction names generalizing changes with
  | nil =>
    obtain rfl := List.map_eq_nil_iff.mp (List.sublist_nil.mp order)
    rfl
  | cons a rest ih =>
    obtain ⟨other, others⟩ := List.nodup_cons.mp nodup
    rcases List.sublist_cons_iff.mp order with later | ⟨names, here, later⟩
    · have unsupplied : changes.get? a = none := Option.eq_none_iff_forall_not_mem.mpr fun cell given =>
        other (later.subset (List.mem_map_of_mem (f := Prod.fst) (mem_of_lookup given)))
      have skipped : members.lookup a.name = none := by rw [shown a List.mem_cons_self, unsupplied, Option.map_none]
      have second := ih others later types fun b member => shown b (List.mem_cons_of_mem _ member)
      exact assignment_cons.mpr ⟨none, changes, optional_eq_valid_none.mpr skipped, second, rfl⟩
    · obtain ⟨⟨b, cell⟩, more, rfl, rfl, rfl⟩ := List.map_eq_cons_iff.mp here
      have supplied : members.lookup b.name = some cell.toData := by
        rw [shown b List.mem_cons_self]
        simp [Assignment.get?]
      have second := ih others later (fun c cell member => types c cell (List.mem_cons_of_mem _ member)) fun c member => by
        have differs : (c == b) = false := beq_eq_false_iff_ne.mpr fun same => other (same ▸ member)
        rw [shown c (List.mem_cons_of_mem _ member)]
        simp only [Assignment.get?, List.lookup_cons, differs]
      have accepted : b.rule cell.toData = .ok cell := Attribute.rule_toData (types b cell List.mem_cons_self)
      exact assignment_cons.mpr ⟨some cell, more, optional_eq_valid_some.mpr ⟨_, supplied, accepted⟩, second, rfl⟩

theorem tagged_of_shown {kind : Kind} (shown : members.lookup "kind" = some (.text kind.tag)) :
    members.tagged kind = .valid true := by
  have chosen : Rule.choice [(kind.tag, ())] (.text kind.tag) = .ok () := by simp [Rule.choice]
  exact Checked.map_eq_valid.mpr ⟨_, optional_eq_valid_some.mpr ⟨_, shown, chosen⟩, rfl⟩

theorem noOthers_of_declared {declared : List String} (all : ∀ member ∈ members, member.1 ∈ declared) :
    members.noOthers declared = .valid () := by
  have none : members.filter (fun member => !declared.contains member.1) = [] := by
    simpa [List.filter_eq_nil_iff] using fun name data member => all (name, data) member
  have nothing : members.unexpected declared = [] := by
    simp only [unexpected, none, List.mergeSort_nil, List.map_nil]
  rw [noOthers, nothing]

end Members

theorem Kind.readSubject_again {kind : Kind} {given members : Members} {subject : Subject}
    (read : kind.readSubject given = .valid subject)
    (shown : ∀ column ∈ kind.subjectColumns, members.lookup column.name = some (subject.cell column).toData) :
    kind.readSubject members = .valid subject := by
  cases kind with
  | domain =>
    simp only [readSubject, Checked.map_eq_valid, Members.required_eq_valid] at read ⊢
    obtain ⟨value, ⟨data, -, read⟩, rfl⟩ := read
    exact ⟨value, ⟨_, shown .value (by decide), Rule.nonemptyText_again read⟩, rfl⟩
  | email =>
    simp only [readSubject, Checked.map_eq_valid, Members.required_eq_valid] at read ⊢
    obtain ⟨value, ⟨data, -, read⟩, rfl⟩ := read
    exact ⟨value, ⟨_, shown .value (by decide), Rule.nonemptyText_again read⟩, rfl⟩
  | subdomain =>
    simp only [readSubject, Checked.seq_eq_valid, Checked.map_eq_valid, Members.required_eq_valid] at read ⊢
    obtain ⟨_, value, ⟨parent, -, rfl⟩, ⟨data, -, read⟩, rfl⟩ := read
    exact ⟨_, value, ⟨parent, ⟨_, shown .domainId (by decide), rfl⟩, rfl⟩,
      ⟨_, shown .value (by decide), Rule.nonemptyText_again read⟩, rfl⟩
  | url =>
    simp only [readSubject, Checked.seq_eq_valid, Checked.map_eq_valid, Members.required_eq_valid] at read ⊢
    obtain ⟨_, value, ⟨parent, -, rfl⟩, ⟨data, -, read⟩, rfl⟩ := read
    exact ⟨_, value, ⟨parent, ⟨_, shown .subdomainId (by decide), rfl⟩, rfl⟩,
      ⟨_, shown .value (by decide), Rule.nonemptyText_again read⟩, rfl⟩
  | address =>
    simp only [readSubject, Checked.seq_eq_valid, Checked.map_eq_valid, Members.required_eq_valid] at read ⊢
    obtain ⟨_, value, ⟨family, -, rfl⟩, ⟨data, -, -⟩, rfl⟩ := read
    have first := shown .family (by decide)
    have second := shown .value (by decide)
    refine ⟨_, value, ⟨family, ⟨_, first, ?_⟩, rfl⟩, ⟨_, second, ?_⟩, rfl⟩
    · cases value <;> exact Rule.choice_family family
    · cases value <;> rfl
  | link =>
    simp only [readSubject, Checked.seq_eq_valid, Checked.map_eq_valid, Members.required_eq_valid] at read ⊢
    obtain ⟨_, address, ⟨subdomain, -, rfl⟩, -, rfl⟩ := read
    exact ⟨_, address, ⟨subdomain, ⟨_, shown .subdomainId (by decide), rfl⟩, rfl⟩,
      ⟨_, shown .addressId (by decide), rfl⟩, rfl⟩

theorem Kind.find?_tag (kind : Kind) : Kind.all.find? (fun other => other.tag == kind.tag) = some kind := by
  cases kind <;> rfl

theorem Kind.candidateFields_nodup (kind : Kind) : kind.candidateFields.Nodup := by
  cases kind <;> decide +kernel

theorem Attribute.name_beq (a b : Attribute) : (a.name == b.name) = (a == b) := by
  cases a <;> cases b <;> rfl

theorem Assignment.lookup_members (changes : Assignment) (a : Attribute) :
    changes.members.lookup a.name = (changes.get? a).map Cell.toData := by
  induction changes with
  | nil => rfl
  | cons change rest ih =>
    obtain ⟨b, cell⟩ := change
    simp only [members, List.map_cons, Assignment.get?, List.lookup_cons, Attribute.name_beq]
    cases a == b with
    | true => rfl
    | false => exact ih

namespace Candidate

variable {c : Candidate} {members : Members}

theorem members_names (c : Candidate) : c.members.map Prod.fst =
    "kind" :: c.kind.subjectColumns.map Column.name ++ c.supplied.map fun (a, _) => a.name := by
  simp [Candidate.members, Assignment.members, Function.comp_def]

theorem Proper.names_sublist (proper : c.Proper) : (c.members.map Prod.fst).Sublist c.kind.candidateFields := by
  have supplied := proper.order.map Attribute.name
  rw [List.map_map] at supplied
  rw [members_names, Kind.candidateFields]
  exact (List.Sublist.refl _).append supplied

theorem Proper.names_nodup (proper : c.Proper) : (c.members.map Prod.fst).Nodup :=
  c.kind.candidateFields_nodup.sublist proper.names_sublist

theorem lookup_subject (proper : c.Proper) {column : Column} (own : column ∈ c.kind.subjectColumns) :
    c.members.lookup column.name = some (c.subject.cell column).toData := by
  rw [lookup_eq_some_iff_mem proper.names_nodup]
  exact List.mem_append_left _ (List.mem_cons_of_mem _ (List.mem_map_of_mem own))

theorem lookup_supplied {a : Attribute} (named : a ∈ c.kind.attributes) :
    c.members.lookup a.name = (c.supplied.get? a).map Cell.toData := by
  have apart : ∀ name ∈ "kind" :: c.kind.subjectColumns.map Column.name, a.name ≠ name := by
    have nodup := c.kind.candidateFields_nodup
    rw [Kind.candidateFields, List.nodup_append] at nodup
    intro name early same
    exact nodup.2.2 name early a.name (List.mem_map_of_mem named) same.symm
  have early : List.lookup a.name (("kind", Data.text c.kind.tag) ::
      c.kind.subjectColumns.map fun column => (column.name, (c.subject.cell column).toData)) = none := by
    rw [List.lookup_eq_none_iff]
    intro member shown
    have name : member.1 ∈ "kind" :: c.kind.subjectColumns.map Column.name := by
      have first := List.mem_map_of_mem (f := Prod.fst) shown
      simpa [Function.comp_def] using first
    simpa using apart member.1 name
  rw [Candidate.members, List.lookup_append, early]
  exact c.supplied.lookup_members a

theorem ofData_members {given : Members} (subject : c.kind.readSubject given = .valid c.subject) (proper : c.Proper)
    (sane : c.subject.familyProblem? = none) (same : members.Perm c.members) :
    Submission.ofData (.object members) = .ok ⟨c, true⟩ := by
  have found (name : String) : members.lookup name = c.members.lookup name :=
    lookup_eq_of_perm proper.names_nodup same name
  have tag : members.lookup "kind" = some (.text c.kind.tag) := found "kind"
  have read : Candidate.read c.kind members = .valid ⟨c, true⟩ := by
    refine read_eq_valid.mpr ⟨Members.tagged_of_shown tag, ?_, ?_, ?_, sane⟩
    · refine Kind.readSubject_again subject fun column own => ?_
      rw [found, lookup_subject proper own]
    · refine Members.assignment_supplied c.kind.attributes_nodup proper.order proper.types fun a named => ?_
      rw [found, lookup_supplied named]
    · refine Members.noOthers_of_declared fun member shown => ?_
      exact proper.names_sublist.subset (List.mem_map_of_mem (same.mem_iff.mp shown))
  exact readTagged_eq_ok_iff.mpr ⟨c.kind, members, rfl, tag, c.kind.find?_tag, read⟩

end Candidate

namespace Row

variable {row : Row} {members : Members}

theorem cell_subject {column : Column} (own : column ∈ row.kind.subjectColumns) :
    row.cell column = row.subject.cell column := by
  cases column <;> cases kind : row.kind <;> simp [kind, Kind.subjectColumns] at own <;> rfl

theorem members_eq (formed : row.WellFormed) : row.members = Candidate.members ⟨row.subject, row.attributes⟩ := by
  have columns (kind : Kind) : kind.offeredColumns = kind.subjectColumns ++ kind.attributes.map .field := by
    cases kind <;> rfl
  have subject : (row.kind.subjectColumns.map fun column => (column.name, (row.cell column).toData)) =
      row.kind.subjectColumns.map fun column => (column.name, (row.subject.cell column).toData) :=
    List.map_congr_left fun column own => by rw [cell_subject own]
  have known : (row.kind.attributes.map fun a => (a.name, (row.cell (.field a)).toData)) = row.attributes.members := by
    rw [Assignment.members, ← formed.shape, List.map_map]
    exact List.map_congr_left fun pair member => by simp [formed.cell_of_mem member]
  rw [Row.members, columns, List.map_append, List.map_map, subject, ← List.cons_append]
  exact congrArg (_ ++ ·) known

theorem ofData_members (formed : row.WellFormed) (accepted : row.subject.Accepted) (same : members.Perm row.members) :
    Submission.ofData (.object members) = .ok ⟨⟨row.subject, row.attributes⟩, true⟩ := by
  obtain ⟨_, ⟨kind, given, s, read, rfl⟩, -, subject⟩ := accepted
  obtain ⟨-, readSubject, -, -, sane⟩ := Candidate.read_eq_valid.mp read
  rw [subject] at readSubject sane
  obtain rfl : row.kind = kind := Kind.readSubject_kind readSubject
  have proper : Candidate.Proper ⟨row.subject, row.attributes⟩ :=
    ⟨formed.shape ▸ .refl _, fun a cell member => formed.cell_of_mem member ▸ formed.types a⟩
  exact Candidate.ofData_members readSubject proper sane (members_eq formed ▸ same)

end Row
end Footprint
