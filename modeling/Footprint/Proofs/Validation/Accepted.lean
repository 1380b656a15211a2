import Footprint.Proofs.Entity.Row
import Footprint.Validation.Revision

namespace Footprint

namespace Checked

variable {α β : Type}

theorem map_eq_valid {f : α → β} {checked : Checked α} {b : β} :
    f <$> checked = .valid b ↔ ∃ a, checked = .valid a ∧ f a = b := by
  cases checked <;> simp [Functor.map, map]

theorem seq_eq_valid {f : Checked (α → β)} {checked : Checked α} {b : β} :
    f <*> checked = .valid b ↔ ∃ g a, f = .valid g ∧ checked = .valid a ∧ g a = b := by
  cases f <;> cases checked <;> simp [Seq.seq, apply]

theorem andThen_eq_valid {checked : Checked α} {next : α → Checked β} {b : β} :
    checked.andThen next = .valid b ↔ ∃ a, checked = .valid a ∧ next a = .valid b := by
  cases checked <;> simp [andThen]

end Checked

deriving instance DecidableEq for Submission

theorem eq_ok_of_toOption {ε α : Type} {x : Except ε α} {a : α} (value : x.toOption = some a) : x = .ok a := by
  cases x with
  | error e => cases value
  | ok b => exact congrArg Except.ok (Option.some.inj value)

theorem exists_of_map_ok {ε α β : Type} {f : α → β} {result : Except ε α} {b : β} (mapped : f <$> result = .ok b) :
    ∃ a, f a = b := by
  cases result with
  | error e => cases mapped
  | ok a => exact ⟨a, Except.ok.inj mapped⟩

theorem Attribute.rule_admits {a : Attribute} {data : Data} {cell : Cell} (read : a.rule data = .ok cell) :
    a.type.admits cell = true := by
  unfold rule at read
  split at read
  · cases read
    cases a.type <;> rfl
  · split at read
    all_goals
      next type =>
      obtain ⟨value, rfl⟩ := exists_of_map_ok read
      rw [type]
      cases value <;> rfl

namespace Members

variable {α : Type} {members : Members}

theorem read_eq_valid {name : String} {rule : Rule α} {data : Data} {value : α} :
    Members.read rule name data = .valid value ↔ rule data = .ok value := by
  unfold Members.read
  cases rule data <;> simp

theorem required_eq_valid {name : String} {rule : Rule α} {value : α} :
    members.required name rule = .valid value ↔ ∃ data, members.lookup name = some data ∧ rule data = .ok value := by
  unfold required
  cases members.lookup name <;> simp [read_eq_valid]

theorem optional_eq_valid_none {name : String} {rule : Rule α} :
    members.optional name rule = .valid none ↔ members.lookup name = none := by
  unfold optional
  cases members.lookup name with
  | none => simp
  | some data => cases read : Members.read rule name data <;> simp [Checked.map, read]

theorem optional_eq_valid_some {name : String} {rule : Rule α} {value : α} :
    members.optional name rule = .valid (some value) ↔
      ∃ data, members.lookup name = some data ∧ rule data = .ok value := by
  unfold optional
  cases members.lookup name with
  | none => simp
  | some data =>
    have accepted : Members.read rule name data = .valid value ↔ rule data = .ok value := read_eq_valid
    cases read : Members.read rule name data <;> simp_all [Checked.map]

theorem assignment_cons {a : Attribute} {rest : List Attribute} {changes : Assignment} :
    members.assignment (a :: rest) = .valid changes ↔
      ∃ given more, members.optional a.name a.rule = .valid given ∧ members.assignment rest = .valid more ∧
        changes = (given.map fun cell => (a, cell)).toList ++ more := by
  simp only [assignment, Checked.seq_eq_valid, Checked.map_eq_valid]
  constructor
  · rintro ⟨_, more, ⟨given, first, rfl⟩, later, rfl⟩
    refine ⟨given, more, first, later, ?_⟩
    cases given <;> rfl
  · rintro ⟨given, more, first, later, rfl⟩
    refine ⟨_, more, ⟨given, first, rfl⟩, later, ?_⟩
    cases given <;> rfl

theorem assignment_proper {kind : Kind} {changes : Assignment}
    (read : members.assignment kind.attributes = .valid changes) : changes.Proper kind := by
  have each (names : List Attribute) (changes : Assignment) (read : members.assignment names = .valid changes) :
      (changes.map Prod.fst).Sublist names ∧ ∀ a cell, (a, cell) ∈ changes → a.type.admits cell = true := by
    induction names generalizing changes with
    | nil =>
      cases read
      simp
    | cons a rest ih =>
      obtain ⟨given, more, first, later, rfl⟩ := assignment_cons.mp read
      obtain ⟨order, types⟩ := ih more later
      cases given with
      | none => exact ⟨order.cons a, types⟩
      | some cell =>
        obtain ⟨data, -, accepted⟩ := optional_eq_valid_some.mp first
        refine ⟨order.cons_cons a, fun name value member => ?_⟩
        rcases List.mem_cons.mp member with same | member
        · cases same
          exact a.rule_admits accepted
        · exact types name value member
  obtain ⟨order, types⟩ := each kind.attributes changes read
  exact ⟨order, types⟩

theorem assignment_unnamed {names : List Attribute} (unnamed : ∀ a ∈ names, members.lookup a.name = none) :
    members.assignment names = .valid [] := by
  induction names with
  | nil => rfl
  | cons a rest ih =>
    have later := ih fun other member => unnamed other (List.mem_cons_of_mem _ member)
    exact assignment_cons.mpr ⟨none, [], optional_eq_valid_none.mpr (unnamed a List.mem_cons_self), later, rfl⟩

end Members

abbrev Candidate.Proper (c : Candidate) : Prop := c.supplied.Proper c.kind

theorem Candidate.supplied_eq_nil {c : Candidate} (proper : c.Proper) (bare : c.kind.attributes = []) :
    c.supplied = [] := by
  have order := proper.order
  rw [bare] at order
  simpa using order

theorem Kind.readSubject_kind {kind : Kind} {members : Members} {subject : Subject}
    (read : kind.readSubject members = .valid subject) : subject.kind = kind := by
  cases kind <;>
    simp only [readSubject, Checked.seq_eq_valid, Checked.map_eq_valid] at read
  case domain | email =>
    obtain ⟨value, -, rfl⟩ := read
    rfl
  case address =>
    obtain ⟨make, value, ⟨first, -, rfl⟩, -, rfl⟩ := read
    cases value <;> rfl
  all_goals
    obtain ⟨make, value, ⟨first, -, rfl⟩, -, rfl⟩ := read
    rfl

theorem Candidate.confirmFamily_eq_valid {members : Members} {whole s : Submission} :
    confirmFamily members whole = .valid s ↔ whole = s ∧ s.candidate.subject.familyProblem? = none := by
  unfold confirmFamily
  split
  next problem shown =>
    simp only [reduceCtorEq, false_iff]
    rintro ⟨rfl, sane⟩
    rw [shown] at sane
    cases sane
  next sane =>
    rw [Checked.valid.injEq]
    refine ⟨fun same => ⟨same, same ▸ sane⟩, And.left⟩

theorem Candidate.read_eq_valid {kind : Kind} {members : Members} {s : Submission} :
    Candidate.read kind members = .valid s ↔
      members.tagged kind = .valid s.tagged ∧ kind.readSubject members = .valid s.candidate.subject ∧
      members.assignment kind.attributes = .valid s.candidate.supplied ∧
      members.noOthers kind.candidateFields = .valid () ∧ s.candidate.subject.familyProblem? = none := by
  simp only [Candidate.read, Checked.andThen_eq_valid, confirmFamily_eq_valid, Checked.seq_eq_valid,
    Checked.map_eq_valid]
  constructor
  · rintro ⟨_, ⟨_, _, ⟨_, supplied, ⟨_, subject, ⟨tagged, first, rfl⟩, second, rfl⟩, third, rfl⟩, rest, rfl⟩, rfl, sane⟩
    exact ⟨first, second, third, rest, sane⟩
  · rintro ⟨first, second, third, rest, sane⟩
    exact ⟨s, ⟨_, (), ⟨_, _, ⟨_, _, ⟨_, first, rfl⟩, second, rfl⟩, third, rfl⟩, rest, rfl⟩, rfl, sane⟩

theorem Candidate.read_valid {kind : Kind} {members : Members} {s : Submission}
    (read : Candidate.read kind members = .valid s) :
    s.candidate.kind = kind ∧ members.assignment kind.attributes = .valid s.candidate.supplied := by
  obtain ⟨-, subject, supplied, -⟩ := Candidate.read_eq_valid.mp read
  exact ⟨Kind.readSubject_kind subject, supplied⟩

theorem Candidate.read_proper {kind : Kind} {members : Members} {s : Submission}
    (read : Candidate.read kind members = .valid s) : s.candidate.Proper := by
  obtain ⟨same, supplied⟩ := Candidate.read_valid read
  rw [Candidate.Proper, same]
  exact Members.assignment_proper supplied

theorem Revision.read_eq_valid {kind : Kind} {members : Members} {r : Revision} :
    Revision.read kind members = .valid r ↔
      r.kind = kind ∧ members.required "id" Rule.integer = .valid r.id ∧ (∃ tagged, members.tagged kind = .valid tagged) ∧
      members.assignment kind.attributes = .valid r.changes ∧ members.noOthers (fields kind) = .valid () := by
  simp only [Revision.read, Checked.seq_eq_valid, Checked.map_eq_valid]
  constructor
  · rintro ⟨_, _, ⟨_, changes, ⟨_, tagged, ⟨id, first, rfl⟩, second, rfl⟩, third, rfl⟩, rest, rfl⟩
    exact ⟨rfl, first, ⟨tagged, second⟩, third, rest⟩
  · rintro ⟨rfl, first, ⟨tagged, second⟩, third, rest⟩
    exact ⟨_, (), ⟨_, _, ⟨_, _, ⟨_, first, rfl⟩, second, rfl⟩, third, rfl⟩, rest, rfl⟩

theorem readTagged_eq_ok_iff {α : Type} {kinds : List Kind} {read : Kind → Members → Checked α} {data : Data} {a : α} :
    readTagged kinds read data = .ok a ↔ ∃ kind members, data = .object members ∧
      members.lookup "kind" = some (.text kind.tag) ∧ kinds.find? (fun other => other.tag == kind.tag) = some kind ∧
      read kind members = .valid a := by
  constructor
  · intro accepted
    unfold readTagged at accepted
    split at accepted
    next members =>
      split at accepted
      · cases accepted
      next given shown =>
        dsimp only at accepted
        split at accepted
        next kind known =>
          split at known
          next tag =>
            have same : kind.tag = tag := by simpa using List.find?_some known
            refine ⟨kind, members, rfl, same ▸ shown, same ▸ known, ?_⟩
            cases result : read kind members <;>
              simp_all [Checked.within, Checked.toExcept]
          next => cases known
        next => cases accepted
    next => cases accepted
  · rintro ⟨kind, members, rfl, tag, known, accepted⟩
    simp only [readTagged, tag, known, accepted]
    rfl

theorem readTagged_eq_ok {α : Type} {kinds : List Kind} {read : Kind → Members → Checked α} {data : Data} {a : α}
    (accepted : readTagged kinds read data = .ok a) : ∃ kind members, data = .object members ∧
      members.lookup "kind" = some (.text kind.tag) ∧ read kind members = .valid a := by
  obtain ⟨kind, members, shape, tag, -, read⟩ := readTagged_eq_ok_iff.mp accepted
  exact ⟨kind, members, shape, tag, read⟩

/-- The candidate was read from some submission. -/
def Candidate.Accepted (c : Candidate) : Prop :=
  ∃ kind members s, Candidate.read kind members = .valid s ∧ s.candidate = c

theorem Submission.ofData_accepted {data : Data} {s : Submission} (accepted : Submission.ofData data = .ok s) :
    s.candidate.Accepted := by
  obtain ⟨kind, members, -, -, read⟩ := readTagged_eq_ok accepted
  exact ⟨kind, members, s, read, rfl⟩

theorem Candidate.Accepted.proper {c : Candidate} (accepted : c.Accepted) : c.Proper := by
  obtain ⟨kind, members, s, read, rfl⟩ := accepted
  exact Candidate.read_proper read

theorem Candidate.Accepted.sane {c : Candidate} (accepted : c.Accepted) : c.subject.familyProblem? = none := by
  obtain ⟨kind, members, s, read, rfl⟩ := accepted
  exact (Candidate.read_eq_valid.mp read).2.2.2.2

theorem Submission.ofData_proper {data : Data} {s : Submission} (accepted : Submission.ofData data = .ok s) :
    s.candidate.Proper :=
  (Submission.ofData_accepted accepted).proper

theorem Revision.ofData_proper {data : Data} {r : Revision} (accepted : Revision.ofData data = .ok r) :
    r.changes.Proper r.kind := by
  obtain ⟨kind, members, -, -, read⟩ := readTagged_eq_ok accepted
  obtain ⟨rfl, -, -, assigned, -⟩ := Revision.read_eq_valid.mp read
  exact Members.assignment_proper assigned

end Footprint
