import Footprint.Proofs.Validation.Readback

namespace Footprint

theorem Members.required_value {members : Members} {data : Data} {value : String}
    (shown : members.lookup "value" = some data) :
    members.required "value" Rule.nonemptyText = .valid value ↔ Rule.nonemptyText data = .ok value := by
  simp [required_eq_valid, shown]

namespace Candidate

variable {data : Data} {given : Submission}

theorem fits_subdomain (id : Int) (value : String) : Candidate.fits ⟨.subdomain id value, []⟩ = Word.holds id := by
  rw [Bool.eq_iff_iff, fits_iff, ← Cell.fits_int]
  have text : (Cell.text value).fits = true := rfl
  simp [kind, Subject.kind, Kind.subjectColumns, Subject.cell, text, Assignment.fits, Assignment.misfit?]

def emptyValue : Issue := ⟨.tooShort, ["value"], .text ""⟩

def valueIssue? : AnyText → Option Issue
  | .plain text => if text = "" then some emptyValue else none
  | .ragged text => some ⟨.notUnicode, ["value"], .ragged text⟩

theorem noOthers_domain (data : Data) : Members.noOthers [("value", data)] (Kind.candidateFields .domain) = .valid () :=
  Members.noOthers_of_declared (by simp [Kind.candidateFields, Kind.subjectColumns, Column.name])

theorem noOthers_subdomain (id : Int) (data : Data) :
    Members.noOthers [("domain_id", .int id), ("value", data)] (Kind.candidateFields .subdomain) = .valid () :=
  Members.noOthers_of_declared (by simp [Kind.candidateFields, Kind.subjectColumns, Column.name])

theorem read_domain : read .domain [("value", data)] = .valid given ↔
    ∃ value, Rule.nonemptyText data = .ok value ∧ given = ⟨⟨.domain value, []⟩, false⟩ := by
  have required (value : String) : Members.required [("value", data)] "value" Rule.nonemptyText = .valid value ↔ _ :=
    Members.required_value rfl
  obtain ⟨⟨subject, supplied⟩, tagged⟩ := given
  rw [read_eq_valid]
  simp only [Kind.readSubject, Checked.map_eq_valid, required, noOthers_domain]
  constructor
  · rintro ⟨tag, ⟨value, accepted, rfl⟩, nothing, -, -⟩
    cases tag
    cases nothing
    exact ⟨value, accepted, rfl⟩
  · rintro ⟨value, accepted, same⟩
    cases same
    exact ⟨rfl, ⟨value, accepted, rfl⟩, rfl, trivial, rfl⟩

theorem read_subdomain {id : Int} : read .subdomain [("domain_id", .int id), ("value", data)] = .valid given ↔
    ∃ value, Rule.nonemptyText data = .ok value ∧ given = ⟨⟨.subdomain id value, []⟩, false⟩ := by
  have required (value : String) :
      Members.required [("domain_id", .int id), ("value", data)] "value" Rule.nonemptyText = .valid value ↔ _ :=
    Members.required_value rfl
  have parent : Members.required [("domain_id", .int id), ("value", data)] "domain_id" Rule.integer = .valid id := rfl
  obtain ⟨⟨subject, supplied⟩, tagged⟩ := given
  rw [read_eq_valid]
  simp only [Kind.readSubject, Checked.seq_eq_valid, Checked.map_eq_valid, required, noOthers_subdomain, parent]
  constructor
  · rintro ⟨tag, ⟨_, value, ⟨_, same, rfl⟩, accepted, rfl⟩, nothing, -, -⟩
    cases tag
    cases nothing
    cases same
    exact ⟨value, accepted, rfl⟩
  · rintro ⟨value, accepted, same⟩
    cases same
    exact ⟨rfl, ⟨_, value, ⟨_, rfl, rfl⟩, accepted, rfl⟩, rfl, trivial, rfl⟩

theorem read_domain_text {text : String} (nonempty : text ≠ "") :
    read .domain [("value", .text text)] = .valid ⟨⟨.domain text, []⟩, false⟩ :=
  read_domain.mpr ⟨text, Rule.nonemptyText_text.mpr ⟨nonempty, rfl⟩, rfl⟩

theorem read_subdomain_text (id : Int) {text : String} (nonempty : text ≠ "") :
    read .subdomain [("domain_id", .int id), ("value", .text text)] = .valid ⟨⟨.subdomain id text, []⟩, false⟩ :=
  read_subdomain.mpr ⟨text, Rule.nonemptyText_text.mpr ⟨nonempty, rfl⟩, rfl⟩

theorem read_domain_empty : read .domain [("value", .text "")] = .invalid [emptyValue] := by
  rw [read, noOthers_domain]
  rfl

theorem read_subdomain_refused (id : Int) {value : AnyText} {issue : Issue} (refused : valueIssue? value = some issue) :
    read .subdomain [("domain_id", .int id), ("value", .ofText value)] = .invalid [issue] := by
  rw [read, noOthers_subdomain]
  cases value with
  | ragged text =>
    cases refused
    rfl
  | plain text =>
    obtain ⟨rfl, rfl⟩ : text = "" ∧ emptyValue = issue := by simpa [valueIssue?] using refused
    rfl

end Candidate

theorem Subject.Accepted.nonempty {value : String} (accepted : Subject.Accepted (.domain value)) : value ≠ "" := by
  obtain ⟨_, ⟨kind, members, given, read, rfl⟩, -, same⟩ := accepted
  have subject := (Candidate.read_eq_valid.mp read).2.1
  rw [same] at subject
  obtain rfl : Kind.domain = kind := Kind.readSubject_kind subject
  simp only [Kind.readSubject, Checked.map_eq_valid, Members.required_eq_valid] at subject
  obtain ⟨_, ⟨data, -, accepted⟩, same⟩ := subject
  cases same
  exact Rule.nonempty_of_read accepted

end Footprint
