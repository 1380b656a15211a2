import Footprint.Entity.Row
import Footprint.Validation.Scalar

namespace Footprint

/-- A subject with the attributes that were supplied for it. An attribute left out is not the
    same as one supplied as null. -/
structure Candidate where
  subject : Subject
  supplied : Assignment
  deriving DecidableEq, Repr

namespace Attribute

def rule (a : Attribute) : Rule Cell := fun data =>
  match data with
  | .null => .ok .null
  | data => match a.type with
    | .flag => Cell.bool <$> Rule.flag data
    | .text => Cell.ofText <$> Rule.anyText data
    | .integer => Cell.int <$> Rule.integer data
    | .number => Cell.real <$> Rule.number data
    | .bytes => Cell.bytes <$> Rule.bytes data

end Attribute

namespace Members

def assignment (members : Members) : List Attribute → Checked Assignment
  | [] => .valid []
  | a :: rest =>
    (fun cell more => match cell with
      | some cell => (a, cell) :: more
      | none => more) <$> members.optional a.name a.rule <*> members.assignment rest

/-- The tag may be left out where the kind is known; the result tells whether it was given. -/
def tagged (members : Members) (kind : Kind) : Checked Bool :=
  Option.isSome <$> members.optional "kind" (Rule.choice [(kind.tag, ())])

end Members

namespace Kind

def familyChoices : List (String × Family) := [(Family.v4.name, .v4), (Family.v6.name, .v6)]

def readSubject (kind : Kind) (members : Members) : Checked Subject :=
  match kind with
  | domain => Subject.domain <$> members.required "value" Rule.nonemptyText
  | subdomain =>
    Subject.subdomain <$> members.required "domain_id" Rule.integer <*>
      members.required "value" Rule.nonemptyText
  | address =>
    Subject.ofAddress <$> members.required "family" (Rule.choice familyChoices) <*>
      members.required "value" Rule.anyText
  | link =>
    Subject.link <$> members.required "subdomain_id" Rule.integer <*>
      members.required "ip_addr_id" Rule.integer
  | url =>
    Subject.url <$> members.required "subdomain_id" Rule.integer <*>
      members.required "value" Rule.nonemptyText
  | email => Subject.email <$> members.required "value" Rule.nonemptyText

def candidateFields (kind : Kind) : List String :=
  "kind" :: kind.subjectColumns.map Column.name ++ kind.attributes.map Attribute.name

end Kind

def Family.problem? (claimed : Family) (address : String) : Option Problem :=
  match Address.family? address with
  | none => some .invalidAddress
  | some actual =>
    if actual = claimed then none else some (.familyMismatch claimed.name actual.version)

def Subject.familyProblem? : Subject → Option Problem
  | .address claimed value => claimed.problem? value
  | .raggedAddress claimed value => claimed.problem? value.shown
  | _ => none

structure Submission where
  candidate : Candidate
  tagged : Bool

namespace Candidate

def kind (c : Candidate) : Kind := c.subject.kind

def key (c : Candidate) : Key := c.subject.key

def title (kind : Kind) : String := kind.title ++ "Insert"

def confirmFamily (members : Members) (s : Submission) : Checked Submission :=
  match s.candidate.subject.familyProblem? with
  | some problem => .invalid [⟨problem, [], .object members⟩]
  | none => .valid s

def read (kind : Kind) (members : Members) : Checked Submission :=
  ((fun tagged subject supplied _ => ⟨⟨subject, supplied⟩, tagged⟩) <$>
    members.tagged kind <*> kind.readSubject members <*> members.assignment kind.attributes <*>
    members.noOthers kind.candidateFields).andThen (confirmFamily members)

def columns (c : Candidate) : List (String × Cell) :=
  (c.kind.subjectColumns.map fun column => (column.name, c.subject.cell column)) ++
    c.kind.attributes.map fun a => (a.name, (c.supplied.get? a).getD .null)

def misfit? (c : Candidate) : Option Misfit :=
  (c.kind.subjectColumns.findSome? fun column => (c.subject.cell column).misfit?).or
    c.supplied.misfit?

def fits (c : Candidate) : Bool := c.misfit?.isNone

end Candidate

def Submission.givenFields (s : Submission) : List String :=
  let names := (if s.tagged then ["kind"] else []) ++
    s.candidate.kind.subjectColumns.map Column.name ++
    s.candidate.supplied.map fun (a, _) => a.name
  names.mergeSort fun a b => a ≤ b

/-- Picks the kind by the tag and checks what belongs to it; issues name the tag first. -/
def readTagged {α : Type} (kinds : List Kind) (read : Kind → Members → Checked α) (data : Data) :
    Except (List Issue) α :=
  match data with
  | .object members =>
    match members.lookup "kind" with
    | none => .error [⟨.noTag, [], data⟩]
    | some given =>
      let known := match given with
        | .text tag => kinds.find? fun kind => kind.tag == tag
        | _ => none
      match known with
      | some kind => ((read kind members).within kind.tag).toExcept
      | none => .error [⟨.unknownTag given.display (kinds.map Kind.tag), [], data⟩]
  | _ => .error [⟨.notAnObject, [], data⟩]

def Submission.ofData (data : Data) : Except (List Issue) Submission :=
  readTagged Kind.all Candidate.read data

end Footprint
