import Footprint.Entity.Attribute
import Footprint.Entity.Subject
import Footprint.Text.Quoted

namespace Footprint

structure Row where
  id : Int
  subject : Subject
  attributes : Assignment
  unscoped : Bool
  deriving DecidableEq, Repr

inductive Column
  | id
  | domainId
  | subdomainId
  | addressId
  | family
  | value
  | field (name : Attribute)
  | unscoped
  deriving DecidableEq, Repr

namespace Column

def name : Column → String
  | id => "id"
  | domainId => "domain_id"
  | subdomainId => "subdomain_id"
  | addressId => "ip_addr_id"
  | family => "family"
  | value => "value"
  | field a => a.name
  | unscoped => "unscoped"

end Column

namespace Kind

def subjectColumns : Kind → List Column
  | domain | email => [.value]
  | subdomain => [.domainId, .value]
  | address => [.family, .value]
  | link => [.subdomainId, .addressId]
  | url => [.subdomainId, .value]

def keyColumns : Kind → List Column
  | link => [.subdomainId, .addressId]
  | _ => [.value]

def columns (kind : Kind) : List Column :=
  .id :: kind.subjectColumns ++ kind.attributes.map .field ++
    (if kind.scopable then [.unscoped] else [])

end Kind

def Subject.cell : Subject → Column → Cell
  | .domain value, .value => .text value
  | .subdomain _ value, .value => .text value
  | .subdomain parent _, .domainId => .int parent
  | .address _ value, .value => .text value
  | .address version _, .family => .text version.name
  | .raggedAddress _ value, .value => .ragged value
  | .raggedAddress version _, .family => .text version.name
  | .link parent _, .subdomainId => .int parent
  | .link _ parent, .addressId => .int parent
  | .url _ value, .value => .text value
  | .url parent _, .subdomainId => .int parent
  | .email value, .value => .text value
  | _, _ => .null

namespace Row

def kind (row : Row) : Kind := row.subject.kind

def key (row : Row) : Key := row.subject.key

def cell (row : Row) : Column → Cell
  | .id => .int row.id
  | .field a => (row.attributes.get? a).getD .null
  | .unscoped => .bool row.unscoped
  | column => row.subject.cell column

/-- A new row has every attribute of its kind, those not supplied being null. -/
def create (id : Int) (subject : Subject) (supplied : Assignment) : Row where
  id
  subject
  attributes := subject.kind.attributes.map fun a => (a, ((supplied.get? a).getD .null).stored)
  unscoped := false

def write (row : Row) (changes : Assignment) : Row :=
  let written := row.attributes.map fun (a, cell) =>
    (a, ((changes.get? a).map Cell.stored).getD cell)
  { row with attributes := written }

def isChildOf (row parent : Row) : Bool := row.subject.parents.contains (parent.kind, parent.id)

def optionalFlag : Cell → String
  | .bool true => "True"
  | .bool false => "False"
  | .int n => toString n
  | _ => "None"

def summary (row : Row) : String :=
  let shown := fun a => optionalFlag (row.cell (.field a))
  let fields := match row.subject with
    | .domain value => s!"value={Text.quoted value}"
    | .subdomain domain value =>
      s!"value={Text.quoted value} domain_id={domain} resolvable={shown .resolvable}"
    | .address family value => s!"{family.name} {value}"
    | .raggedAddress family value => s!"{family.name} {value.shown}"
    | .link subdomain address => s!"subdomain_id={subdomain} ip_addr_id={address}"
    | .url _ value => s!"value={Text.quoted value} status={shown .status}"
    | .email value => s!"value={Text.quoted value} valid={shown .valid}"
  s!"<{row.kind.title} id={row.id} {fields}>"

end Row
end Footprint
