import Footprint.Entity.Kind
import Footprint.Number.Binary64
import Footprint.Number.Word
import Footprint.Text.Ragged

namespace Footprint

inductive Attribute
  | resolvable
  | continent
  | continentCode
  | country
  | countryCode
  | city
  | longitude
  | latitude
  | asn
  | asOrg
  | status
  | body
  | online
  | title
  | redirect
  | valid
  deriving DecidableEq, Repr

inductive AttributeType
  | flag
  | text
  | integer
  | number
  | bytes
  deriving DecidableEq, Repr

namespace Attribute

def name : Attribute → String
  | resolvable => "resolvable"
  | continent => "continent"
  | continentCode => "continent_code"
  | country => "country"
  | countryCode => "country_code"
  | city => "city"
  | longitude => "longitude"
  | latitude => "latitude"
  | asn => "asn"
  | asOrg => "as_org"
  | status => "status"
  | body => "body"
  | online => "online"
  | title => "title"
  | redirect => "redirect"
  | valid => "valid"

def type : Attribute → AttributeType
  | resolvable | online | valid => .flag
  | longitude | latitude => .number
  | asn | status => .integer
  | body => .bytes
  | continent | continentCode | country | countryCode | city | asOrg | title | redirect => .text

end Attribute

def Kind.attributes : Kind → List Attribute
  | .domain | .link => []
  | .subdomain => [.resolvable]
  | .address =>
    [.continent, .continentCode, .country, .countryCode, .city, .longitude, .latitude, .asn, .asOrg]
  | .url => [.status, .body, .online, .title, .redirect]
  | .email => [.valid]

inductive Cell
  | null
  | bool (value : Bool)
  | int (value : Int)
  | real (value : Binary64)
  | text (value : String)
  | ragged (value : Ragged)
  | bytes (value : List UInt8)
  deriving DecidableEq, Repr

namespace Cell

def ofText : AnyText → Cell
  | .plain s => text s
  | .ragged r => ragged r

def number? : Cell → Option (Int ⊕ Binary64)
  | bool b => some (.inl (if b then 1 else 0))
  | int n => some (.inl n)
  | real x => some (.inr x)
  | _ => none

/-- Equality of values: numbers are compared as numbers whatever their types, and a NaN equals
    nothing. -/
def equals (a b : Cell) : Bool :=
  match a.number?, b.number? with
  | some (.inl m), some (.inl n) => m == n
  | some (.inl n), some (.inr x) => Binary64.compareInt? n x == some .eq
  | some (.inr x), some (.inl n) => Binary64.compareInt? n x == some .eq
  | some (.inr x), some (.inr y) => x.equals y
  | none, none => a == b
  | _, _ => false

/-- What a table keeps of a value: no NaN and no negative zero. -/
def stored : Cell → Cell
  | real .nan => null
  | real x => if x.isZero then real .zero else real x
  | cell => cell

def misfit? : Cell → Option Misfit
  | int n => if Word.holds n then none else some .oversizedInteger
  | ragged r => some (.unencodable r)
  | _ => none

def fits (cell : Cell) : Bool := cell.misfit?.isNone

end Cell

abbrev Assignment := List (Attribute × Cell)

namespace Assignment

def get? (a : Assignment) (name : Attribute) : Option Cell := a.lookup name

def misfit? (a : Assignment) : Option Misfit := a.findSome? fun (_, cell) => cell.misfit?

def fits (a : Assignment) : Bool := a.misfit?.isNone

end Assignment
end Footprint
