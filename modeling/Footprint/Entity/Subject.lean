import Footprint.Entity.Kind
import Footprint.Network.Address
import Footprint.Text.Ragged

namespace Footprint

inductive Subject
  | domain (value : String)
  | subdomain (domain : Int) (value : String)
  | address (family : Family) (value : String)
  /-- Any text may stand behind the `%` of an address. -/
  | raggedAddress (family : Family) (value : Ragged)
  | link (subdomain address : Int)
  | url (subdomain : Int) (value : String)
  | email (value : String)
  deriving DecidableEq, Repr

inductive Key
  | value (text : String)
  | ragged (text : Ragged)
  | pair (subdomain address : Int)
  deriving DecidableEq, Repr

namespace Subject

def ofAddress (family : Family) : AnyText → Subject
  | .plain value => address family value
  | .ragged value => raggedAddress family value

def kind : Subject → Kind
  | domain .. => .domain
  | subdomain .. => .subdomain
  | address .. | raggedAddress .. => .address
  | link .. => .link
  | url .. => .url
  | email .. => .email

def key : Subject → Key
  | domain value | subdomain _ value | address _ value | url _ value | email value => .value value
  | raggedAddress _ value => .ragged value
  | link s a => .pair s a

def parents : Subject → List (Kind × Int)
  | domain _ | address .. | raggedAddress .. | email _ => []
  | subdomain d _ => [(.domain, d)]
  | link s a => [(.subdomain, s), (.address, a)]
  | url s _ => [(.subdomain, s)]

end Subject
end Footprint
