namespace Footprint

inductive Kind
  | domain
  | subdomain
  | address
  | link
  | url
  | email
  deriving DecidableEq, Repr

namespace Kind

def all : List Kind := [domain, subdomain, address, link, url, email]

def tag : Kind → String
  | domain => "domain"
  | subdomain => "subdomain"
  | address => "ipaddr"
  | link => "subdomain_ipaddr"
  | url => "url"
  | email => "email"

def ofTag? (tag : String) : Option Kind := all.find? fun kind => kind.tag == tag

def table : Kind → String
  | domain => "domains"
  | subdomain => "subdomains"
  | address => "ipaddrs"
  | link => "subdomain_ipaddrs"
  | url => "urls"
  | email => "emails"

def plural : Kind → String
  | link => "subdomain-ipaddrs"
  | kind => kind.table

def title : Kind → String
  | domain => "Domain"
  | subdomain => "Subdomain"
  | address => "IpAddr"
  | link => "SubdomainIpAddr"
  | url => "Url"
  | email => "Email"

/-- A link is in scope through its ends and has no scope of its own. -/
def scopable : Kind → Bool
  | link => false
  | _ => true

def revisable : List Kind := [subdomain, address, url, email]

end Kind
end Footprint
