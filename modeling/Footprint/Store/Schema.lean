import Footprint.Entity.Row

namespace Footprint

inductive ColumnType
  | integer
  | boolean
  | float
  | varchar
  | blob
  deriving DecidableEq, Repr

structure Reference where
  target : Kind
  /-- Whether a row goes along with the one it refers to; if not, it stands in its way. -/
  cascades : Bool
  deriving DecidableEq, Repr

structure ColumnRule where
  column : Column
  type : ColumnType
  isPrimary : Bool := false
  isNullable : Bool := false
  isUnique : Bool := false
  /-- What a statement that leaves the column out writes. -/
  default : Option Cell := none
  reference : Option Reference := none
  deriving DecidableEq, Repr

structure TableRule where
  columns : List ColumnRule
  unique : List (List Column) := []
  deriving DecidableEq, Repr

structure Schema where
  table : Kind → TableRule

namespace Schema

def loose (schema : Schema) : Schema where
  table kind :=
    { schema.table kind with
      columns := (schema.table kind).columns.map fun c => { c with reference := none } }

end Schema

namespace Migration

def unscoped : ColumnRule :=
  { column := .unscoped, type := .boolean, default := some (.text "0") }

def table : Kind → TableRule
  | .domain =>
    { columns :=
        [{ column := .id, type := .integer, isPrimary := true },
          { column := .value, type := .varchar, isUnique := true },
          unscoped] }
  | .subdomain =>
    { columns :=
        [{ column := .id, type := .integer, isPrimary := true },
          { column := .domainId, type := .integer, reference := some ⟨.domain, true⟩ },
          { column := .value, type := .varchar, isUnique := true },
          { column := .field .resolvable, type := .boolean, isNullable := true },
          unscoped] }
  | .address =>
    { columns :=
        [{ column := .id, type := .integer, isPrimary := true },
          { column := .family, type := .varchar },
          { column := .value, type := .varchar, isUnique := true },
          { column := .field .continent, type := .varchar, isNullable := true },
          { column := .field .continentCode, type := .varchar, isNullable := true },
          { column := .field .country, type := .varchar, isNullable := true },
          { column := .field .countryCode, type := .varchar, isNullable := true },
          { column := .field .city, type := .varchar, isNullable := true },
          { column := .field .longitude, type := .float, isNullable := true },
          { column := .field .latitude, type := .float, isNullable := true },
          { column := .field .asn, type := .integer, isNullable := true },
          { column := .field .asOrg, type := .varchar, isNullable := true },
          unscoped] }
  | .link =>
    { columns :=
        [{ column := .id, type := .integer, isPrimary := true },
          { column := .subdomainId, type := .integer, reference := some ⟨.subdomain, true⟩ },
          { column := .addressId, type := .integer, reference := some ⟨.address, true⟩ }]
      unique := [[.subdomainId, .addressId]] }
  | .url =>
    { columns :=
        [{ column := .id, type := .integer, isPrimary := true },
          { column := .subdomainId, type := .integer, reference := some ⟨.subdomain, true⟩ },
          { column := .value, type := .varchar, isUnique := true },
          { column := .field .status, type := .integer, isNullable := true },
          { column := .field .body, type := .blob, isNullable := true },
          { column := .field .online, type := .boolean, isNullable := true },
          { column := .field .title, type := .varchar, isNullable := true },
          { column := .field .redirect, type := .varchar, isNullable := true },
          unscoped] }
  | .email =>
    { columns :=
        [{ column := .id, type := .integer, isPrimary := true },
          { column := .value, type := .varchar, isUnique := true },
          { column := .field .valid, type := .boolean, isNullable := true },
          unscoped] }

def drops : List Kind := [.email, .url, .link, .address, .subdomain, .domain]

end Migration

namespace Model

def unscoped : ColumnRule :=
  { column := .unscoped, type := .boolean, default := some (.text "0") }

def own : Kind → List ColumnRule
  | .domain =>
    [{ column := .id, type := .integer, isPrimary := true },
      { column := .value, type := .varchar, isUnique := true }]
  | .subdomain =>
    [{ column := .id, type := .integer, isPrimary := true },
      { column := .domainId, type := .integer, reference := some ⟨.domain, true⟩ },
      { column := .value, type := .varchar, isUnique := true },
      { column := .field .resolvable, type := .boolean, isNullable := true }]
  | .address =>
    [{ column := .id, type := .integer, isPrimary := true },
      { column := .family, type := .varchar },
      { column := .value, type := .varchar, isUnique := true },
      { column := .field .continent, type := .varchar, isNullable := true },
      { column := .field .continentCode, type := .varchar, isNullable := true },
      { column := .field .country, type := .varchar, isNullable := true },
      { column := .field .countryCode, type := .varchar, isNullable := true },
      { column := .field .city, type := .varchar, isNullable := true },
      { column := .field .longitude, type := .float, isNullable := true },
      { column := .field .latitude, type := .float, isNullable := true },
      { column := .field .asn, type := .integer, isNullable := true },
      { column := .field .asOrg, type := .varchar, isNullable := true }]
  | .link =>
    [{ column := .id, type := .integer, isPrimary := true },
      { column := .subdomainId, type := .integer, reference := some ⟨.subdomain, true⟩ },
      { column := .addressId, type := .integer, reference := some ⟨.address, true⟩ }]
  | .url =>
    [{ column := .id, type := .integer, isPrimary := true },
      { column := .subdomainId, type := .integer, reference := some ⟨.subdomain, true⟩ },
      { column := .value, type := .varchar, isUnique := true },
      { column := .field .status, type := .integer, isNullable := true },
      { column := .field .body, type := .blob, isNullable := true },
      { column := .field .online, type := .boolean, isNullable := true },
      { column := .field .title, type := .varchar, isNullable := true },
      { column := .field .redirect, type := .varchar, isNullable := true }]
  | .email =>
    [{ column := .id, type := .integer, isPrimary := true },
      { column := .value, type := .varchar, isUnique := true },
      { column := .field .valid, type := .boolean, isNullable := true }]

def table (kind : Kind) : TableRule where
  columns := (if kind.scopable then [unscoped] else []) ++ own kind
  unique := if kind = .link then [[.subdomainId, .addressId]] else []

end Model

namespace Schema

def migrated : Schema := ⟨Migration.table⟩

def declared : Schema := ⟨Model.table⟩

end Schema
end Footprint
