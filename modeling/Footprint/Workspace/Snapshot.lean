import Footprint.Session.Basic
import Footprint.Text.Escape

namespace Footprint

def Cell.encode : Cell → List Char
  | null => ['-']
  | bool b => ['b', if b then '1' else '0']
  | int n => 'i' :: (toString n).toList
  | real x => 'r' :: Text.hexDigits 16 x.bits
  | text s => 't' :: Text.escapeField s.toList
  -- no table holds one
  | ragged r => 't' :: Text.escapeField r.shown.toList
  | bytes b => 'x' :: Text.hexOfBytes b

def Cell.decode? : List Char → Option Cell
  | ['-'] => some .null
  | ['b', digit] => some (.bool (digit == '1'))
  | 'i' :: digits => (String.ofList digits).toInt?.map Cell.int
  | 'r' :: digits => some (.real (Binary64.ofBits (Text.natOfHex digits)))
  | 't' :: escaped => some (.text (String.ofList (Text.unescapeField escaped)))
  | 'x' :: digits => some (.bytes (Text.bytesOfHex digits))
  | _ => none

def Subject.ofCells? : Kind → List Cell → Option Subject
  | .domain, [.text value] => some (.domain value)
  | .subdomain, [.int parent, .text value] => some (.subdomain parent value)
  | .address, [.text family, .text value] =>
    (Family.ofName? family).map fun family => .address family value
  | .link, [.int first, .int second] => some (.link first second)
  | .url, [.int parent, .text value] => some (.url parent value)
  | .email, [.text value] => some (.email value)
  | _, _ => none

namespace Row

/-- Every column of the kind, and the scope also where the kind has none. -/
def cells (row : Row) : List Cell :=
  .int row.id :: .bool row.unscoped ::
    (row.kind.subjectColumns.map row.subject.cell ++
      row.kind.attributes.map fun a => row.cell (.field a))

def ofCells? (kind : Kind) : List Cell → Option Row
  | .int id :: .bool unscoped :: rest =>
    let own := kind.subjectColumns.length
    let values := rest.drop own
    if values.length = kind.attributes.length then
      (Subject.ofCells? kind (rest.take own)).map fun subject =>
        ⟨id, subject, kind.attributes.zip values, unscoped⟩
    else none
  | _ => none

def encode (row : Row) : List Char :=
  ['\t'].intercalate (row.kind.tag.toList :: row.cells.map Cell.encode)

def decode? (line : List Char) : Option Row :=
  match Text.splitOn '\t' line with
  | tag :: fields => do
    ofCells? (← Kind.ofTag? (String.ofList tag)) (← fields.mapM Cell.decode?)
  | [] => none

end Row

namespace Database

def heading : String := "footprint workspace 1"

def schemaLines : List (String × Bool × SchemaVersion) :=
  [("no tables", false, .untracked), ("no tables since base", false, .base),
    ("no tables since initial", false, .initial), ("tables", true, .untracked),
    ("tables since base", true, .base), ("tables since initial", true, .initial)]

def schemaLine (d : Database) : String :=
  ((schemaLines.find? fun (_, state) => state = (d.tables, d.version)).map Prod.fst).getD ""

def encode (d : Database) : String :=
  "\n".intercalate (heading :: d.schemaLine :: d.store.rows.map fun row => String.ofList row.encode)

/-- An empty text is a database without tables. -/
def decode? (text : String) : Option Database :=
  match Text.lines text with
  | [""] => some .blank
  | first :: schema :: rows =>
    if first = heading then do
      let (tables, version) ← schemaLines.lookup schema
      let rows ← rows.mapM fun line => Row.decode? line.toList
      return ⟨tables, version, ⟨rows⟩⟩
    else none
  | _ => none

end Database
end Footprint
