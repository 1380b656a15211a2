import Footprint.Number.Decimal
import Footprint.Text.Ragged

namespace Footprint

inductive Data
  | null
  | bool (value : Bool)
  | int (value : Int)
  | real (value : Binary64)
  | text (value : String)
  | ragged (value : Ragged)
  | bytes (value : List UInt8)
  | list (items : List Data)
  | object (members : List (String × Data))
  deriving Inhabited

namespace Data

def ofText : AnyText → Data
  | .plain s => text s
  | .ragged r => ragged r

def typeName : Data → String
  | null => "NoneType"
  | bool _ => "bool"
  | int _ => "int"
  | real _ => "float"
  | text _ | ragged _ => "str"
  | bytes _ => "bytes"
  | list _ => "list"
  | object _ => "dict"

mutual

def quoted : Data → String
  | null => "None"
  | bool true => "True"
  | bool false => "False"
  | int n => toString n
  | real x => x.display
  | text s => Text.quoted s
  | ragged r => r.quoted
  | bytes b => Text.quotedBytes b
  | list items => "[" ++ ", ".intercalate (quotedItems items) ++ "]"
  | object members => "\x7b" ++ ", ".intercalate (quotedMembers members) ++ "\x7d"

def quotedItems : List Data → List String
  | [] => []
  | item :: rest => item.quoted :: quotedItems rest

def quotedMembers : List (String × Data) → List String
  | [] => []
  | (name, value) :: rest => (Text.quoted name ++ ": " ++ value.quoted) :: quotedMembers rest

end

def display : Data → String
  | text s => s
  | ragged r => r.lossy
  | other => other.quoted

end Data
end Footprint
