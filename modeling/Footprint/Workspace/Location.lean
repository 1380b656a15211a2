import Footprint.Text.Hex
import Footprint.Workspace.Name

namespace Footprint

namespace Text

def decoded (bytes : List UInt8) : List Char :=
  match String.fromUTF8? ⟨bytes.toArray⟩ with
  | some text => text.toList
  | none => ['\uFFFD']

def unescapePercent (bytes : List UInt8) : List Char → List Char
  | '%' :: high :: low :: rest =>
    if isHexDigit high && isHexDigit low then
      unescapePercent (bytes ++ [(natOfHex [high, low]).toUInt8]) rest
    else decoded bytes ++ '%' :: unescapePercent [] (high :: low :: rest)
  | c :: rest => decoded bytes ++ c :: unescapePercent [] rest
  | [] => decoded bytes

end Text

inductive Location
  | memory
  | file (path : Path)
  deriving DecidableEq, Repr

namespace Location

/-- A question mark ends the place; options follow it. -/
def ofText (text : String) : Location :=
  let place := Text.unescapePercent [] (text.toList.takeWhile (· != '?'))
  if place = [] ∨ place = ":memory:".toList then .memory else .file (Path.ofString (String.ofList place))

def ofWorkspace (directory : Path) (name : String) : Location :=
  ofText (directory.file (Workspace.fileName name)).toString

end Location
end Footprint
