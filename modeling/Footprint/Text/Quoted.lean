import Footprint.Text.Hex
import Footprint.Text.Printable

namespace Footprint.Text

/-- Single quotes, unless the text holds one and no double quote. -/
def quoteFor (text : List Char) : Char :=
  if text.contains '\'' && !text.contains '"' then '"' else '\''

def escapeChar (quote c : Char) : List Char :=
  if c == quote || c == '\\' then ['\\', c]
  else if c == '\n' then ['\\', 'n']
  else if c == '\r' then ['\\', 'r']
  else if c == '\t' then ['\\', 't']
  else if isPrintable c then [c]
  else if c.toNat < 0x100 then '\\' :: 'x' :: hexDigits 2 c.toNat
  else if c.toNat < 0x10000 then '\\' :: 'u' :: hexDigits 4 c.toNat
  else '\\' :: 'U' :: hexDigits 8 c.toNat

def quoted (text : String) : String :=
  let quote := quoteFor text.toList
  String.ofList (quote :: (text.toList.flatMap (escapeChar quote) ++ [quote]))

def escapeByte (quote : Char) (b : UInt8) : List Char :=
  if b.toNat < 0x80 then escapeChar quote (Char.ofNat b.toNat)
  else '\\' :: 'x' :: hexDigits 2 b.toNat

def quotedBytes (bytes : List UInt8) : String :=
  let quote := quoteFor (bytes.map fun b => Char.ofNat b.toNat)
  String.ofList ('b' :: quote :: (bytes.flatMap (escapeByte quote) ++ [quote]))

end Footprint.Text
