import Footprint.Text.Hex
import Footprint.Text.Split

namespace Footprint

inductive Family
  | v4
  | v6
  deriving DecidableEq, Repr

namespace Family

def name : Family → String
  | v4 => "v4"
  | v6 => "v6"

def ofName? : String → Option Family
  | "v4" => some v4
  | "v6" => some v6
  | _ => none

def version : Family → Nat
  | v4 => 4
  | v6 => 6

end Family

namespace Address

def isOctet (part : List Char) : Bool :=
  !part.isEmpty && part.all Char.isDigit && part.length ≤ 3 &&
    (part.length == 1 || part.head? != some '0') &&
    part.foldl (fun n c => 10 * n + (c.toNat - 48)) 0 ≤ 255

def isV4 (text : List Char) : Bool :=
  let parts := Text.splitOn '.' text
  parts.length == 4 && parts.all isOctet

def isGroup (part : List Char) : Bool :=
  !part.isEmpty && part.length ≤ 4 && part.all Text.isHexDigit

/-- The last group may be an address of four octets, which counts as two groups. -/
def groups? (text : List Char) : Option (List (List Char)) :=
  let parts := Text.splitOn ':' text
  match parts.getLast? with
  | none => none
  | some last =>
    if parts.length < 3 then none
    else if last.contains '.' then
      if isV4 last then some (parts.dropLast ++ [['0'], ['0']]) else none
    else some parts

/-- The groups around a `::`, which stands for at least one group of zeros; each side may be
    empty. -/
def isCompressed (high low : List (List Char)) : Bool :=
  let high := if high == [[]] then [] else high
  let low := if low == [[]] then [] else low
  high.all isGroup && low.all isGroup && high.length + low.length < 8

def innerGaps (parts : List (List Char)) : List Nat :=
  (List.range parts.length).filter fun i =>
    0 < i && i + 1 < parts.length && parts[i]? == some []

def isV6Groups (parts : List (List Char)) : Bool :=
  parts.length ≤ 9 &&
    match innerGaps parts with
    | [] => parts.length == 8 && parts.all isGroup
    | [gap] => isCompressed (parts.take gap) (parts.drop (gap + 1))
    | _ => false

def isScope : List Char → Bool
  | [] => true
  | _ :: name => !name.isEmpty && !name.contains '%'

def isV6 (text : List Char) : Bool :=
  let (address, scope) := text.span (· != '%')
  isScope scope && match groups? address with
    | some parts => isV6Groups parts
    | none => false

def family? (address : String) : Option Family :=
  let text := address.toList
  if text.contains '/' then none
  else if isV4 text then some .v4
  else if isV6 text then some .v6
  else none

end Address
end Footprint
