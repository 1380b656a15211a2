import Footprint.Number.Binary64

namespace Footprint

/-- The decimal `0.d₁d₂… * 10 ^ point`, whose digits are those of `digits`. -/
structure Decimal where
  digits : List Char
  point : Int
  deriving DecidableEq, Repr

namespace Decimal

def decimalExponent (num den : Nat) : Int :=
  if den ≤ num then (Binary64.digitCount (num / den) : Int) - 1
  else
    let length := Binary64.digitCount (den / num)
    if den ≤ num * Binary64.powerOfTen (length - 1) then -((length : Int) - 1) else -(length : Int)

def scale (num den : Nat) (exponent : Int) : Nat × Nat :=
  if exponent < 0 then (num * Binary64.powerOfTen (-exponent).toNat, den)
  else (num, den * Binary64.powerOfTen exponent.toNat)

def ofGrid (digits : Nat) (unit : Int) : Decimal :=
  let text := Nat.toDigits 10 digits
  let trimmed := (text.reverse.dropWhile (· == '0')).reverse
  { digits := trimmed, point := unit + text.length }

def neighbours (num den count : Nat) : List (Nat × Int) :=
  let unit := decimalExponent num den - (count - 1 : Nat)
  let (num, den) := scale num den unit
  let below := num / den
  let doubled := 2 * (num % den)
  if doubled < den || (doubled == den && below % 2 == 0) then [(below, unit), (below + 1, unit)]
  else [(below + 1, unit), (below, unit)]

/-- The decimal of the fewest digits that reads back as the number; of two such, the nearer. -/
def shortest (mantissa : Nat) (exponent : Int) : Decimal :=
  let (num, den) := if exponent < 0 then (mantissa, 1 <<< (-exponent).toNat)
    else (mantissa <<< exponent.toNat, 1)
  let readsBack := fun (digits, unit) =>
    Binary64.ofDecimal false digits unit == .finite false mantissa exponent
  let found := (List.range 17).findSome? fun count =>
    (neighbours num den (count + 1)).find? readsBack
  match found with
  | some (digits, unit) => ofGrid digits unit
  | none => ofGrid 0 0

def zeros (n : Nat) : List Char := List.replicate n '0'

def positional (d : Decimal) : List Char :=
  if d.point ≤ 0 then
    ['0', '.'] ++ zeros (-d.point).toNat ++ (if d.digits.isEmpty then ['0'] else d.digits)
  else
    let places := d.point.toNat
    let whole := d.digits.take places ++ zeros (places - d.digits.length)
    let part := d.digits.drop places
    whole ++ '.' :: (if part.isEmpty then ['0'] else part)

def exponentText (exponent : Int) : List Char :=
  let digits := Nat.toDigits 10 exponent.natAbs
  'e' :: (if exponent < 0 then '-' else '+') :: (zeros (2 - digits.length) ++ digits)

def scientific (padded : Bool) (d : Decimal) : List Char :=
  let mantissa := match d.digits with
    | [] => ['0']
    | [lead] => if padded then [lead, '.', '0'] else [lead]
    | lead :: rest => lead :: '.' :: rest
  mantissa ++ exponentText (d.point - 1)

end Decimal

namespace Binary64

def signed (negative : Bool) (text : List Char) : List Char :=
  if negative then '-' :: text else text

/-- The text that reads back as the same number: positional from `1e-4` up to `1e16`. -/
def display : Binary64 → String
  | nan => "nan"
  | infinity negative => String.ofList (signed negative "inf".toList)
  | finite negative 0 _ => String.ofList (signed negative "0.0".toList)
  | finite negative mantissa exponent =>
    let d := Decimal.shortest mantissa exponent
    String.ofList <| signed negative <|
      if -4 < d.point && d.point ≤ 16 then d.positional else d.scientific false

end Binary64
end Footprint
