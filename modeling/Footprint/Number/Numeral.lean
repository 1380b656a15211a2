import Footprint.Number.Binary64

namespace Footprint.Numeral

def digitsValue (digits : List Char) : Nat :=
  digits.foldl (fun n c => 10 * n + (c.toNat - '0'.toNat)) 0

def takeSign : List Char → Bool × List Char
  | '-' :: rest => (true, rest)
  | '+' :: rest => (false, rest)
  | text => (false, text)

structure Reading where
  negative : Bool
  digits : Nat
  /-- How many of the digits stand behind the point. -/
  places : Nat
  exponent : Int
  /-- Whether the numeral has neither a point nor an exponent. -/
  integral : Bool
  rest : List Char
  deriving DecidableEq, Repr

namespace Reading

def toInt (r : Reading) : Int := if r.negative then -(r.digits : Int) else r.digits

def toBinary64 (r : Reading) : Binary64 :=
  Binary64.ofDecimal r.negative r.digits (r.exponent - r.places)

end Reading

def takeExponent (text : List Char) : Option (Int × List Char) :=
  match text with
  | 'e' :: rest | 'E' :: rest =>
    let (negative, rest) := takeSign rest
    match rest.span Char.isDigit with
    | ([], _) => none
    | (digits, rest) =>
      let value : Int := digitsValue digits
      some (if negative then -value else value, rest)
  | _ => none

/-- The longest numeral at the start of the text: a sign, digits with at most one point among
    them, and an exponent. -/
def readPrefix (text : List Char) : Option Reading :=
  let (negative, text) := takeSign text
  let (whole, text) := text.span Char.isDigit
  let (pointed, part, text) := match text with
    | '.' :: rest =>
      let (part, rest) := rest.span Char.isDigit
      (true, part, rest)
    | _ => (false, [], text)
  if whole.isEmpty && part.isEmpty then none
  else
    let (scientific, exponent, rest) := match takeExponent text with
      | some (exponent, rest) => (true, exponent, rest)
      | none => (false, 0, text)
    some {
      negative
      digits := digitsValue (whole ++ part)
      places := part.length
      exponent
      integral := !pointed && !scientific
      rest }

end Footprint.Numeral
