namespace Footprint.Text

def hexDigits (width n : Nat) : List Char :=
  let digits := Nat.toDigits 16 n
  List.replicate (width - digits.length) '0' ++ digits

def hexOfBytes (bytes : List UInt8) : List Char := bytes.flatMap fun b => hexDigits 2 b.toNat

def hexValue? (c : Char) : Option Nat :=
  if c.isDigit then some (c.toNat - '0'.toNat)
  else if 'a' ≤ c ∧ c ≤ 'f' then some (c.toNat - 'a'.toNat + 10)
  else if 'A' ≤ c ∧ c ≤ 'F' then some (c.toNat - 'A'.toNat + 10)
  else none

def isHexDigit (c : Char) : Bool := (hexValue? c).isSome

def natOfHex (digits : List Char) : Nat :=
  digits.foldl (fun n c => 16 * n + (hexValue? c).getD 0) 0

def bytesOfHex : List Char → List UInt8
  | a :: b :: rest => (natOfHex [a, b]).toUInt8 :: bytesOfHex rest
  | _ => []

end Footprint.Text
