namespace Footprint

/-- A finite number is `± mantissa * 2 ^ exponent`, where either
    `2 ^ 52 ≤ mantissa < 2 ^ 53`, or `mantissa < 2 ^ 52` and the exponent is the least one, -1074.
    So two finite numbers other than the zeros are equal exactly when their parts are. -/
inductive Binary64
  | nan
  | infinity (negative : Bool)
  | finite (negative : Bool) (mantissa : Nat) (exponent : Int)
  deriving DecidableEq, Repr

namespace Binary64

def leastExponent : Int := -1074
def greatestExponent : Int := 971

def zero : Binary64 := finite false 0 leastExponent

def leastMantissa : Nat := 1 <<< 52

def mantissaBound : Nat := 1 <<< 53

def signBit : Nat := 1 <<< 63

def powerOfTen (exponent : Nat) : Nat := Nat.pow 10 exponent

/-- The greatest `k` with `2 ^ k * den ≤ num`, for positive arguments. -/
def binaryExponent (num den : Nat) : Int :=
  let estimate : Int := (num.log2 : Int) - den.log2
  let fits := if estimate < 0 then den ≤ num <<< (-estimate).toNat
    else den <<< estimate.toNat ≤ num
  if fits then estimate else estimate - 1

/-- The integer nearest to `num / den`; a half goes to the even neighbour. -/
def roundHalfEven (num den : Nat) : Nat :=
  let quotient := num / den
  let doubled := 2 * (num % den)
  if doubled < den || (doubled == den && quotient % 2 == 0) then quotient else quotient + 1

def round (negative : Bool) (num den : Nat) : Binary64 :=
  if num = 0 then finite negative 0 leastExponent
  else
    let exponent := max leastExponent (binaryExponent num den - 52)
    let mantissa := if exponent < 0 then roundHalfEven (num <<< (-exponent).toNat) den
      else roundHalfEven num (den <<< exponent.toNat)
    let (mantissa, exponent) :=
      if mantissa = mantissaBound then (leastMantissa, exponent + 1) else (mantissa, exponent)
    if exponent > greatestExponent then infinity negative else finite negative mantissa exponent

def ofInt (n : Int) : Binary64 := round (n < 0) n.natAbs 1

def digitCount (n : Nat) : Nat := (Nat.toDigits 10 n).length

/-- The number nearest to `± digits * 10 ^ exponent`. Decimals far outside the range are settled
    by their size alone. -/
def ofDecimal (negative : Bool) (digits : Nat) (exponent : Int) : Binary64 :=
  if digits = 0 then finite negative 0 leastExponent
  else
    let size := exponent + digitCount digits
    if size > 310 then infinity negative
    else if size < -330 then finite negative 0 leastExponent
    else if exponent < 0 then round negative digits (powerOfTen (-exponent).toNat)
    else round negative (digits * powerOfTen exponent.toNat) 1

def isFinite : Binary64 → Bool
  | finite .. => true
  | _ => false

def isZero : Binary64 → Bool
  | finite _ 0 _ => true
  | _ => false

def negate : Binary64 → Binary64
  | nan => nan
  | infinity negative => infinity !negative
  | finite negative mantissa exponent => finite (!negative) mantissa exponent

def equals : Binary64 → Binary64 → Bool
  | finite s m e, finite s' m' e' => (m == 0 && m' == 0) || (s == s' && m == m' && e == e')
  | infinity s, infinity s' => s == s'
  | _, _ => false

def fraction? : Binary64 → Option (Int × Nat)
  | finite negative mantissa exponent =>
    let (num, den) := if exponent < 0 then (mantissa, 1 <<< (-exponent).toNat)
      else (mantissa <<< exponent.toNat, 1)
    some (if negative then -num else num, den)
  | _ => none

def toInt? (x : Binary64) : Option Int :=
  match x.fraction? with
  | some (num, den) => if num % den = 0 then some (num / den) else none
  | none => none

def compare? : Binary64 → Binary64 → Option Ordering
  | nan, _ | _, nan => none
  | infinity s, infinity s' => some (compare s' s)
  | infinity s, finite .. => some (if s then .lt else .gt)
  | finite .., infinity s => some (if s then .gt else .lt)
  | x@(finite ..), y@(finite ..) =>
    match x.fraction?, y.fraction? with
    | some (num, den), some (num', den') => some (compare (num * den') (num' * den))
    | _, _ => none

def compareInt? (n : Int) : Binary64 → Option Ordering
  | nan => none
  | infinity negative => some (if negative then .gt else .lt)
  | x@(finite ..) => x.fraction?.map fun (num, den) => compare (n * den) num

def bits : Binary64 → Nat
  | nan => 0x7ff8000000000000
  | infinity negative => sign negative + 0x7ff0000000000000
  | finite negative mantissa exponent =>
    if mantissa < leastMantissa then sign negative + mantissa
    else sign negative + (exponent + 1075).toNat <<< 52 + (mantissa - leastMantissa)
where
  sign (negative : Bool) : Nat := if negative then signBit else 0

def ofBits (n : Nat) : Binary64 :=
  let negative := n / signBit % 2 == 1
  let scale := n / leastMantissa % 0x800
  let part := n % leastMantissa
  if scale = 0x7ff then if part = 0 then infinity negative else nan
  else if scale = 0 then finite negative part leastExponent
  else finite negative (leastMantissa + part) ((scale : Int) - 1075)

end Binary64
end Footprint
