import Footprint.Number.Decimal
import Footprint.Number.Extended
import Footprint.Number.Numeral
import Footprint.Text.Blank

namespace Footprint

namespace Extended

def ofDecimal (digits : Nat) (exponent : Int) : Extended :=
  ofBinary64 (Binary64.ofDecimal false digits exponent)

def ten : Extended := ofNat 10

end Extended

namespace Numeral

def significandLimit : Nat := 922337203685477579

def significand (digits : Nat) : Nat × Nat :=
  let extra := Binary64.digitCount digits - 18
  let leading := digits / Binary64.powerOfTen extra
  if extra = 0 || significandLimit ≤ leading then (leading, extra)
  else (digits / Binary64.powerOfTen (extra - 1), extra - 1)

/-- Moves powers of ten into the significand as long as it stays below 64 bits; the rest of the
    exponent is left. -/
def multiplyOut (significand : Nat) : Nat → Nat × Nat
  | 0 => (significand, 0)
  | exponent + 1 =>
    if significandLimit < significand then (significand, exponent + 1)
    else multiplyOut (10 * significand) exponent

def divideOut (significand : Nat) : Nat → Nat × Nat
  | 0 => (significand, 0)
  | exponent + 1 =>
    if significand % 10 = 0 then divideOut (significand / 10) exponent
    else (significand, exponent + 1)

def greatestStep : Nat := 307

def overwhelming : Nat := 342

/-- A product of 64 digits, cut to 53. -/
def product (negative : Bool) (x y : Extended) : Binary64 := (x.mul y).toBinary64 negative

def quotient (negative : Bool) (x y : Extended) : Binary64 := (x.div y).toBinary64 negative

def narrowProduct (negative : Bool) (x y : Extended) : Binary64 :=
  let (num, den) := x.fraction
  let (num', den') := y.fraction
  Binary64.round negative (num * num') (den * den')

def narrowQuotient (negative : Bool) (x y : Extended) : Binary64 :=
  let (num, den) := x.fraction
  let (num', den') := y.fraction
  Binary64.round negative (num * den') (den * num')

def huge : Extended := .ofDecimal 1 308

def multiplied (negative : Bool) (significand exponent : Nat) : Binary64 :=
  let (significand, exponent) := multiplyOut significand exponent
  let s := Extended.ofNat significand
  if exponent = 0 then s.toBinary64 negative
  else if exponent ≤ greatestStep then product negative s (Extended.ten.power exponent)
  else if exponent < overwhelming then
    let first := product negative s (Extended.ten.power (exponent - 308))
    narrowProduct negative (.ofBinary64 first) huge
  else .infinity negative

def divided (negative : Bool) (significand exponent : Nat) : Binary64 :=
  let (significand, exponent) := divideOut significand exponent
  let s := Extended.ofNat significand
  if exponent = 0 then s.toBinary64 negative
  else if exponent ≤ greatestStep then quotient negative s (Extended.ten.power exponent)
  else if exponent < overwhelming then
    let first := quotient negative s (Extended.ten.power (exponent - 308))
    narrowQuotient negative (.ofBinary64 first) huge
  else .finite negative 0 Binary64.leastExponent

/-- A written exponent of six digits or more counts as ten thousand. -/
def boundedExponent (exponent : Int) : Int :=
  if exponent.natAbs < 100000 then exponent else if exponent < 0 then -10000 else 10000

def Reading.approximate (r : Reading) : Binary64 :=
  let (leading, dropped) := significand r.digits
  let exponent := boundedExponent r.exponent - r.places + dropped
  if leading = 0 then .finite r.negative 0 Binary64.leastExponent
  else if exponent < 0 then divided r.negative leading (-exponent).toNat
  else multiplied r.negative leading exponent.toNat

end Numeral

namespace Extended

def repeatWhile {α : Type} (test : α → Bool) (step : α → α) : Nat → α → α
  | 0, a => a
  | n + 1, a => if test a then repeatWhile test step n (step a) else a

abbrev Scale := Extended × Int

def climb (x : Extended) (factor : Extended) (exponent : Int) (scale : Scale) : Scale :=
  repeatWhile (fun scale => (factor.mul scale.1).le x)
    (fun scale => (scale.1.mul factor, scale.2 + exponent)) 10 scale

def raise (bound factor : Extended) (exponent : Int) (scaled : Scale) : Scale :=
  repeatWhile (fun scaled => scaled.1.lt bound)
    (fun scaled => (scaled.1.mul factor, scaled.2 - exponent)) 50 scaled

def normalize (x : Extended) : Scale :=
  let climbed := (((ofNat 1, 0) |> climb x (ofDecimal 1 100) 100) |> climb x (ofDecimal 1 10) 10)
    |> climb x ten 1
  let scaled := (x.div climbed.1, climbed.2)
  (scaled |> raise (ofDecimal 1 (-8)) (ofDecimal 1 8) 8) |> raise (ofNat 1) ten 1

/-- Half a unit of the fifteenth digit: `5e-05` times `1e-10`. -/
def halfUnit : Extended :=
  ofBinary64 (Numeral.narrowProduct false (ofDecimal 5 (-5)) (ofDecimal 1 (-10)))

def roundUp (scaled : Scale) : Scale :=
  let sum := scaled.1.add halfUnit
  if ten.le sum then (sum.mul (ofDecimal 1 (-1)), scaled.2 + 1) else (sum, scaled.2)

def digits : Nat → Extended → List Char
  | 0, _ => []
  | count + 1, x => Nat.digitChar x.floor :: digits count (x.part.mul ten)

def toDecimal (x : Extended) : Decimal :=
  let (leading, exponent) := roundUp (normalize x)
  { digits := Text.trimEnd (· == '0') (leading.digits 15), point := exponent + 1 }

end Extended

namespace Binary64

/-- The text of fifteen digits: positional from `1e-4` up to `1e15`. -/
def brief : Binary64 → List Char
  | nan => "NaN".toList
  | infinity negative => signed negative "Inf".toList
  | finite _ 0 _ => "0.0".toList
  | x@(finite negative _ _) =>
    let d := (Extended.ofBinary64 x).toDecimal
    signed negative (if -4 < d.point && d.point ≤ 15 then d.positional else d.scientific true)

end Binary64
end Footprint
