import Footprint.Number.Binary64

namespace Footprint

structure Extended where
  mantissa : Nat
  exponent : Int
  deriving DecidableEq, Repr

namespace Extended

def mantissaBound : Nat := 1 <<< 64

def round (num den : Nat) : Extended :=
  if num = 0 then ⟨0, 0⟩
  else
    let exponent := Binary64.binaryExponent num den - 63
    let mantissa := if exponent < 0 then Binary64.roundHalfEven (num <<< (-exponent).toNat) den
      else Binary64.roundHalfEven num (den <<< exponent.toNat)
    if mantissa = mantissaBound then ⟨1 <<< 63, exponent + 1⟩ else ⟨mantissa, exponent⟩

def ofNat (n : Nat) : Extended := round n 1

def fraction (x : Extended) : Nat × Nat :=
  if x.exponent < 0 then (x.mantissa, 1 <<< (-x.exponent).toNat)
  else (x.mantissa <<< x.exponent.toNat, 1)

def ofBinary64 : Binary64 → Extended
  | .finite _ mantissa exponent => ⟨mantissa, exponent⟩
  | _ => ⟨0, 0⟩

def toBinary64 (negative : Bool) (x : Extended) : Binary64 :=
  let (num, den) := x.fraction
  Binary64.round negative num den

def floor (x : Extended) : Nat :=
  let (num, den) := x.fraction
  num / den

def le (x y : Extended) : Bool :=
  let (num, den) := x.fraction
  let (num', den') := y.fraction
  num * den' ≤ num' * den

def lt (x y : Extended) : Bool := !y.le x

def mul (x y : Extended) : Extended :=
  let (num, den) := x.fraction
  let (num', den') := y.fraction
  round (num * num') (den * den')

def div (x y : Extended) : Extended :=
  let (num, den) := x.fraction
  let (num', den') := y.fraction
  round (num * den') (den * num')

def add (x y : Extended) : Extended :=
  let (num, den) := x.fraction
  let (num', den') := y.fraction
  round (num * den' + num' * den) (den * den')

def part (x : Extended) : Extended :=
  let (num, den) := x.fraction
  round (num % den) den

/-- The first powers whose product is `base ^ n`, by repeated squares. -/
def power (base : Extended) (n : Nat) : Extended := go n base (ofNat 1) n
where
  go : Nat → Extended → Extended → Nat → Extended
    | 0, _, product, _ => product
    | fuel + 1, square, product, n =>
      let product := if n % 2 = 1 then product.mul square else product
      if n / 2 = 0 then product else go fuel (square.mul square) product (n / 2)

end Extended
end Footprint
