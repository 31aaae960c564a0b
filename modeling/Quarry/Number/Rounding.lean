import Quarry.Number.Ratio
import Quarry.Number.Scaled

namespace Quarry.Number

namespace Ratio

/-- The place of the leading bit: `2^e ≤ r < 2^(e+1)` for positive `r`. -/
def leadingBit (r : Ratio) : Int :=
  let e := (Nat.log2 r.num : Int) - Nat.log2 r.den
  let s := r.scale 2 (-e)
  if s.den ≤ s.num then e else e - 1

/-- The place of the last bit of the numbers around `r`: fifty-two places below the leading one,
but not below the bottom of the range. -/
def lastBit (r : Ratio) : Int :=
  max (r.leadingBit - 52) (-1074)

end Ratio

def signBit : Nat := exponentSize * fractionSize

def infinityBits : Nat := (exponentSize - 1) * fractionSize

def withSignBit (negative : Bool) (bits : Nat) : Nat :=
  (if negative then signBit else 0) + bits

/-- The bits of the number nearest to a positive `r`, a half to the even one. A fraction that is
rounded up to a power of two carries into the exponent, and beyond the range that ends in the
infinity. -/
def Ratio.nearestBits (r : Ratio) : Nat :=
  let q := r.lastBit
  min infinityBits ((q + 1074).toNat * fractionSize + (r.scale 2 (-q)).nearest)

/-- The decimal `±digits · 10^exponent`, rounded to the nearest number, a half to the even one.
Beyond the range of exponents the answer is known without computing the power. -/
def ofDecimal (negative : Bool) (digits : Nat) (exponent : Int) : Float :=
  let size := (Nat.log2 digits : Int)
  let bits :=
    if digits = 0 then 0
    else if 310 < exponent then infinityBits
    else if exponent < -400 - size then 0
    else ((Ratio.mk digits 1).scale 10 exponent).nearestBits
  Float.ofBits (withSignBit negative bits).toUInt64

def ofInt? (n : Int) : Option Float :=
  let x := ofDecimal (n < 0) n.natAbs 0
  if x.isInf then none else some x

end Quarry.Number
