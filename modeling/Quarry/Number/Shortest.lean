import Quarry.Number.Ratio
import Quarry.Number.Scaled

namespace Quarry.Number

structure Decimal where
  digits : Nat
  exponent : Int
  deriving Repr, DecidableEq

def digitCount (n : Nat) : Nat :=
  (Nat.toDigits 10 n).length

def Ratio.leadingPlace (r : Ratio) : Int :=
  let e := (digitCount r.num : Int) - digitCount r.den
  let s := r.scale 10 (-e)
  if s.den ≤ s.num then e else e - 1

/-- A number in quarters of its last place, with the ends of the interval that rounds to it. -/
structure Interval where
  low : Nat
  mid : Nat
  high : Nat
  closed : Bool

/-- Below a power of two the neighbours lie twice as close, except at the bottom of the range. -/
def intervalOf (m : Nat) (q : Int) : Interval :=
  let low := if m = fractionSize ∧ q ≠ -1074 then 4 * m - 1 else 4 * m - 2
  ⟨low, 4 * m, 4 * m + 2, m % 2 = 0⟩

def Interval.holds (i : Interval) (unit : Ratio) (point : Nat) (place : Int) : Bool :=
  let p := (Ratio.mk (point * unit.den) unit.num).scale 10 place
  if i.closed then i.low * p.den ≤ p.num && p.num ≤ i.high * p.den
  else i.low * p.den < p.num && p.num < i.high * p.den

def pointOn (i : Interval) (unit : Ratio) (place : Int) : Option Nat :=
  let v := (Ratio.mk (i.mid * unit.num) unit.den).scale 10 (-place)
  let below := v.num / v.den
  let rest := v.num % v.den
  let above := below + 1
  let belowHolds := i.holds unit below place
  let aboveHolds := rest != 0 && i.holds unit above place
  match belowHolds, aboveHolds with
  | false, false => none
  | true, false => some below
  | false, true => some above
  | true, true =>
    if 2 * rest < v.den || (2 * rest = v.den && below % 2 = 0) then some below else some above

/-- Tries the grids of `count`, `count + 1`, … significant digits; seventeen always suffice. -/
def firstPoint (i : Interval) (unit : Ratio) (lead : Int) : Nat → Nat → Decimal
  | 0, count => ⟨i.mid, lead - count⟩
  | tries + 1, count =>
    let place := lead - count + 1
    match pointOn i unit place with
    | some d => ⟨d, place⟩
    | none => firstPoint i unit lead tries (count + 1)

def shortest (m : Nat) (q : Int) : Decimal :=
  let i := intervalOf m q
  let unit := (Ratio.mk 1 1).scale 2 (q - 2)
  firstPoint i unit (Ratio.mk (i.mid * unit.num) unit.den).leadingPlace 17 1

def stripZeros : Nat → Nat → Nat × Nat
  | 0, n => (n, 0)
  | fuel + 1, n =>
    if n ≠ 0 ∧ n % 10 = 0 then
      let r := stripZeros fuel (n / 10)
      (r.1, r.2 + 1)
    else (n, 0)

def exponentText (e : Int) : String :=
  let n := toString e.natAbs
  (if e < 0 then "e-" else "e+") ++ (if n.length < 2 then "0" ++ n else n)

def pointAfter (digits : List Char) (k : Int) : List Char :=
  if k ≤ 0 then '0' :: '.' :: List.replicate (-k).toNat '0' ++ digits
  else
    let padded := digits ++ List.replicate (k.toNat - digits.length) '0'
    let fraction := padded.drop k.toNat
    padded.take k.toNat ++ '.' :: (if fraction.isEmpty then ['0'] else fraction)

/-- A decimal is written positionally when its leading digit stands between the fourth place after
the point and the sixteenth before it, and otherwise with an exponent. -/
def Decimal.text (d : Decimal) : String :=
  let (n, zeros) := stripZeros (digitCount d.digits) d.digits
  let digits := Nat.toDigits 10 n
  let lead := d.exponent + zeros + (digits.length : Int) - 1
  if -4 ≤ lead ∧ lead < 16 then String.ofList (pointAfter digits (lead + 1))
  else
    let mantissa := match digits with
      | [] => []
      | [c] => [c]
      | c :: cs => c :: '.' :: cs
    String.ofList mantissa ++ exponentText lead

def floatText (x : Float) : String :=
  match scaled x with
  | .notANumber => "nan"
  | .infinite negative => if negative then "-inf" else "inf"
  | .finite negative m q =>
    let body := if m = 0 then "0.0" else (shortest m q).text
    if negative then "-" ++ body else body

end Quarry.Number
