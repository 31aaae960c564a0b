namespace Quarry.Number

structure Ratio where
  num : Nat
  den : Nat

namespace Ratio

def scale (r : Ratio) (b : Nat) (e : Int) : Ratio :=
  if 0 ≤ e then ⟨r.num * Nat.pow b e.toNat, r.den⟩
  else ⟨r.num, r.den * Nat.pow b (-e).toNat⟩

/-- The nearest whole number, a half to the even one. -/
def nearest (r : Ratio) : Nat :=
  let n := r.num / r.den
  let twice := 2 * (r.num % r.den)
  if twice < r.den || (twice = r.den && n % 2 = 0) then n else n + 1

end Ratio

end Quarry.Number
