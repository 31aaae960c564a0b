namespace Quarry.Number

/-- What a floating-point number stands for; a finite one is `±m · 2^q`. -/
inductive Scaled
  | notANumber
  | infinite (negative : Bool)
  | finite (negative : Bool) (m : Nat) (q : Int)
  deriving Repr, DecidableEq

def fractionSize : Nat := Nat.pow 2 52

def exponentSize : Nat := Nat.pow 2 11

def scaled (x : Float) : Scaled :=
  let bits : Nat := x.toBits.toNat
  let negative := decide (exponentSize * fractionSize ≤ bits)
  let exponent : Nat := bits / fractionSize % exponentSize
  let fraction : Nat := bits % fractionSize
  if exponent = 2047 then
    if fraction = 0 then .infinite negative else .notANumber
  else if exponent = 0 then .finite negative fraction (-1074)
  else .finite negative (fractionSize + fraction) ((exponent : Int) - 1075)

inductive NoInteger
  | notANumber
  | infinite
  deriving Repr, DecidableEq

def wholePart (m : Nat) (q : Int) : Nat :=
  if 0 ≤ q then m * Nat.pow 2 q.toNat else m / Nat.pow 2 (-q).toNat

def isWhole (m : Nat) (q : Int) : Bool :=
  0 ≤ q || m % Nat.pow 2 (-q).toNat = 0

def withSign (negative : Bool) (n : Nat) : Int :=
  if negative then -(n : Int) else n

/-- The integer part: the fraction is cut off, toward zero. -/
def Scaled.truncate : Scaled → Except NoInteger Int
  | .notANumber => .error .notANumber
  | .infinite _ => .error .infinite
  | .finite negative m q => .ok (withSign negative (wholePart m q))

def truncate (x : Float) : Except NoInteger Int :=
  (scaled x).truncate

end Quarry.Number
