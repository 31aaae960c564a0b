import Quarry.Number.Rounding
import Quarry.Text.Blank

namespace Quarry.Number

structure Numeral where
  negative : Bool
  whole : List Char
  fraction : Option (List Char)
  /-- The sign of the exponent, and its digits. -/
  power : Option (Bool × List Char)
  deriving Repr, DecidableEq

def digitsValue (ds : List Char) : Nat :=
  ds.foldl (fun n d => 10 * n + (d.toNat - 48)) 0

def splitSign : List Char → Bool × List Char
  | '-' :: s => (true, s)
  | '+' :: s => (false, s)
  | s => (false, s)

def isPowerLetter (c : Char) : Bool := c = 'e' || c = 'E'

/-- The exponent at the front of a text, and the rest. Without digits there is none. -/
def splitPower (s : List Char) : Option (Bool × List Char) × List Char :=
  match s with
  | c :: t =>
    if isPowerLetter c then
      let (negative, u) := splitSign t
      let ds := u.takeWhile Char.isDigit
      if ds.isEmpty then (none, s) else (some (negative, ds), u.dropWhile Char.isDigit)
    else (none, s)
  | [] => (none, s)

def splitFraction : List Char → Option (List Char) × List Char
  | '.' :: s => (some (s.takeWhile Char.isDigit), s.dropWhile Char.isDigit)
  | s => (none, s)

def splitNumeral (s : List Char) : Option (Numeral × List Char) :=
  let (negative, t) := splitSign s
  let whole := t.takeWhile Char.isDigit
  let (fraction, u) := splitFraction (t.dropWhile Char.isDigit)
  if whole.isEmpty && (fraction.getD []).isEmpty then none
  else
    let (power, rest) := splitPower u
    some (⟨negative, whole, fraction, power⟩, rest)

namespace Numeral

def digits (n : Numeral) : Nat :=
  digitsValue (n.whole ++ n.fraction.getD [])

def powerValue (n : Numeral) : Int :=
  match n.power with
  | none => 0
  | some (negative, ds) => withSign negative (digitsValue ds)

def exponent (n : Numeral) : Int :=
  n.powerValue - ((n.fraction.getD []).length : Int)

def toFloat (n : Numeral) : Float :=
  ofDecimal n.negative n.digits n.exponent

end Numeral

/-- An integer is read and written up to this many digits. -/
def exactDigits : Nat := 4300

@[irreducible] def writeLimit : Nat := Nat.pow 10 exactDigits

def isWritable (n : Int) : Bool := n.natAbs < writeLimit

theorem ten_le_pow {n : Nat} (h : 1 ≤ n) : 10 ≤ Nat.pow 10 n :=
  Nat.pow_le_pow_right (by decide : 0 < 10) h

theorem ten_le_writeLimit : 10 ≤ writeLimit := by
  unfold writeLimit
  exact ten_le_pow (by simp [exactDigits])

@[simp]
theorem isWritable_neg (n : Int) : isWritable (-n) = isWritable n := by
  rw [isWritable, isWritable, Int.natAbs_neg]

@[simp]
theorem isWritable_of_lt {n : Int} (h : n.natAbs < 10) : isWritable n :=
  decide_eq_true (Nat.lt_of_lt_of_le h ten_le_writeLimit)

@[simp]
theorem isWritable_writeLimit : isWritable writeLimit = false := by simp [isWritable]

def readInteger? (s : List Char) : Option Int :=
  let (negative, ds) := splitSign s
  if !ds.isEmpty && ds.all Char.isDigit && ds.length ≤ exactDigits then
    some (withSign negative (digitsValue ds))
  else none

/-- Reads a whole text as a floating-point number: a numeral, an infinity, or not a number. -/
def readFloat? (s : String) : Option Float :=
  match splitNumeral s.toList with
  | some (n, []) => some n.toFloat
  | _ =>
    if s = "inf" then some (1.0 / 0.0)
    else if s = "-inf" then some (-1.0 / 0.0)
    else if s = "nan" then some (0.0 / 0.0)
    else none

end Quarry.Number
