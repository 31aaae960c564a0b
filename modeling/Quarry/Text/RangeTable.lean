namespace Quarry.Text

abbrev RangeTable := List (Nat × Nat)

def RangeTable.contains (t : RangeTable) (n : Nat) : Bool :=
  t.any fun r => r.1 ≤ n && n ≤ r.2

def hexDigit? (c : Char) : Option Nat :=
  let n := c.toNat
  if 48 ≤ n ∧ n ≤ 57 then some (n - 48)
  else if 97 ≤ n ∧ n ≤ 102 then some (n - 87)
  else if 65 ≤ n ∧ n ≤ 70 then some (n - 55)
  else none

/-- A table is read from left to right: `lo` is the range's start once a dash has been seen, and
`n` the number read so far. -/
def RangeTable.readHex : Option Nat → Nat → List Char → RangeTable
  | lo, n, [] => [(lo.getD n, n)]
  | lo, n, c :: s =>
    if c = ' ' then (lo.getD n, n) :: readHex none 0 s
    else if c = '-' then readHex (some n) 0 s
    else readHex lo (16 * n + (hexDigit? c).getD 0) s

def RangeTable.ofHex (s : String) : RangeTable :=
  readHex none 0 s.toList

def RangeTable.ofRows (rows : List String) : RangeTable :=
  rows.flatMap ofHex

example : RangeTable.ofHex "9-d 20 1f600-1f64f" = [(9, 13), (32, 32), (128512, 128591)] := by
  decide

end Quarry.Text
