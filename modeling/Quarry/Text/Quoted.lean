import Quarry.Text.Visible

namespace Quarry.Text

def hexDigit (n : Nat) : Char :=
  Char.ofNat (if n < 10 then 48 + n else 87 + n)

def hexDigits : Nat → Nat → List Char
  | 0, _ => []
  | width + 1, n => hexDigits width (n / 16) ++ [hexDigit (n % 16)]

def quoteFor (hasSingle hasDouble : Bool) : Char :=
  if hasSingle && !hasDouble then '"' else '\''

def escapeChar (q c : Char) : List Char :=
  let n := c.toNat
  if c = q ∨ c = '\\' then ['\\', c]
  else if c = '\t' then ['\\', 't']
  else if c = '\n' then ['\\', 'n']
  else if c = '\r' then ['\\', 'r']
  else if isVisible c then [c]
  else if n ≤ 0xFF then '\\' :: 'x' :: hexDigits 2 n
  else if n ≤ 0xFFFF then '\\' :: 'u' :: hexDigits 4 n
  else '\\' :: 'U' :: hexDigits 8 n

def quoted (s : String) : String :=
  let cs := s.toList
  let q := quoteFor (cs.contains '\'') (cs.contains '"')
  String.ofList (q :: cs.flatMap (escapeChar q) ++ [q])

/-- How one byte stands inside quotes `q`: as its character where that is plain and visible. -/
def escapeByte (q : Char) (b : UInt8) : List Char :=
  let n := b.toNat
  if n < 0x7F then escapeChar q (Char.ofNat n) else '\\' :: 'x' :: hexDigits 2 n

def quotedBytes (bs : List UInt8) : String :=
  let q := quoteFor (bs.contains 0x27) (bs.contains 0x22)
  String.ofList ('b' :: q :: bs.flatMap (escapeByte q) ++ [q])

end Quarry.Text
