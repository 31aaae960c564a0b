import Quarry.Text.CaseFolding
import Quarry.Text.Category
import Quarry.Text.Script

namespace Quarry.Pattern

open Text (RangeTable)

/-- A part of a set: the code points of a table, or all others. -/
structure Part where
  table : RangeTable
  negated : Bool
  folded : Bool
  deriving Repr

structure CharSet where
  parts : List Part
  negated : Bool
  deriving Repr

def Part.contains (p : Part) (n : Nat) : Bool :=
  (if p.folded then (Text.foldMates n).any p.table.contains else p.table.contains n) != p.negated

def CharSet.contains (s : CharSet) (n : Nat) : Bool :=
  s.parts.any (·.contains n) != s.negated

def lastCode : Nat := 0x10FFFF

def CharSet.all : CharSet := ⟨[], true⟩

def CharSet.inLine : CharSet := ⟨[⟨[(10, 10)], false, false⟩], true⟩

def CharSet.single (n : Nat) (folded : Bool) : CharSet := ⟨[⟨[(n, n)], false, folded⟩], false⟩

def CharSet.ofPart (p : Part) : CharSet := ⟨[p], false⟩

def digits : RangeTable := [(0x30, 0x39)]

def wordChars : RangeTable := [(0x30, 0x39), (0x41, 0x5A), (0x5F, 0x5F), (0x61, 0x7A)]

def letterClass? : Char → Option (RangeTable × Bool)
  | 'd' => some (digits, false)
  | 'D' => some (digits, true)
  | 's' => some ([(0x9, 0xA), (0xC, 0xD), (0x20, 0x20)], false)
  | 'S' => some ([(0x9, 0xA), (0xC, 0xD), (0x20, 0x20)], true)
  | 'w' => some (wordChars, false)
  | 'W' => some (wordChars, true)
  | _ => none

def namedClass? : String → Option RangeTable
  | "alnum" => some [(0x30, 0x39), (0x41, 0x5A), (0x61, 0x7A)]
  | "alpha" => some [(0x41, 0x5A), (0x61, 0x7A)]
  | "ascii" => some [(0x0, 0x7F)]
  | "blank" => some [(0x9, 0x9), (0x20, 0x20)]
  | "cntrl" => some [(0x0, 0x1F), (0x7F, 0x7F)]
  | "digit" => some digits
  | "graph" => some [(0x21, 0x7E)]
  | "lower" => some [(0x61, 0x7A)]
  | "print" => some [(0x20, 0x7E)]
  | "punct" => some [(0x21, 0x2F), (0x3A, 0x40), (0x5B, 0x60), (0x7B, 0x7E)]
  | "space" => some [(0x9, 0xD), (0x20, 0x20)]
  | "upper" => some [(0x41, 0x5A)]
  | "word" => some wordChars
  | "xdigit" => some [(0x30, 0x39), (0x41, 0x46), (0x61, 0x66)]
  | _ => none

def property? (name : String) : Option RangeTable :=
  if name = "Any" then some [(0, lastCode)]
  else match Text.category? name with
    | some t => some t
    | none => Text.scripts.lookup name

end Quarry.Pattern
