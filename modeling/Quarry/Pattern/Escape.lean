import Quarry.Markup.Character
import Quarry.Pattern.CharSet
import Quarry.Pattern.Flaw

namespace Quarry.Pattern

open Text (RangeTable hexDigit?)

def octalDigit? (c : Char) : Option Nat :=
  if '0' ≤ c ∧ c ≤ '7' then some (c.toNat - 48) else none

def octalCode : Nat → Nat → List Char → Nat × List Char
  | 0, code, s => (code, s)
  | _, code, [] => (code, [])
  | n + 1, code, c :: s => match octalDigit? c with
    | some d => octalCode n (8 * code + d) s
    | none => (code, c :: s)

def bracedCode (s : List Char) : Bool → Nat → List Char → Except Flaw (Nat × List Char)
  | begun, _, [] => if begun then fail .badEscape s else fail .cutOff []
  | begun, code, c :: t => match hexDigit? c with
    | some d =>
      if 16 * code + d > lastCode then fail .badEscape (readUpTo s t)
      else bracedCode s true (16 * code + d) t
    | none => if c = '}' ∧ begun then .ok (code, t) else fail .badEscape (readUpTo s t)

def controlLetter? : Char → Option Nat
  | 'a' => some 7
  | 'f' => some 12
  | 'n' => some 10
  | 'r' => some 13
  | 't' => some 9
  | 'v' => some 11
  | _ => none

def escapedCode (s : List Char) : Except Flaw (Nat × List Char) :=
  match s.drop 1 with
  | [] => fail .trailingBackslash []
  | c :: t =>
    if c = 'x' then match t with
      | '{' :: u => bracedCode s false 0 u
      | a :: b :: u => match hexDigit? a, hexDigit? b with
        | some m, some n => .ok (16 * m + n, u)
        | _, _ => fail .badEscape (readUpTo s u)
      | _ => fail .badEscape s
    else match controlLetter? c, octalDigit? c with
      | some n, _ => .ok (n, t)
      | none, some d =>
        if d ≠ 0 ∧ ((t.head?).bind octalDigit?).isNone then fail .badEscape (readUpTo s t)
        else .ok (octalCode 2 d t)
      | none, none =>
        if c.toNat < 0x80 ∧ !c.isAlphanum then .ok (c.toNat, t)
        else fail .badEscape (readUpTo s t)

/-- The class of a property, by one letter or a name between braces; a circumflex before the name
means the opposite. -/
def propertyPart (folded : Bool) (s : List Char) : Except Flaw (Part × List Char) :=
  match s.drop 1 with
  | [] => fail .badRange s
  | p :: t =>
    let named (name rest : List Char) : Except Flaw (Part × List Char) :=
      let (negated, name) := match name with
        | '^' :: name => (p != 'P', name)
        | _ => (p == 'P', name)
      match property? (String.ofList name) with
      | some table => .ok (⟨table, negated, folded⟩, rest)
      | none => fail .badRange (readUpTo s rest)
    match t with
    | [] => fail .badRange s
    | '{' :: u => match Markup.splitBefore? ['}'] u with
      | some (name, rest) => named name rest
      | none => fail .badRange s
    | c :: rest => named [c] rest

def letterPart? (folded : Bool) : List Char → Option (Part × List Char)
  | '\\' :: c :: t => (letterClass? c).map fun (table, negated) => (⟨table, negated, folded⟩, t)
  | _ => none

def namedPart? (folded : Bool) (s : List Char) : Option (Except Flaw (Part × List Char)) :=
  match s with
  | '[' :: ':' :: t => (Markup.splitBefore? [':', ']'] t).map fun (name, rest) =>
    let (negated, base) := match name with
      | '^' :: base => (true, base)
      | _ => (false, name)
    match namedClass? (String.ofList base) with
    | some table => .ok (⟨table, negated, folded⟩, rest)
    | none => fail .badRange (readUpTo s rest)
  | _ => none

def bracketChar (whole s : List Char) : Except Flaw (Nat × List Char) :=
  match s with
  | [] => fail .missingBracket whole
  | '\\' :: _ => escapedCode s
  | c :: t => .ok (c.toNat, t)

/-- A character or a range inside a bracket. A dash before the closing bracket is a character. -/
def bracketRange (folded : Bool) (whole s : List Char) : Except Flaw (Part × List Char) := do
  let (low, t) ← bracketChar whole s
  let single := (Part.mk [(low, low)] false folded, t)
  match t with
  | '-' :: ']' :: _ | ['-'] => return single
  | '-' :: u =>
    let (high, v) ← bracketChar whole u
    if high < low then fail .badRange (readUpTo s v)
    return (⟨[(low, high)], false, folded⟩, v)
  | _ => return single

/-- The parts of a bracket up to its end. A closing bracket that comes first is a character. -/
def bracketParts (folded : Bool) (whole : List Char) :
    Nat → Bool → List Char → Except Flaw (List Part × List Char)
  | 0, _, _ => fail .missingBracket whole
  | fuel + 1, first, s => match s with
    | [] => fail .missingBracket whole
    | c :: t =>
      if c = ']' ∧ !first then .ok ([], t)
      else do
        let (part, rest) ← match namedPart? folded s, s, letterPart? folded s with
          | some r, _, _ => r
          | none, '\\' :: 'p' :: _ :: _, _ | none, '\\' :: 'P' :: _ :: _, _ =>
            propertyPart folded s
          | none, _, some r => .ok r
          | none, _, none => bracketRange folded whole s
        let (parts, end') ← bracketParts folded whole fuel false rest
        return (part :: parts, end')

def bracket (folded : Bool) (s : List Char) : Except Flaw (CharSet × List Char) := do
  let (negated, t) := match s.drop 1 with
    | '^' :: t => (true, t)
    | t => (false, t)
  let (parts, rest) ← bracketParts folded s (t.length + 1) true t
  return (⟨parts, negated⟩, rest)

end Quarry.Pattern
