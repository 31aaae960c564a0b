import Quarry.Text.Blank

namespace Quarry.Markup

def inRanges (ranges : List (Nat × Nat)) (c : Char) : Bool :=
  ranges.any fun r => r.1 ≤ c.toNat && c.toNat ≤ r.2

/-- A character that a document may hold: no control but tab and line ends, no noncharacter at the
end of the first plane. -/
def isDocumentChar (c : Char) : Bool :=
  inRanges [(0x9, 0xA), (0xD, 0xD), (0x20, 0xD7FF), (0xE000, 0xFFFD), (0x10000, 0x10FFFF)] c

def isNameStart (c : Char) : Bool :=
  inRanges [(0x41, 0x5A), (0x5F, 0x5F), (0x61, 0x7A), (0xC0, 0xD6), (0xD8, 0xF6), (0xF8, 0x2FF),
    (0x370, 0x37D), (0x37F, 0x1FFF), (0x200C, 0x200D), (0x2070, 0x218F), (0x2C00, 0x2FEF),
    (0x3001, 0xD7FF), (0xF900, 0xFDCF), (0xFDF0, 0xFFFD), (0x10000, 0xEFFFF)] c

def isNameChar (c : Char) : Bool :=
  isNameStart c ||
    inRanges [(0x2D, 0x2E), (0x30, 0x39), (0xB7, 0xB7), (0x300, 0x36F), (0x203F, 0x2040)] c

def splitLocalName? (s : List Char) : Option (String × List Char) :=
  match s with
  | [] => none
  | c :: t =>
    if isNameStart c then
      some (String.ofList (c :: t.takeWhile isNameChar), t.dropWhile isNameChar)
    else none

def splitName? (s : List Char) : Option (String × List Char) :=
  let start c := isNameStart c || c = ':'
  let inside c := isNameChar c || c = ':'
  match s with
  | [] => none
  | c :: t =>
    if start c then some (String.ofList (c :: t.takeWhile inside), t.dropWhile inside) else none

def skipBlanks (s : List Char) : List Char := s.dropWhile Text.isMarkupBlank

def after? : List Char → List Char → Option (List Char)
  | [], s => some s
  | _ :: _, [] => none
  | p :: ps, c :: s => if p = c then after? ps s else none

def splitBefore? (mark : List Char) : List Char → Option (List Char × List Char)
  | [] => (after? mark []).map fun r => ([], r)
  | c :: s => match after? mark (c :: s) with
    | some r => some ([], r)
    | none => (splitBefore? mark s).map fun (t, r) => (c :: t, r)

def decimalDigit? (c : Char) : Option Nat :=
  if c.isDigit then some (c.toNat - 48) else none

def numberOf (base : Nat) (digit : Char → Option Nat) (ds : List Char) : Nat :=
  ds.foldl (fun n d => base * n + (digit d).getD 0) 0

/-- A line ends with one line feed, however it is written. -/
def unifyLineEnds : List Char → List Char
  | '\r' :: '\n' :: s => '\n' :: unifyLineEnds s
  | '\r' :: s => '\n' :: unifyLineEnds s
  | c :: s => c :: unifyLineEnds s
  | [] => []

end Quarry.Markup
