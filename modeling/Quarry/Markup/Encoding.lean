import Quarry.Markup.CodePage

namespace Quarry.Markup

inductive Encoding
  | utf8
  | utf16 (bigEndian : Bool)
  /-- Two bytes a unit, in the order that a mark at the start tells. -/
  | utf16Marked
  | latin1
  | ascii
  | page (points : Array Nat)

namespace Encoding

def named : List (String × Encoding) :=
  [("utf-8", .utf8), ("utf8", .utf8), ("utf-16", .utf16Marked), ("utf16", .utf16Marked),
    ("utf-16le", .utf16 false), ("utf-16be", .utf16 true), ("iso-8859-1", .latin1),
    ("iso8859-1", .latin1), ("iso_8859-1", .latin1), ("iso-latin-1", .latin1),
    ("iso latin 1", .latin1), ("latin1", .latin1), ("l1", .latin1), ("cp819", .latin1),
    ("ibm819", .latin1), ("iso-ir-100", .latin1), ("csisolatin1", .latin1), ("ascii", .ascii),
    ("us-ascii", .ascii), ("us", .ascii), ("iso646-us", .ascii), ("csascii", .ascii),
    ("cp367", .ascii), ("ibm367", .ascii), ("html", .ascii)]

def find? (name : String) : Option Encoding :=
  let key := name.toLower
  match named.lookup key with
  | some e => some e
  | none => (codePages.find? (·.names.contains key)).map fun p => .page p.points.toArray

def continuation? (b : UInt8) : Option Nat :=
  if 0x80 ≤ b && b < 0xC0 then some (b.toNat - 0x80) else none

def scalar? (least n : Nat) : Option Char :=
  if least ≤ n ∧ n.isValidChar then some (Char.ofNat n) else none

def leadingUtf8? (bs : List UInt8) : Option (Char × Nat) :=
  match bs with
  | [] => none
  | a :: t =>
    if a < 0x80 then some (Char.ofNat a.toNat, 1)
    else if a < 0xC0 then none
    else match t.map continuation? with
      | some x :: rest =>
        if a < 0xE0 then (scalar? 0x80 ((a.toNat - 0xC0) * 64 + x)).map (·, 2)
        else match rest with
          | some y :: rest =>
            if a < 0xF0 then
              (scalar? 0x800 (((a.toNat - 0xE0) * 64 + x) * 64 + y)).map (·, 3)
            else match rest with
              | some z :: _ =>
                if a < 0xF8 then
                  (scalar? 0x10000 ((((a.toNat - 0xF0) * 64 + x) * 64 + y) * 64 + z)).map (·, 4)
                else none
              | _ => none
          | _ => none
      | _ => none

/-- Decodes the eight-bit form; `skip` bytes belong to the character before. -/
def decodeUtf8 : Nat → List UInt8 → List (Option Char)
  | _, [] => []
  | skip + 1, _ :: bs => decodeUtf8 skip bs
  | 0, b :: bs => match leadingUtf8? (b :: (bs.take 3)) with
    | some (c, n) => some c :: decodeUtf8 (n - 1) bs
    | none => none :: decodeUtf8 0 bs

def units (bigEndian : Bool) : List UInt8 → List Nat
  | a :: b :: bs =>
    (if bigEndian then a.toNat * 256 + b.toNat else b.toNat * 256 + a.toNat) :: units bigEndian bs
  | _ => []

/-- Units as characters, two of them for a character beyond the first plane. -/
def decodeUnits : List Nat → List (Option Char)
  | [] => []
  | h :: l :: us =>
    if 0xD800 ≤ h ∧ h < 0xDC00 ∧ 0xDC00 ≤ l ∧ l < 0xE000 then
      some (Char.ofNat (0x10000 + (h - 0xD800) * 1024 + (l - 0xDC00))) :: decodeUnits us
    else scalar? 0 h :: decodeUnits (l :: us)
  | [u] => [scalar? 0 u]

def decodeByte (upper : UInt8 → Option Char) (b : UInt8) : Option Char :=
  if b < 0x80 then some (Char.ofNat b.toNat) else upper b

def decode (e : Encoding) (bs : List UInt8) : List (Option Char) :=
  match e with
  | utf8 => decodeUtf8 0 bs
  | utf16 big => decodeUnits (units big bs)
  | utf16Marked => match bs with
    | 0xFE :: 0xFF :: _ => decodeUnits (units true bs)
    | _ => decodeUnits (units false bs)
  | latin1 => bs.map fun b => some (Char.ofNat b.toNat)
  | ascii => bs.map (decodeByte fun _ => none)
  | page points => bs.map (decodeByte (CodePage.char? points))

/-- The encoding that the first bytes give away, by a mark or by how they write the first
character of a tag. -/
def detect (bs : List UInt8) : Option Encoding :=
  match bs with
  | 0xEF :: 0xBB :: 0xBF :: _ => some .utf8
  | 0xFE :: 0xFF :: _ => some (.utf16 true)
  | 0xFF :: 0xFE :: _ => some (.utf16 false)
  | 0x3C :: 0x00 :: _ => some (.utf16 false)
  | 0x00 :: 0x3C :: _ => some (.utf16 true)
  | _ => none

def withoutMark : List (Option Char) → List (Option Char)
  | some c :: cs => if c.toNat = 0xFEFF then cs else some c :: cs
  | cs => cs

end Encoding

def utf8Bytes (s : String) : List UInt8 := s.toUTF8.toList

end Quarry.Markup
