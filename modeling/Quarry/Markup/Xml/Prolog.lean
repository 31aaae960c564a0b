import Quarry.Markup.Encoding
import Quarry.Markup.Xml.Reading

namespace Quarry.Markup.Xml

def splitPseudo? (name : String) (s : List Char) : Option (List Char × List Char) := do
  let t ← after? name.toList (← needBlanks? s)
  match skipBlanks t with
  | '=' :: u => match skipBlanks u with
    | '"' :: v => splitBefore? ['"'] v
    | '\'' :: v => splitBefore? ['\''] v
    | _ => none
  | _ => none

def isVersion (s : List Char) : Bool :=
  match s with
  | '1' :: '.' :: d :: ds => (d :: ds).all Char.isDigit
  | _ => false

def isEncodingName (s : List Char) : Bool :=
  match s with
  | c :: cs => c.isAlpha && cs.all fun c => c.isAlphanum || c = '.' || c = '_' || c = '-'
  | [] => false

def splitOptional? (name : String) (ok : List Char → Bool) (s : List Char) :
    Option (Option (List Char) × List Char) :=
  match splitPseudo? name s with
  | some (v, r) => if ok v then some (some v, r) else none
  | none => some (none, s)

def splitDeclaration? (s : List Char) : Option (Option String × List Char) :=
  match after? "<?xml".toList s with
  | none => some (none, s)
  | some t =>
    if !t.head?.any Text.isMarkupBlank then some (none, s)
    else do
      let (version, u) ← splitPseudo? "version" t
      let (encoding, v) ← splitOptional? "encoding" isEncodingName u
      let (_, w) ← splitOptional? "standalone" (fun x => x = "yes".toList || x = "no".toList) v
      match skipBlanks w with
      | '?' :: '>' :: r =>
        if isVersion version then some (encoding.map String.ofList, r) else none
      | _ => none

/-- What stands before the root element: comments and instructions, and one document type. -/
def splitProlog? :
    Nat → Option Declarations → List Char → Option (List Token × Option Declarations × List Char)
  | 0, _, _ => none
  | fuel + 1, d, s =>
    let u := skipBlanks s
    match after? "<!DOCTYPE".toList u, u, d with
    | some t, _, none => do
      let (e, r) ← readDoctype? t
      splitProlog? fuel (some e) r
    | some _, _, some _ => none
    | none, '<' :: '?' :: t, _ => do
      let (x, r) ← splitInstruction? t
      let (xs, e, v) ← splitProlog? fuel d r
      return (x :: xs, e, v)
    | none, '<' :: '!' :: '-' :: '-' :: t, _ => do
      let (x, r) ← splitComment? t
      let (xs, e, v) ← splitProlog? fuel d r
      return (x :: xs, e, v)
    | none, _, _ => some ([], d, u)

def readDocument? (config : Config) (s : List Char) : Option Document := do
  let (before, d, rest) ← splitProlog? (s.length + 1) none s
  let ts ← tokens? rest
  documentOf? config (d.getD .none) (before ++ ts)

def decodeAll? (e : Encoding) (bs : List UInt8) : Option (List Char) :=
  ((Encoding.withoutMark (e.decode bs)).mapM id).map unifyLineEnds

def declarationText (bs : List UInt8) : List Char :=
  let plain := (bs.takeWhile (· < 0x80)).map fun b => Char.ofNat b.toNat
  match splitBefore? ['?', '>'] plain with
  | some (t, _) => t ++ ['?', '>']
  | none => []

/-- The encoding of a document: the one given from outside, else the one that its bytes give away,
else the declared one, else the eight-bit form. -/
def encodingOf? (given : Option Encoding) (bs : List UInt8) : Option Encoding :=
  match given, Encoding.detect bs with
  | some e, _ | none, some e => some e
  | none, none => match splitDeclaration? (declarationText bs) with
    | some (some name, _) => Encoding.find? name
    | _ => some .utf8

def parse? (config : Config) (given : Option Encoding) (bs : List UInt8) : Option Document := do
  let e ← encodingOf? given bs
  let s ← decodeAll? e bs
  let (_, rest) ← splitDeclaration? s
  readDocument? config rest

end Quarry.Markup.Xml
