import Quarry.Markup.Html.NamedCharacter

namespace Quarry.Markup.Html

inductive Token
  | startTag (name : String) (attributes : List (String × Option String)) (closed : Bool)
  | endTag (name : String)
  | text (s : List Char)
  | raw (s : List Char)
  | comment (s : List Char)
  | doctype (publicId : String)
  deriving DecidableEq, Repr

def lowerAscii (s : List Char) : List Char := s.map Char.toLower

def isHtmlBlank (c : Char) : Bool := Text.isSpace c

/-! ### References -/

def remapped : List (Nat × Nat) :=
  [(0x80, 0x20AC), (0x82, 0x201A), (0x83, 0x192), (0x84, 0x201E), (0x85, 0x2026), (0x86, 0x2020),
    (0x87, 0x2021), (0x88, 0x2C6), (0x89, 0x2030), (0x8A, 0x160), (0x8B, 0x2039), (0x8C, 0x152),
    (0x8E, 0x17D), (0x91, 0x2018), (0x92, 0x2019), (0x93, 0x201C), (0x94, 0x201D), (0x95, 0x2022),
    (0x96, 0x2013), (0x97, 0x2014), (0x98, 0x2DC), (0x99, 0x2122), (0x9A, 0x161), (0x9B, 0x203A),
    (0x9C, 0x153), (0x9E, 0x17E), (0x9F, 0x178)]

def replacement : Char := Char.ofNat 0xFFFD

/-- The character of a number; numbers of no character give the replacement character. -/
def numberedCharacter (n : Nat) : Char :=
  match remapped.lookup n with
  | some m => Char.ofNat m
  | none => if n = 0 ∨ ¬ n.isValidChar then replacement else Char.ofNat n

/-- Reads the digits of a numbered reference; its semicolon may be missing. -/
def splitNumber? (base : Nat) (digit : Char → Option Nat) (s : List Char) :
    Option (List Char × List Char) :=
  let ds := s.takeWhile fun c => (digit c).isSome
  if ds.isEmpty then none
  else
    let c := numberedCharacter (numberOf base digit ds)
    match s.dropWhile fun c => (digit c).isSome with
    | ';' :: r => some ([c], r)
    | r => some ([c], r)

/-- A reference after its ampersand: the characters that it stands for, and the rest. Inside an
attribute value a name without its semicolon is no reference when a name could go on there. -/
def splitReference? (inValue : Bool) (s : List Char) : Option (List Char × List Char) :=
  match s with
  | '#' :: 'x' :: t | '#' :: 'X' :: t => splitNumber? 16 Text.hexDigit? t
  | '#' :: t => splitNumber? 10 decimalDigit? t
  | _ => do
    let (n, r) ← leadingName? s
    let goesOn := n.name.getLast? != some ';' && r.head?.any fun c => c = '=' || c.isAlphanum
    if inValue && goesOn then none else return (n.characters, r)

def replaceReferences (inValue : Bool) : Nat → List Char → List Char
  | 0, s => s
  | _, [] => []
  | fuel + 1, c :: s =>
    if c = '&' then
      match splitReference? inValue s with
      | some (cs, r) => cs ++ replaceReferences inValue fuel r
      | none => c :: replaceReferences inValue fuel s
    else c :: replaceReferences inValue fuel s

/-! ### Tags -/

def endsTagName (c : Char) : Bool := isHtmlBlank c || c = '/' || c = '>'

def endsAttributeName (c : Char) : Bool := endsTagName c || c = '='

def splitWhile (p : Char → Bool) (s : List Char) : List Char × List Char :=
  (s.takeWhile p, s.dropWhile p)

def skipHtmlBlanks (s : List Char) : List Char := s.dropWhile isHtmlBlank

def attributeValue (s : List Char) : String :=
  String.ofList (replaceReferences true s.length s)

def splitValue (s : List Char) : String × List Char :=
  match s with
  | '"' :: t =>
    let (v, r) := splitWhile (· ≠ '"') t
    (attributeValue v, r.drop 1)
  | '\'' :: t =>
    let (v, r) := splitWhile (· ≠ '\'') t
    (attributeValue v, r.drop 1)
  | _ =>
    let (v, r) := splitWhile (fun c => !isHtmlBlank c && c != '>') s
    (attributeValue v, r)

/-- An attribute at the front of a tag's rest: its name, and its value if it has one. A first
character that could not go on a name still begins one. -/
def splitAttribute (first : Char) (s : List Char) : (String × Option String) × List Char :=
  let (more, r) := splitWhile (fun c => !endsAttributeName c) s
  let name := String.ofList (lowerAscii (first :: more))
  match skipHtmlBlanks r with
  | '=' :: t =>
    let (v, u) := splitValue (skipHtmlBlanks t)
    ((name, some v), u)
  | _ => ((name, none), r)

/-- The attributes of a tag up to its end, and whether the tag closes its element. A tag that the
text ends in counts as closed; of attributes with one name the first is kept. -/
def splitAttributes : Nat → List Char → List (String × Option String) × Bool × List Char
  | 0, s => ([], true, s)
  | fuel + 1, s =>
    match skipHtmlBlanks s with
    | [] => ([], true, [])
    | '>' :: t => ([], false, t)
    | '/' :: '>' :: t => ([], true, t)
    | '/' :: t => splitAttributes fuel t
    | c :: t =>
      let (a, r) := splitAttribute c t
      let (as, closed, u) := splitAttributes fuel r
      (a :: as.filter fun b => b.1 != a.1, closed, u)

def splitTagName (s : List Char) : String × List Char :=
  let (name, r) := splitWhile (fun c => !endsTagName c) s
  (String.ofList (lowerAscii name), r)

def behindTag (s : List Char) : List Char := (s.dropWhile (· ≠ '>')).drop 1

/-! ### Comments -/

/-- The content of a comment, which ends at two hyphens and a bracket, with or without an
exclamation mark between them, or else with the text. -/
def splitComment : List Char → List Char × List Char
  | '-' :: '-' :: '>' :: t => ([], t)
  | '-' :: '-' :: '!' :: '>' :: t => ([], t)
  | [] => ([], [])
  | c :: t =>
    let (body, r) := splitComment t
    (c :: body, r)

def readComment (s : List Char) : List Char × List Char :=
  match s with
  | '>' :: t => ([], t)
  | '-' :: '>' :: t => ([], t)
  | _ => splitComment s

/-- A declaration of no known kind counts as a comment up to the next bracket. -/
def readBogus (s : List Char) : List Char × List Char :=
  let (body, r) := splitWhile (· ≠ '>') s
  (body, r.drop 1)

def publicId (s : List Char) : String :=
  match splitBefore? "public".toList (lowerAscii s) with
  | none => ""
  | some (_, r) =>
    match skipHtmlBlanks r with
    | '"' :: t => String.ofList (t.takeWhile (· ≠ '"'))
    | '\'' :: t => String.ofList (t.takeWhile (· ≠ '\''))
    | _ => ""

/-! ### Raw content -/

inductive Content
  | markup
  | characters
  | raw
  | script
  | endless
  deriving DecidableEq, Repr

def contentOf (name : String) : Content :=
  if ["title", "textarea"].contains name then .characters
  else if ["style", "xmp", "iframe", "noembed", "noframes"].contains name then .raw
  else if name = "script" then .script
  else if name = "plaintext" then .endless
  else .markup

def startsTag (name : List Char) (s : List Char) : Bool :=
  lowerAscii (s.take name.length) = name && (s.drop name.length).head?.any endsTagName

def splitRaw (name : List Char) : List Char → List Char × List Char
  | [] => ([], [])
  | c :: t =>
    if c = '<' && t.head? == some '/' && startsTag name (t.drop 1) then ([], c :: t)
    else
      let (body, r) := splitRaw name t
      (c :: body, r)

/-- Where the reading of a script stands: outside of a comment, inside one, or inside a script
that a comment holds. -/
inductive ScriptState
  | plain
  | commented
  | nested
  deriving DecidableEq, Repr

def ScriptState.next (q : ScriptState) (s : List Char) : ScriptState :=
  match q, s with
  | .plain, '<' :: '!' :: '-' :: '-' :: _ => .commented
  | .commented, '-' :: '-' :: '>' :: _ | .nested, '-' :: '-' :: '>' :: _ => .plain
  | .commented, '<' :: t => if startsTag "script".toList t then .nested else .commented
  | .nested, '<' :: '/' :: t => if startsTag "script".toList t then .commented else .nested
  | q, _ => q

def splitScript : ScriptState → List Char → List Char × List Char
  | _, [] => ([], [])
  | q, c :: t =>
    let ends := c = '<' && t.head? == some '/' && startsTag "script".toList (t.drop 1)
    if ends && q ≠ .nested then ([], c :: t)
    else
      let (body, r) := splitScript (q.next (c :: t)) t
      (c :: body, r)

def readContent (name : String) (s : List Char) : List Token × List Char :=
  let token (body : List Char) : List Token := if body.isEmpty then [] else [.raw body]
  match contentOf name with
  | .markup => ([], s)
  | .characters =>
    let (body, r) := splitRaw name.toList s
    (token (replaceReferences false body.length body), r)
  | .raw =>
    let (body, r) := splitRaw name.toList s
    (token body, r)
  | .script =>
    let (body, r) := splitScript .plain s
    (token body, r)
  | .endless => (token s, [])

/-! ### Tokens -/

def opensMarkup (s : List Char) : Bool :=
  s.head?.any fun c => c.isAlpha || c = '/' || c = '!' || c = '?'

def splitText : List Char → List Char × List Char
  | [] => ([], [])
  | c :: t =>
    if c = '<' && opensMarkup t then ([], c :: t)
    else
      let (body, r) := splitText t
      (c :: body, r)

def splitToken (s : List Char) : List Token × List Char :=
  match s with
  | '<' :: '/' :: '>' :: t => ([], t)
  | '<' :: '/' :: c :: t =>
    if c.isAlpha then
      let (name, r) := splitTagName (c :: t)
      ([.endTag name], behindTag r)
    else
      let (body, r) := readBogus (c :: t)
      ([.comment body], r)
  | '<' :: '!' :: '-' :: '-' :: t =>
    let (body, r) := readComment t
    ([.comment body], r)
  | '<' :: '!' :: t =>
    let (body, r) := readBogus t
    if lowerAscii (body.take 7) = "doctype".toList then ([.doctype (publicId body)], r)
    else ([.comment body], r)
  | '<' :: '?' :: t =>
    let (body, r) := readBogus ('?' :: t)
    ([.comment body], r)
  | '<' :: c :: t =>
    if c.isAlpha then
      let (name, r) := splitTagName (c :: t)
      let (attributes, closed, u) := splitAttributes (r.length + 1) r
      let (content, v) := if closed then ([], u) else readContent name u
      (.startTag name attributes closed :: content, v)
    else
      let (body, r) := splitText (c :: t)
      ([.text (replaceReferences false (body.length + 1) ('<' :: body))], r)
  | _ =>
    let (body, r) := splitText s
    ([.text (replaceReferences false body.length body)], r)

/-- The tokens of a text. Every step takes a character at least. -/
def scan : Nat → List Char → List Token
  | _, [] => []
  | 0, _ :: _ => []
  | fuel + 1, s =>
    let (ts, r) := splitToken s
    ts ++ scan fuel r

def tokens (s : List Char) : List Token := scan s.length s

end Quarry.Markup.Html
