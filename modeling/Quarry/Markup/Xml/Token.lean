import Quarry.Markup.Character
import Quarry.Text.RangeTable

namespace Quarry.Markup.Xml

inductive ValuePart
  | char (c : Char)
  | entity (name : String)
  deriving DecidableEq, Repr

inductive Token
  | startTag (name : String) (attributes : List (String × List ValuePart)) (closed : Bool)
  | endTag (name : String)
  | text (s : List Char)
  /-- A character that was referred to, which never counts as mere layout. -/
  | literal (s : List Char)
  | quoted (s : List Char)
  | reference (name : String)
  | comment (s : List Char)
  | instruction (target : String) (s : List Char)
  deriving DecidableEq, Repr

def predefined? (name : String) : Option Char :=
  [("lt", '<'), ("gt", '>'), ("amp", '&'), ("quot", '"'), ("apos", '\'')].lookup name

def documentChar? (n : Nat) : Option Char :=
  if h : n.isValidChar then
    let c := Char.ofNatAux n h
    if isDocumentChar c then some c else none
  else none

def splitCharNumber? (base : Nat) (digit : Char → Option Nat) (s : List Char) :
    Option (Char × List Char) :=
  let ds := s.takeWhile fun c => (digit c).isSome
  match ds, s.dropWhile fun c => (digit c).isSome with
  | [], _ => none
  | ds, ';' :: r => (documentChar? (numberOf base digit ds)).map (·, r)
  | _, _ => none

def splitReference? (s : List Char) : Option (ValuePart × List Char) :=
  match s with
  | '#' :: 'x' :: t => (splitCharNumber? 16 Text.hexDigit? t).map fun (c, r) => (.char c, r)
  | '#' :: t => (splitCharNumber? 10 decimalDigit? t).map fun (c, r) => (.char c, r)
  | _ => match splitName? s with
    | some (name, ';' :: r) => match predefined? name with
      | some c => some (.char c, r)
      | none => some (.entity name, r)
    | _ => none

/-- An attribute value up to its closing quote. White space is written as spaces, except where a
reference gives it. -/
def splitValue? (quote : Char) : Nat → List Char → Option (List ValuePart × List Char)
  | 0, _ => none
  | fuel + 1, s =>
    match s with
    | [] => none
    | c :: t =>
      if c = quote then some ([], t)
      else if c = '<' then none
      else if c = '&' then
        match splitReference? t with
        | none => none
        | some (p, r) => (splitValue? quote fuel r).map fun (ps, u) => (p :: ps, u)
      else
        let p := if Text.isMarkupBlank c then ' ' else c
        if isDocumentChar c then
          (splitValue? quote fuel t).map fun (ps, u) => (.char p :: ps, u)
        else none

def splitQuoted? (s : List Char) : Option (List ValuePart × List Char) :=
  match s with
  | '"' :: t => splitValue? '"' (t.length + 1) t
  | '\'' :: t => splitValue? '\'' (t.length + 1) t
  | _ => none

/-- The attributes of a tag, up to its end; each stands after a blank. The flag tells that the tag
closes its element at once. -/
def splitAttributes? :
    Nat → List Char → Option (List (String × List ValuePart) × Bool × List Char)
  | 0, _ => none
  | fuel + 1, s =>
    match skipBlanks s with
    | '>' :: t => some ([], false, t)
    | '/' :: '>' :: t => some ([], true, t)
    | t =>
      if t.length = s.length then none
      else do
        let (name, u) ← splitName? t
        match skipBlanks u with
        | '=' :: v =>
          let (value, w) ← splitQuoted? (skipBlanks v)
          let (rest, closed, x) ← splitAttributes? fuel w
          return ((name, value) :: rest, closed, x)
        | _ => none

def splitComment? (s : List Char) : Option (Token × List Char) := do
  let (body, r) ← splitBefore? ['-', '-'] s
  match r with
  | '>' :: t => if body.all isDocumentChar then some (.comment body, t) else none
  | _ => none

def isTarget (name : String) : Bool :=
  name.toLower != "xml" && !name.toList.contains ':'

def splitInstruction? (s : List Char) : Option (Token × List Char) := do
  let (target, t) ← splitName? s
  let (body, r) ← splitBefore? ['?', '>'] t
  let apart := body.isEmpty || body.head?.any Text.isMarkupBlank
  if isTarget target && apart && body.all isDocumentChar then
    return (.instruction target (skipBlanks body), r)
  else none

/-- Character data up to the next tag or reference; it does not hold the end of a quoted section. -/
def splitText? (s : List Char) : Option (List Char × List Char) :=
  let inside c := c != '<' && c != '&'
  let body := s.takeWhile inside
  if body.all isDocumentChar && (splitBefore? [']', ']', '>'] body).isNone then
    some (body, s.dropWhile inside)
  else none

def splitToken? (s : List Char) : Option (Token × List Char) :=
  match s with
  | [] => none
  | '<' :: '/' :: t => do
    let (name, r) ← splitName? t
    match skipBlanks r with
    | '>' :: u => some (.endTag name, u)
    | _ => none
  | '<' :: '!' :: '-' :: '-' :: t => splitComment? t
  | '<' :: '!' :: t => do
    let u ← after? "[CDATA[".toList t
    let (body, r) ← splitBefore? [']', ']', '>'] u
    if body.all isDocumentChar then some (.quoted body, r) else none
  | '<' :: '?' :: t => splitInstruction? t
  | '<' :: t => do
    let (name, r) ← splitName? t
    let (attributes, closed, u) ← splitAttributes? (r.length + 1) r
    return (.startTag name attributes closed, u)
  | '&' :: t => do
    match ← splitReference? t with
    | (.char c, r) => return (.literal [c], r)
    | (.entity name, r) => return (.reference name, r)
  | _ => do
    let (body, r) ← splitText? s
    return (.text body, r)

/-- The tokens of some content. Every token takes a character at least. -/
def scan? : Nat → List Char → Option (List Token)
  | _, [] => some []
  | 0, _ :: _ => none
  | fuel + 1, s => do
    let (t, r) ← splitToken? s
    let ts ← scan? fuel r
    return t :: ts

def tokens? (s : List Char) : Option (List Token) := scan? s.length s

end Quarry.Markup.Xml
