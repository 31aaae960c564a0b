import Quarry.Markup.Xml.Token

namespace Quarry.Markup.Xml

/-- What an entity stands for: characters written in the document, or a resource outside it. -/
inductive EntityValue
  | internal (s : List Char)
  | external
  deriving DecidableEq, Repr

structure DeclaredAttribute where
  element : String
  name : String
  kind : String
  default? : Option (List ValuePart)
  deriving Repr

structure Declarations where
  entities : List (String × EntityValue)
  parameters : List (String × List Char)
  attributes : List DeclaredAttribute
  mixed : List (String × Bool)
  complete : Bool
  deriving Repr

namespace Declarations

def none : Declarations := ⟨[], [], [], [], true⟩

def entity? (d : Declarations) (name : String) : Option EntityValue := d.entities.lookup name

end Declarations

/-- The value of an entity: references to characters are replaced, those to entities stay. -/
def splitEntityValue? (quote : Char) : Nat → List Char → Option (List Char × List Char)
  | 0, _ => none
  | fuel + 1, s =>
    match s with
    | [] => none
    | '%' :: _ => none
    | '&' :: '#' :: t => do
      match ← splitReference? ('#' :: t) with
      | (.char c, r) =>
        let (cs, u) ← splitEntityValue? quote fuel r
        return (c :: cs, u)
      | _ => none
    | '&' :: t => do
      let (name, r) ← splitName? t
      match r with
      | ';' :: u =>
        let (cs, v) ← splitEntityValue? quote fuel u
        return ('&' :: name.toList ++ ';' :: cs, v)
      | _ => none
    | c :: t =>
      if c = quote then some ([], t)
      else if isDocumentChar c then
        (splitEntityValue? quote fuel t).map fun (cs, u) => (c :: cs, u)
      else none

def skipLiteral? (s : List Char) : Option (List Char) :=
  match skipBlanks s with
  | '"' :: t => (splitBefore? ['"'] t).map Prod.snd
  | '\'' :: t => (splitBefore? ['\''] t).map Prod.snd
  | _ => none

def needBlanks? (s : List Char) : Option (List Char) :=
  match s with
  | c :: t => if Text.isMarkupBlank c then some (skipBlanks t) else none
  | [] => none

def skipExternal? (s : List Char) : Option (Bool × List Char) :=
  match after? "SYSTEM".toList s, after? "PUBLIC".toList s with
  | some t, _ => (skipLiteral? t).map (true, ·)
  | _, some t => do
    let u ← skipLiteral? t
    let v ← skipLiteral? u
    return (true, v)
  | _, _ => some (false, s)

def closeDeclaration? (s : List Char) : Option (List Char) :=
  match skipBlanks s with
  | '>' :: t => some t
  | _ => none

def splitOutside? (s : List Char) : Option (List Char) := do
  let (found, t) ← skipExternal? s
  if !found then none
  else match after? "NDATA".toList (skipBlanks t) with
    | some u => (splitLocalName? (← needBlanks? u)).map Prod.snd
    | none => some t

def splitEntityContent? (s : List Char) : Option (EntityValue × List Char) :=
  let quoted q t := (splitEntityValue? q (t.length + 1) t).map fun (x, r) => (.internal x, r)
  match s with
  | '"' :: t => quoted '"' t
  | '\'' :: t => quoted '\'' t
  | _ => (splitOutside? s).map (.external, ·)

def readEntity? (d : Declarations) (s : List Char) : Option (Declarations × List Char) := do
  let t ← needBlanks? s
  let (parameter, t) ← match t with
    | '%' :: u => (needBlanks? u).map (true, ·)
    | _ => some (false, t)
  let (name, u) ← splitLocalName? t
  let (value, rest) ← splitEntityContent? (← needBlanks? u)
  let rest ← closeDeclaration? rest
  match parameter, value with
  | true, .internal x => return ({ d with parameters := d.parameters ++ [(name, x)] }, rest)
  | true, .external => return (d, rest)
  | false, v => return ({ d with entities := d.entities ++ [(name, v)] }, rest)

def splitAttributeKind? (s : List Char) : Option (String × List Char) :=
  let choices t := (splitBefore? [')'] t).map fun (_, r) => ("choice", r)
  match s with
  | '(' :: t => choices t
  | _ => do
    let (word, r) ← splitName? s
    if word = "NOTATION" then
      match skipBlanks r with
      | '(' :: t => choices t
      | _ => none
    else if ["CDATA", "ID", "IDREF", "IDREFS", "ENTITY", "ENTITIES", "NMTOKEN", "NMTOKENS"].contains
        word then
      some (word, r)
    else none

def splitDefault? (s : List Char) : Option (Option (List ValuePart) × List Char) :=
  match after? "#REQUIRED".toList s, after? "#IMPLIED".toList s, after? "#FIXED".toList s with
  | some r, _, _ | _, some r, _ => some (none, r)
  | _, _, some r => (splitQuoted? (skipBlanks r)).map fun (v, u) => (some v, u)
  | _, _, _ => (splitQuoted? s).map fun (v, u) => (some v, u)

def readAttributes? (element : String) :
    Nat → Declarations → List Char → Option (Declarations × List Char)
  | 0, _, _ => none
  | fuel + 1, d, s =>
    match skipBlanks s with
    | '>' :: t => some (d, t)
    | t => do
      let (name, u) ← splitName? t
      let (kind, v) ← splitAttributeKind? (← needBlanks? u)
      let (value, w) ← splitDefault? (← needBlanks? v)
      let known := d.attributes.any fun a => a.element = element && a.name = name
      let added := if known then d.attributes else d.attributes ++ [⟨element, name, kind, value⟩]
      readAttributes? element fuel { d with attributes := added } w

def readElement? (d : Declarations) (s : List Char) : Option (Declarations × List Char) := do
  let (name, t) ← splitName? (← needBlanks? s)
  let (body, r) ← splitBefore? ['>'] (← needBlanks? t)
  let mixed := body.head? != some '(' || (splitBefore? "#PCDATA".toList body).isSome
  return ({ d with mixed := d.mixed ++ [(name, mixed)] }, r)

def readSubset? : Nat → Declarations → List Char → Option (Declarations × List Char)
  | 0, _, _ => none
  | fuel + 1, d, s =>
    match skipBlanks s with
    | [] => none
    | ']' :: t => some (d, t)
    | '%' :: t => do
      let (name, u) ← splitName? t
      match u with
      | ';' :: v => match d.parameters.lookup name with
        | some x => readSubset? fuel { d with complete := false } (x ++ ' ' :: v)
        | none => readSubset? fuel { d with complete := false } v
      | _ => none
    | '<' :: '?' :: t => do
      let (_, r) ← splitInstruction? t
      readSubset? fuel d r
    | '<' :: '!' :: '-' :: '-' :: t => do
      let (_, r) ← splitComment? t
      readSubset? fuel d r
    | '<' :: '!' :: t =>
      match after? "ENTITY".toList t, after? "ATTLIST".toList t, after? "ELEMENT".toList t,
        after? "NOTATION".toList t with
      | some u, _, _, _ => do
        let (e, r) ← readEntity? d u
        readSubset? fuel e r
      | _, some u, _, _ => do
        let (name, v) ← splitName? (← needBlanks? u)
        let (e, r) ← readAttributes? name (v.length + 1) d v
        readSubset? fuel e r
      | _, _, some u, _ => do
        let (e, r) ← readElement? d u
        readSubset? fuel e r
      | _, _, _, some u => do
        let (_, v) ← splitLocalName? (← needBlanks? u)
        let (found, w) ← skipExternal? (← needBlanks? v)
        if found then readSubset? fuel d (← closeDeclaration? w) else none
      | _, _, _, _ => none
    | _ => none

/-- How many steps a subset may take beyond its length, for parameters that are put in. -/
def subsetReserve : Nat := 2000

def readDoctype? (s : List Char) : Option (Declarations × List Char) := do
  let (_, t) ← splitName? (← needBlanks? s)
  let (found, u) ← skipExternal? (skipBlanks t)
  let d := { Declarations.none with complete := !found }
  match skipBlanks u with
  | '[' :: v =>
    let (e, w) ← readSubset? (v.length + subsetReserve) d v
    return (e, ← closeDeclaration? w)
  | v => return (d, ← closeDeclaration? v)

end Quarry.Markup.Xml
