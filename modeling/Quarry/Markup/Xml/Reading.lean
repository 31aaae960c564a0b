import Quarry.Config
import Quarry.Markup.Xml.Scope
import Quarry.Tree.Growth

namespace Quarry.Markup.Xml

/-- What white space alone means in an element: not yet known, part of the text, kept by request,
or layout by request. -/
inductive Layout
  | unknown
  | mixed
  | preserve
  | standard
  deriving DecidableEq, Repr

structure Scope where
  name : String
  bindings : List Binding
  layout : Layout

structure Reading where
  growth : Growth
  scopes : List Scope

namespace Reading

def bindings (r : Reading) : List Binding :=
  (r.scopes.head?.map Scope.bindings).getD []

def layout (r : Reading) : Layout :=
  (r.scopes.head?.map Scope.layout).getD .unknown

def markMixed (r : Reading) : Reading :=
  match r.scopes with
  | s :: ss =>
    if s.layout = .unknown then { r with scopes := { s with layout := .mixed } :: ss } else r
  | [] => r

def addText (r : Reading) (s : List Char) : Reading :=
  { r with growth := r.growth.addText (String.ofList s) }

def addItem (r : Reading) (i : Item) : Reading := { r with growth := r.growth.addItem i }

end Reading

/-- A reference continues a text, so that blanks before it are no layout. -/
def Token.isReference : Token → Bool
  | .reference _ | .literal _ => true
  | _ => false

def Token.isEndTag : Token → Bool
  | .endTag _ => true
  | _ => false

/-- Blanks that are layout only: a tag follows, and the element has no text so far. What the
document type says about the element's content comes first. -/
def isLayout (d : Declarations) (r : Reading) (next : Option Token) : Bool :=
  match r.layout, r.growth.opened, next with
  | .preserve, _, _ | .mixed, _, _ | _, [], _ | _, _, none => false
  | _, o :: _, some t =>
    match (r.scopes.head?.bind fun s => d.mixed.lookup s.name) with
    | some mixed => !mixed
    | none =>
      !t.isReference && !(o.isEmpty && t.isEndTag) && !o.endsInText &&
        !o.startsWithText

/-- Character data: layout is dropped when that is asked for. Outside the root only blanks may
stand. -/
def readText (config : Config) (d : Declarations) (r : Reading) (s : List Char)
    (next : Option Token) : Option Reading :=
  let blank := s.all Text.isMarkupBlank
  if r.scopes.isEmpty then if blank then some r else none
  else if !config.removeBlankText || !s.head?.any Text.isMarkupBlank then some (r.addText s)
  else if blank && isLayout d r next then some r
  else some (r.addText s).markMixed

/-- An attribute value of a declared kind other than plain text has its blanks squeezed. -/
def squeezeValue (s : List Char) : List Char :=
  let words := (String.ofList s).splitOn " "
  (" ".intercalate (words.filter (· ≠ ""))).toList

def allAttributes? (d : Declarations) (element : String)
    (given : List (String × List ValuePart)) : Option (List (String × List Char × Bool)) := do
  let declared := d.attributes.filter (·.element = element)
  let kindOf name := ((declared.find? (·.name = name)).map (·.kind)).getD "CDATA"
  let added := declared.filterMap fun a =>
    if given.any (·.1 = a.name) then none else a.default?.map (a.name, ·)
  if !(given.map Prod.fst).Nodup then none
  else (given ++ added).mapM fun (name, parts) => do
    let value ← valueChars? d parts
    let kind := kindOf name
    return (name, if kind = "CDATA" then value else squeezeValue value, kind = "ID")

def splitBindings? (attributes : List (String × List Char × Bool)) :
    Option (List Binding × List (String × List Char × Bool)) := do
  let bound ← attributes.mapM fun (name, value, _) => match declares? name with
    | some q => checkBinding? (q, String.ofList value)
    | none => some []
  return (bound.flatten, attributes.filter fun a => (declares? a.1).isNone)

def resolveAttributes? (bindings : List Binding)
    (attributes : List (String × List Char × Bool)) : Option (List Attribute) := do
  let resolved ← attributes.mapM fun (name, value, isId) => do
    let n ← attributeName? bindings name
    let isId := isId || n.expanded = "\x7b" ++ xmlSpace ++ "\x7did"
    return (⟨n, String.ofList value, isId⟩ : Attribute)
  if (resolved.map fun a => a.name.expanded).Nodup then return resolved else none

def layoutOf (outer : Layout) (attributes : List Attribute) : Layout :=
  let asked := attributes.find? fun a => a.name.expanded = "\x7b" ++ xmlSpace ++ "\x7dspace"
  match asked.map Attribute.value with
  | some "preserve" => .preserve
  | some "default" => .standard
  | _ => if outer = .mixed then .unknown else outer

def readStartTag (config : Config) (d : Declarations) (r : Reading) (name : String)
    (given : List (String × List ValuePart)) (closed : Bool) : Option Reading := do
  if config.maxDepth ≤ r.scopes.length then none
  else if r.scopes.isEmpty && r.growth.top.any Item.isElement then none
  else
    let (bound, rest) ← splitBindings? (← allAttributes? d name given)
    let bindings := bound ++ r.bindings
    let n ← elementName? bindings name
    let attributes ← resolveAttributes? bindings rest
    let growth := r.growth.push (.element n attributes bound)
    let scope : Scope := ⟨name, bindings, layoutOf r.layout attributes⟩
    return if closed then { r with growth := growth.pop } else ⟨growth, scope :: r.scopes⟩

def readEndTag (r : Reading) (name : String) : Option Reading :=
  match r.scopes with
  | s :: ss => if s.name = name then some ⟨r.growth.pop, ss⟩ else none
  | [] => none

def readToken (config : Config) (d : Declarations) (r : Reading) (t : Token)
    (next : Option Token) : Option Reading :=
  match t with
  | .text s => readText config d r s next
  | .literal s | .quoted s => if r.scopes.isEmpty then none else some (r.addText s)
  | .startTag name given closed => readStartTag config d r name given closed
  | .endTag name => readEndTag r name
  | .comment s =>
    if config.removeComments then some r
    else some (r.addItem (.mk .comment (String.ofList s) [] ""))
  | .instruction target s => some (r.addItem (.mk (.instruction target) (String.ofList s) [] ""))
  | .reference name => do
    let ts ← entityTokens? d entityDepth name
    if r.scopes.isEmpty then none
    else some (r.addItem (.mk (.entity name (String.ofList (tokenText ts))) "" [] ""))

def resolveReferences? (d : Declarations) (ts : List Token) : Option (List Token) := do
  let parts ← ts.mapM fun t => match t with
    | .reference name => match d.entity? name with
      | some (.internal _) => entityTokens? d entityDepth name
      | _ => some [t]
    | t => some [t]
  return parts.flatten

def readTokens (config : Config) (d : Declarations) : Reading → List Token → Option Reading
  | r, [] => some r
  | r, t :: ts => do readTokens config d (← readToken config d r t ts.head?) ts

def documentOf? (config : Config) (d : Declarations) (ts : List Token) : Option Document := do
  let ts ← if config.resolveEntities then resolveReferences? d ts else some ts
  let r ← readTokens config d ⟨.empty, []⟩ ts
  if r.scopes.isEmpty then r.growth.document? else none

end Quarry.Markup.Xml
