import Quarry.Config
import Quarry.Markup.Html.ContentModel
import Quarry.Markup.Html.Token
import Quarry.Tree.Growth

namespace Quarry.Markup.Html

/-- How far the document has come: each part is supplied at most once. -/
inductive Stage
  | start
  | head
  | body
  deriving DecidableEq, Repr

structure Reading where
  growth : Growth
  stage : Stage
  /-- Start tags of the document's parts that were passed over, and whose end tags will be. -/
  ignored : Nat
  publicId : String
  stopped : Bool

namespace Reading

def start : Reading := ⟨.empty, .start, 0, "", false⟩

def nameOf (o : OpenItem) : String :=
  match o.label with
  | .element n _ _ => n.base
  | _ => ""

def names (r : Reading) : List String := r.growth.opened.map nameOf

def current? (r : Reading) : Option String := r.names.head?

def pop (r : Reading) : Reading := { r with growth := r.growth.pop }

def stageOf (name : String) (s : Stage) : Stage :=
  if name = "body" then .body
  else if name = "head" && s = .start then .head
  else s

def push (config : Config) (r : Reading) (name : String) (attributes : List Attribute) : Reading :=
  if r.stopped then r
  else if config.maxDepth ≤ r.growth.depth then { r with stopped := true }
  else { r with
    growth := r.growth.push (.element (.plain name) attributes [])
    stage := stageOf name r.stage }

/-- Closes the open elements that a start tag cannot stand in. -/
def closeFor (newcomer : String) : List OpenItem → Reading → Reading
  | [], r => r
  | o :: os, r =>
    if (closers (nameOf o)).contains newcomer then closeFor newcomer os r.pop else r

def autoClose (r : Reading) (newcomer : String) : Reading :=
  closeFor newcomer r.growth.opened r

def imply (config : Config) (r : Reading) (newcomer : String) : Reading :=
  if newcomer = "html" then r
  else
    let r := if r.names.isEmpty then r.push config "html" [] else r
    if newcomer = "body" || newcomer = "head" then r
    else if r.names.length ≤ 1 && headElements.contains newcomer then
      if r.stage = .start then r.push config "head" [] else r
    else if frameElements.contains newcomer || r.stage = .body then r
    else if r.names.contains "body" || r.names.contains "head" then r
    else r.push config "body" []

def addText (r : Reading) (s : List Char) : Reading :=
  if s.isEmpty || r.stopped then r
  else { r with growth := r.growth.addText (String.ofList s) }

inductive LastThing
  | nothing
  | text
  | element (name : String)
  | other

def lastThing (text : String) : List Item → LastThing
  | [] => if text.isEmpty then .nothing else .text
  | i :: is =>
    if !i.tail.isEmpty then .text
    else match i.label with
      | .comment => lastThing text is
      | .element n _ _ => .element n.base
      | _ => .other

/-- Blanks that are layout, and dropped when that is asked for. -/
def isLayout (r : Reading) (last : Bool) : Bool :=
  match r.growth.opened with
  | [] => true
  | o :: _ =>
    let name := nameOf o
    if last || name = "html" || name = "head" then true
    else if name = "body" && strictTypes.contains r.publicId.toLower then true
    else match lastThing o.text o.done with
      | .nothing => !textElements.contains name
      | .text => false
      | .element n => !textElements.contains n
      | .other => true

/-- Characters of the document: blanks outside of the body stay where they are, and anything else
implies a body. -/
def readText (config : Config) (r : Reading) (s : List Char) (last : Bool) : Reading :=
  let outside := match r.current? with
    | none => true
    | some n => n = "html" || n = "head"
  let blanks := if outside then s.takeWhile isHtmlBlank else []
  let rest := s.drop blanks.length
  let r := if config.removeBlankText then r else r.addText blanks
  if rest.isEmpty then r
  else
    let r := if outside then
        let r := if r.current? = some "head" then r.autoClose "p" else r
        r.imply config "p"
      else r
    if config.removeBlankText && rest.all isHtmlBlank && r.isLayout last then r
    else r.addText rest

def isMisplaced (r : Reading) (name : String) : Bool :=
  (name = "html" && !r.names.isEmpty) || (name = "head" && r.names.length ≠ 1) ||
    (name = "body" && r.names.contains "body")

def attributeOf (element : String) (a : String × Option String) : Attribute :=
  let flag := if flagAttributes.contains a.1 then a.1 else ""
  let isId := a.1 = "id" || (a.1 = "name" && element = "a")
  ⟨.plain a.1, a.2.getD flag, isId⟩

def readStartTag (config : Config) (r : Reading) (name : String)
    (attributes : List (String × Option String)) (closed : Bool) : Reading :=
  let r := (r.autoClose name).imply config name
  if r.isMisplaced name then { r with ignored := r.ignored + 1 }
  else
    let opened := r.push config name (attributes.map (attributeOf name))
    if !opened.stopped && (closed || emptyElements.contains name) then opened.pop else opened

/-- The elements that an end tag finds open before its own, unless one of them outweighs it. -/
def insideOf (name : String) : List String → Option Nat
  | [] => none
  | n :: ns =>
    if n = name then some 0
    else if weight name < weight n then none
    else (insideOf name ns).map (· + 1)

def popMany : Nat → Reading → Reading
  | 0, r => r
  | n + 1, r => popMany n r.pop

def readEndTag (r : Reading) (name : String) : Reading :=
  if 0 < r.ignored && ["html", "body", "head"].contains name then
    { r with ignored := r.ignored - 1 }
  else match insideOf name r.names with
    | some n => popMany (n + 1) r
    | none => r

def readToken (config : Config) (r : Reading) (t : Token) (last : Bool) : Reading :=
  if r.stopped then r
  else match t with
  | .startTag name attributes closed => r.readStartTag config name attributes closed
  | .endTag name => r.readEndTag name
  | .text s => r.readText config s last
  | .raw s => r.addText s
  | .comment s =>
    if config.removeComments then r
    else { r with growth := r.growth.addItem (.mk .comment (String.ofList s) [] "") }
  | .doctype p => if r.publicId.isEmpty then { r with publicId := p } else r

def readAll (config : Config) : Reading → List Token → Reading
  | r, [] => r
  | r, t :: ts => readAll config (r.readToken config t ts.isEmpty) ts

end Reading

def emptyDocument : Document :=
  ⟨[], .mk (.element (.plain "html") [] []) "" [] "", []⟩

def documentOf (config : Config) (ts : List Token) : Document :=
  ((Reading.start.readAll config ts).growth.document?).getD emptyDocument

end Quarry.Markup.Html
