import Quarry.Markup.Html.Source
import Quarry.Markup.Xml.Prolog

namespace Quarry

inductive Markup
  | html
  | xml
  deriving DecidableEq, Repr

namespace Markup

/-- The encoding of a name; an empty name is none. -/
def encodingNamed (name : Option String) : Outcome (Option Encoding) :=
  match name with
  | none | some "" => .ok none
  | some s => match Encoding.find? s with
    | some e => .ok (some e)
    | none => .error (.unknownEncoding s)

def kindOf (v : Value) : String :=
  match v with
  | .node _ => "lxml.etree." ++ v.typeName
  | v => v.typeName

def bytesOf (v : Value) : Outcome (List UInt8) :=
  match v with
  | .str s _ => .ok (utf8Bytes s)
  | .bytes bs => .ok bs
  | v => if v.length?.isSome then .error (.noMarkup (kindOf v)) else .error (.noLength v.typeName)

/-- Hypertext is read whatever it holds, and nothing at all is an empty document. A text is in the
eight-bit form, whatever encoding the configuration names. -/
def parseHtml (v : Value) (config : Config) : Outcome Document := do
  let given ← match v with
    | .str _ _ => .ok (some .utf8)
    | _ => encodingNamed config.encoding
  if v.length? = some 0 then return Html.emptyDocument
  let bs ← bytesOf v
  return Html.parse config given bs

def parseXml (v : Value) (config : Config) : Outcome Document := do
  let given ← encodingNamed config.encoding
  let bs ← bytesOf v
  match Xml.parse? config given bs with
  | some d => return d
  | none => .error .malformedDocument

def parse (markup : Markup) (v : Value) (config : Config) : Outcome Value := do
  match markup with
  | html => return .node (.root (← parseHtml v config))
  | xml => return .node (.root (← parseXml v config))

end Markup

end Quarry
