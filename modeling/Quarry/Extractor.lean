import Quarry.Fault
import Quarry.Text.Squeeze

namespace Quarry

structure Extractor where
  name : String
  apply : Value → Outcome Value

def Value.squeezed (squeeze : List Char → List Char) (v : Value) : Value :=
  .ofString (String.ofList (squeeze v.content.toList))

namespace Extractor

def text : Extractor := ⟨"text", fun v => .ok (v.squeezed Text.squeezeSpaces)⟩

def oneline : Extractor := ⟨"oneline", fun v => .ok (v.squeezed Text.squeezeToLine)⟩

def normalize : Extractor := ⟨"normalize", fun v => .ok (v.squeezed Text.squeezeParagraphs)⟩

def identity : Extractor := ⟨"identity", .ok⟩

def standard : Extractor := oneline

instance : Inhabited Extractor := ⟨standard⟩

def resolve (e : Option Extractor) : Extractor := e.getD standard

end Extractor

def distribute (f : Value → Outcome Value) (v : Value) : Outcome Value :=
  match v.elements? with
  | some vs => return .list (← vs.mapM f)
  | none => .error (.notIterable v.typeName)

end Quarry
