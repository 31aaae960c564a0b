import Quarry.Number.Numeral
import Quarry.Number.Shortest
import Quarry.Text.Quoted
import Quarry.Value.Basic

namespace Quarry.Value

def boolText (b : Bool) : String := if b then "True" else "False"

def commaSeparated (xs : List String) : String := ", ".intercalate xs

def tupleText : List String → String
  | [x] => "(" ++ x ++ ",)"
  | xs => "(" ++ commaSeparated xs ++ ")"

def nodeText (n : Node) : String := "<" ++ n.tag ++ ">"

mutual

def shown : Value → String
  | .none => "None"
  | .bool b => boolText b
  | .int n => toString n
  | .float x => Number.floatText x
  | .str s _ => Text.quoted s
  | .bytes bs => Text.quotedBytes bs
  | .list vs => "[" ++ commaSeparated (shownAll vs) ++ "]"
  | .tuple vs => tupleText (shownAll vs)
  | .dict es => "\x7b" ++ commaSeparated (shownEntries es) ++ "\x7d"
  | .node n => nodeText n
  | .foreign _ s => s.getD ""

def shownAll : List Value → List String
  | [] => []
  | v :: vs => shown v :: shownAll vs

def shownEntries : List (Value × Value) → List String
  | [] => []
  | (k, v) :: es => (shown k ++ ": " ++ shown v) :: shownEntries es

end

mutual

/-- Whether a value can be shown: no number in it has too many digits for that. -/
def isWritable : Value → Bool
  | .int n => Number.isWritable n
  | .list vs | .tuple vs => allWritable vs
  | .dict es => entriesWritable es
  | .foreign _ s => s.isSome
  | _ => true

def allWritable : List Value → Bool
  | [] => true
  | v :: vs => v.isWritable && allWritable vs

def entriesWritable : List (Value × Value) → Bool
  | [] => true
  | (k, v) :: es => k.isWritable && v.isWritable && entriesWritable es

end

def text? (v : Value) : Option String := if v.isWritable then some v.shown else Option.none

/-- The characters that a value holds: those of a node, none for no value, the text itself for a
text, and otherwise what shows the value, with a number at any length. -/
def content : Value → String
  | .node n => n.content
  | .none => ""
  | .str s _ => s
  | v => v.shown

end Quarry.Value
