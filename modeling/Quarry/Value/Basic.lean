import Quarry.Tree.Node

namespace Quarry

/-- Where a text comes from. Texts of queries know their place; one that a query computed has
none. -/
inductive Origin
  | plain
  | computed
  | attribute (owner : Node) (name : String)
  | text (owner : Node)
  | tail (owner : Node)
  deriving DecidableEq

namespace Origin

/-- The node that a text belongs to: the element around it or, for a tail, the node before it. -/
def owner? : Origin → Option Node
  | .attribute n _ | .text n | .tail n => some n
  | _ => none

def attribute? : Origin → Option String
  | .attribute _ a => some a
  | _ => none

def isText : Origin → Bool
  | .text _ => true
  | _ => false

def isTail : Origin → Bool
  | .tail _ => true
  | _ => false

end Origin

/-- A value. A mapping keeps its entries in order; `foreign` stands for a thing that is not data,
by the name of its kind and the text that shows it, if it can be shown. -/
inductive Value
  | none
  | bool (b : Bool)
  | int (n : Int)
  | float (x : Float)
  | str (s : String) (origin : Origin)
  | bytes (bs : List UInt8)
  | list (vs : List Value)
  | tuple (vs : List Value)
  | dict (entries : List (Value × Value))
  | node (n : Node)
  | foreign (kind : String) (shown : Option String)

instance : Inhabited Value := ⟨.none⟩

namespace Value

def ofString (s : String) : Value := .str s .plain

def typeName : Value → String
  | .none => "NoneType"
  | .bool _ => "bool"
  | .int _ => "int"
  | .float _ => "float"
  | .str _ .plain => "str"
  | .str _ _ => "_ElementUnicodeResult"
  | .bytes _ => "bytes"
  | .list _ => "list"
  | .tuple _ => "tuple"
  | .dict _ => "dict"
  | .node n => match n.item?.map Item.label with
    | some .comment => "_Comment"
    | some (.instruction _) => "_ProcessingInstruction"
    | some (.entity _ _) => "_Entity"
    | _ => "_Element"
  | .foreign kind _ => kind

def isNode : Value → Bool
  | .node _ => true
  | _ => false

def length? : Value → Option Nat
  | .str s _ => some s.length
  | .bytes bs => some bs.length
  | .list vs | .tuple vs => some vs.length
  | .dict es => some es.length
  | .node n => some n.childNodes.length
  | _ => Option.none

/-- The things in a value one by one: characters, bytes, members, keys, or child nodes. -/
def elements? : Value → Option (List Value)
  | .str s _ => some (s.toList.map fun c => ofString c.toString)
  | .bytes bs => some (bs.map fun b => .int b.toNat)
  | .list vs | .tuple vs => some vs
  | .dict es => some (es.map Prod.fst)
  | .node n => some (n.childNodes.map .node)
  | _ => Option.none

def members? : Value → Option (List Value)
  | .list vs | .tuple vs => some vs
  | _ => Option.none

end Value

end Quarry
