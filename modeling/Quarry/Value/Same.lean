import Quarry.Number.Order
import Quarry.Value.Basic

namespace Quarry.Value

def number? : Value → Option Number.Scaled
  | .bool b => some (.ofInt b.toInt)
  | .int n => some (.ofInt n)
  | .float x => some (Number.scaled x)
  | _ => Option.none

def sameNumber (a b : Value) : Bool :=
  match a.number?, b.number? with
  | some x, some y => x.compare? y = some .eq
  | _, _ => false

mutual

def same : Value → Value → Bool
  | .none, .none => true
  | .str s _, .str t _ => s = t
  | .bytes s, .bytes t => s = t
  | .list vs, .list ws => sameAll vs ws
  | .tuple vs, .tuple ws => sameAll vs ws
  | .dict es, .dict fs => es.length = fs.length && entriesIn es fs
  | .node m, .node n => m = n
  | a, b => sameNumber a b

def sameAll : List Value → List Value → Bool
  | [], [] => true
  | v :: vs, w :: ws => same v w && sameAll vs ws
  | _, _ => false

def entriesIn : List (Value × Value) → List (Value × Value) → Bool
  | [], _ => true
  | (k, v) :: es, fs => fs.any (fun f => same k f.1 && same v f.2) && entriesIn es fs

end

/-- Whether two values are the same place of a document. Nodes compare by place; texts that a query
found compare by the node they belong to, their kind and their characters; anything else by
equality. -/
def samePlace : Value → Value → Bool
  | .node m, .node n => m = n
  | .node _, _ | _, .node _ => false
  | .str s .plain, .str t _ | .str s _, .str t .plain => s = t
  | .str s o, .str t p =>
    o.owner? = p.owner? && o.attribute? = p.attribute? && o.isText = p.isText &&
      o.isTail = p.isTail && s = t
  | a, b => same a b

/-- Entries as a mapping keeps them: of equal keys the first place and the last value. -/
def setEntry (key value : Value) : List (Value × Value) → List (Value × Value)
  | [] => [(key, value)]
  | (k, v) :: es => if same k key then (k, value) :: es else (k, v) :: setEntry key value es

def ofEntries (es : List (Value × Value)) : Value :=
  .dict (es.foldl (fun acc e => setEntry e.1 e.2 acc) [])

end Quarry.Value
