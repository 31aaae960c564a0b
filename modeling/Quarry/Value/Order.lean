import Quarry.Fault
import Quarry.Value.Same

namespace Quarry.Value

structure Unordered where
  left : String
  right : String
  deriving DecidableEq, Repr

def Unordered.fault (u : Unordered) : Fault := .unordered u.left u.right

def numberBefore (x y : Number.Scaled) : Bool := x.compare? y = some .lt

mutual

def before : Value → Value → Except Unordered Bool
  | .str s _, .str t _ => .ok (s < t)
  | .bytes s, .bytes t => .ok (s.map UInt8.toNat < t.map UInt8.toNat)
  | .list vs, .list ws => beforeAll vs ws
  | .tuple vs, .tuple ws => beforeAll vs ws
  | a, b => match a.number?, b.number? with
    | some x, some y => .ok (numberBefore x y)
    | _, _ => .error ⟨a.typeName, b.typeName⟩

def beforeAll : List Value → List Value → Except Unordered Bool
  | [], ws => .ok (!ws.isEmpty)
  | _ :: _, [] => .ok false
  | v :: vs, w :: ws => if same v w then beforeAll vs ws else before v w

end

mutual

def isData : Value → Bool
  | .foreign _ _ => false
  | .list vs | .tuple vs => allData vs
  | .dict es => entriesData es
  | _ => true

def allData : List Value → Bool
  | [] => true
  | v :: vs => v.isData && allData vs

def entriesData : List (Value × Value) → Bool
  | [] => true
  | (k, v) :: es => k.isData && v.isData && entriesData es

end

/-- How two values compare of which one is not data, or has something in it that is not. -/
abbrev Comparison := Value → Value → Outcome Bool

/-- The comparison where no such thing has an order. -/
def unordered : Comparison := fun a b => .error (Unordered.fault ⟨a.typeName, b.typeName⟩)

def Comparison.before (c : Comparison) (a b : Value) : Outcome Bool :=
  if a.isData && b.isData then (a.before b).mapError Unordered.fault else c a b

/-- Puts a value behind all that do not come after it. -/
def insertSorted (c : Comparison) (v : Value) : List Value → Outcome (List Value)
  | [] => .ok [v]
  | w :: ws => do
    if ← c.before v w then return v :: w :: ws
    return w :: (← insertSorted c v ws)

def sorted (c : Comparison) : List Value → Outcome (List Value)
  | [] => .ok []
  | v :: vs => do insertSorted c v (← sorted c vs)

end Quarry.Value
