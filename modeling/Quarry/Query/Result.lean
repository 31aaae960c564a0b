import Quarry.Query.Expr
import Quarry.Query.Numeral
import Quarry.Query.Place

namespace Quarry.Query

inductive Result
  | places (ps : List Place)
  | number (x : Float)
  | text (s : String)
  | truth (b : Bool)

namespace Result

def isPlaces : Result → Bool
  | places _ => true
  | _ => false

def places? : Result → Option (List Place)
  | places ps => some ps
  | _ => none

def toTruth : Result → Bool
  | places ps => !ps.isEmpty
  | number x => !(x == 0.0 || x.isNaN)
  | text s => !s.isEmpty
  | truth b => b

def toText (d : Document) : Result → String
  | places ps => ((ps.head?).map (Place.content d)).getD ""
  | number x => numberText x
  | text s => s
  | truth b => if b then "true" else "false"

def toNumber (d : Document) : Result → Float
  | number x => x
  | truth b => if b then 1.0 else 0.0
  | r => readNumber (r.toText d)

def texts (d : Document) : Result → List String
  | places ps => ps.map (Place.content d)
  | r => [r.toText d]

def numbers (d : Document) : Result → List Float
  | places ps => ps.map fun p => readNumber (p.content d)
  | r => [r.toNumber d]

def isTruth : Result → Bool
  | truth _ => true
  | _ => false

def isNumber : Result → Bool
  | number _ => true
  | _ => false

/-- Whether some pair of two results is equal, or differs: as truth values if either is one, else
as numbers if either is one, else as texts. -/
def equality (d : Document) (differs : Bool) (a b : Result) : Bool :=
  if a.isTruth || b.isTruth then (a.toTruth == b.toTruth) != differs
  else if a.isNumber || b.isNumber then
    (a.numbers d).any fun x => (b.numbers d).any fun y => (x == y) != differs
  else (a.texts d).any fun s => (b.texts d).any fun t => (s == t) != differs

/-- Whether some pair of two results is in an order of numbers. Places beside a truth value are one
themselves. -/
def ordered (d : Document) (holds : Float → Float → Bool) (a b : Result) : Bool :=
  let numbersBeside (other r : Result) : List Float :=
    if other.isTruth then [(truth r.toTruth).toNumber d] else r.numbers d
  let xs := if a.isPlaces then numbersBeside b a else a.numbers d
  let ys := if b.isPlaces then numbersBeside a b else b.numbers d
  xs.any fun x => ys.any fun y => holds x y

/-- `x` without the whole multiples of `y`, with the sign of `x`; exact. -/
def remainder (x y : Float) : Float :=
  match Number.scaled x, Number.scaled y with
  | .finite s m p, .finite _ n q =>
    if n = 0 then notANumber
    else
      let low := min p q
      let r := m * Nat.pow 2 (p - low).toNat % (n * Nat.pow 2 (q - low).toNat)
      let size := Float.scaleB (Float.ofNat r) low
      if s then -size else size
  | .finite .., .infinite _ => x
  | _, _ => notANumber

def arithmetic (op : Arithmetic) (x y : Float) : Float :=
  match op with
  | .add => x + y
  | .subtract => x - y
  | .multiply => x * y
  | .divide => x / y
  | .remainder => remainder x y

def values (d : Document) : Result → List Value
  | places ps => ps.filterMap (Place.value? d)
  | number x => [.float x]
  | text s => [.str s .computed]
  | truth b => [.bool b]

end Result

end Quarry.Query
