import Quarry.Query.Axis
import Quarry.Query.Function

namespace Quarry.Query

/-- Whether a predicate keeps a place: a number is a position, anything else a truth value. -/
def Result.keeps (r : Result) (position : Nat) : Bool :=
  match r with
  | .number x => x == Float.ofNat position
  | r => r.toTruth

def keep (predicate : Focus → Option Result) (ps : List Place) : Option (List Place) :=
  let total := ps.length
  go total 1 ps
where
  go (total position : Nat) : List Place → Option (List Place)
    | [] => some []
    | p :: ps => do
      let r ← predicate ⟨p, some (position, total)⟩
      let rest ← go total (position + 1) ps
      return if r.keeps position then p :: rest else rest

def gather (f : Place → Option (List Place)) (ps : List Place) : Option (List Place) := do
  return Place.inOrder (← ps.mapM f).flatten

mutual

def Expr.eval (d : Document) : Expr → Focus → Option Result
  | .root, _ => some (.places [.document])
  | .here, f => some (.places [f.place])
  | .step origin axis test predicates, f => do
    let ps ← (← origin.eval d f).places?
    let passes ← test.onAxis? axis d
    let found ← gather (fun p => evalPredicates d predicates ((axis.places d p).filter passes)) ps
    return .places found
  | .filter origin predicate, f => do
    let ps ← (← origin.eval d f).places?
    let kept ← keep (fun g => predicate.eval d g) ps
    return .places kept
  | .either a b, f => do
    if (← a.eval d f).toTruth then return .truth true
    return .truth (← b.eval d f).toTruth
  | .both a b, f => do
    if !(← a.eval d f).toTruth then return .truth false
    return .truth (← b.eval d f).toTruth
  | .equal a b, f => do return .truth (Result.equality d false (← a.eval d f) (← b.eval d f))
  | .different a b, f => do return .truth (Result.equality d true (← a.eval d f) (← b.eval d f))
  | .less a b, f => do
    return .truth (Result.ordered d (fun x y => x < y) (← a.eval d f) (← b.eval d f))
  | .atMost a b, f => do
    return .truth (Result.ordered d (fun x y => x ≤ y) (← a.eval d f) (← b.eval d f))
  | .arithmetic op a b, f => do
    let x := (← a.eval d f).toNumber d
    let y := (← b.eval d f).toNumber d
    return .number (Result.arithmetic op x y)
  | .signed odd a, f => do
    let x := (← a.eval d f).toNumber d
    return .number (if odd then -x else x)
  | .union a b, f => do
    let ps ← (← a.eval d f).places?
    let qs ← (← b.eval d f).places?
    return .places (Place.inOrder (ps ++ qs))
  | .literal s, _ => some (.text s)
  | .number x, _ => some (.number x)
  | .variable _ _, _ => none
  | .call qualifier name args, f => do
    let rs ← evalAll d args f
    match qualifier with
    | none => call d f name rs
    | some _ => none

def evalAll (d : Document) : List Expr → Focus → Option (List Result)
  | [], _ => some []
  | e :: es, f => do
    let r ← e.eval d f
    let rs ← evalAll d es f
    return r :: rs

def evalPredicates (d : Document) : List Expr → List Place → Option (List Place)
  | [], ps => some ps
  | e :: es, ps => do
    let kept ← keep (fun g => e.eval d g) ps
    evalPredicates d es kept

end

end Quarry.Query
