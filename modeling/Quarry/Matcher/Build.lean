import Quarry.Matcher.Evaluate
import Quarry.Pattern
import Quarry.Value.Project

namespace Quarry

/-- A path as it is written: a text for a query, a number for a child index, containers for nested
paths, or a path or evaluator made before. -/
inductive RawPath
  | text (s : String)
  | number (i : Int)
  | list (ps : List RawPath)
  | tuple (ps : List RawPath)
  | dict (entries : List (Value × RawPath))
  | spec (p : Path)
  | callable (f : Evaluator)
  | other (v : Value)

def Path.ofIndex (i : Int) : Outcome Path :=
  if i < 0 then .error (Fault.path (.negativeIndex i)).reported else .ok (.index i.toNat)

/-- The keys of nested paths are texts and numbers, but not truth values. -/
def checkKey (key : Value) : Outcome Unit :=
  match key with
  | .str _ _ | .int _ => .ok ()
  | _ => .error (Fault.path (.keyKind key)).reported

namespace RawPath

mutual

def toPath : RawPath → Outcome Path
  | .text s => .ok (.query s)
  | .number i => Path.ofIndex i
  | .list ps => do return .keyed (← itemsToPaths 0 ps) true
  | .tuple ps => do return .keyed (← itemsToPaths 0 ps) true
  | .dict es => do return .keyed (← entriesToPaths es) false
  | .spec p => .ok p
  | .callable f => .ok (.function f)
  | .other v => .error (.path (.unknownShape v))

def itemsToPaths : Nat → List RawPath → Outcome (List (Value × Path))
  | _, [] => .ok []
  | i, p :: ps => do
    let q ← toPath p
    let qs ← itemsToPaths (i + 1) ps
    return (.int i, q) :: qs

def entriesToPaths : List (Value × RawPath) → Outcome (List (Value × Path))
  | [] => .ok []
  | (k, p) :: es => do
    checkKey k
    let q ← toPath p
    let qs ← entriesToPaths es
    return (k, q) :: qs

end

mutual

/-- The value that a written path is, with paths and evaluators as things of their own kind. -/
def toValue : RawPath → Value
  | .text s => .ofString s
  | .number i => .int i
  | .list ps => .list (allToValues ps)
  | .tuple ps => .tuple (allToValues ps)
  | .dict es => .dict (entriesToValues es)
  | .spec p => .foreign p.kind p.text?
  | .callable (.matcher m) => .foreign "Matcher" m.text?
  | .callable f => .foreign "Evaluator" (some f.shown)
  | .other v => v

def allToValues : List RawPath → List Value
  | [] => []
  | p :: ps => toValue p :: allToValues ps

def entriesToValues : List (Value × RawPath) → List (Value × Value)
  | [] => []
  | (k, p) :: es => (k, toValue p) :: entriesToValues es

end

/-- A path taken as it stands: what is not a path already is malformed. -/
def uncoerced : RawPath → Path
  | .spec p => p
  | p => .malformed p.toValue

end RawPath

namespace Matcher

def ofPaths (maker : String) (chain : Path → List Path → Matcher) (ps : List RawPath) :
    Outcome Matcher := do
  match ← ps.mapM RawPath.toPath with
  | [] => .error (.missingPath maker)
  | p :: qs => return chain p qs

def multi? (ps : List RawPath) : Outcome Matcher := ofPaths "multi" multiChain ps

def single? (ps : List RawPath) : Outcome Matcher := ofPaths "single" singleChain ps

def has (p : Path) : Matcher := (Matcher.multi p).map Value.nonempty

def count (p : Path) : Matcher := (Matcher.multi p).map Value.count

def first (m : Matcher) : Matcher := m.map Value.first

def asInt (m : Matcher) : Matcher := m.map (Value.toNumber .int)

def asFloat (m : Matcher) : Matcher := m.map (Value.toNumber .float)

def regex (m : Matcher) (p : Pattern) : Matcher := m.map p.captureIn

/-- Merges with another matcher. A query alone has no matches to merge, and neither side may lack a
root query. -/
def seqOr? (m : Matcher) (that : RawPath) : Outcome Matcher :=
  let refused := .error (.operation .noRootQuery)
  match m.root?, that with
  | none, _ => refused
  | _, .callable (.matcher t) => if t.root?.isSome then .ok (m.seqOr t) else refused
  | _, .spec (.function (.matcher t)) => if t.root?.isSome then .ok (m.seqOrPath t) else refused
  | _, .spec (.query _) => .error .pathOperand
  | _, _ => refused

end Matcher

end Quarry
