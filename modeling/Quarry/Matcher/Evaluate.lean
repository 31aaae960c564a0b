import Quarry.Matcher.Shown
import Quarry.Query
import Quarry.Value.Same
import Quarry.Value.Walk

namespace Quarry

/-- A key that splices its result into the surrounding list. -/
def Value.splices : Value → Bool
  | .int _ | .bool _ => true
  | _ => false

/-- A path whose value is a list: one written as a list, or with a key that splices. -/
def Path.isListShaped : Path → Bool
  | .keyed es sequence => sequence || es.any fun e => e.1.splices
  | _ => false

/-- What one entry adds to a keyed result: a spliced sequence adds its members, any other entry its
value under its key. -/
def pieces (key : Value) (sub : Path) (v : Value) : Outcome (List (Value × Value)) :=
  if key.splices then
    match v.members? with
    | some vs => .ok (vs.map (key, ·))
    | none => .error (Fault.path (.spliced sub.kind sub.text? v.typeName)).reported
  else .ok [(key, v)]

/-- A keyed result: a list of the values, or a mapping where the last value of a key wins. -/
def assemble (asList : Bool) (items : List (Value × Value)) : Value :=
  if asList then .list (items.map Prod.snd) else .ofEntries items

def childAt (n : Value) (i : Nat) : Outcome Value :=
  let cs := match n with
    | .node m => m.children
    | _ => []
  match cs[i]? with
  | some c => .ok (.node c)
  | none => .error (Fault.indexRange i cs.length).reported

def Value.asList (v : Value) : List Value := v.members?.getD [v]

/-- The nodes of a root query. A root that takes the first match alone gives an absent value when
there is none. -/
def Root.nodes (r : Root) (n : Value) : Outcome (List Value) := do
  let vs ← Query.run n r.query
  return if r.all then vs else (vs.head?.getD .none).asList

/-- Picks, for every node of the union, the value at the place where the node stands among the
nodes of both sides. -/
def valuesInOrder (union nodes values : List Value) : List Value :=
  union.filterMap fun n =>
    match nodes.findIdx? (n.samePlace ·) with
    | some i => values[i]?
    | none => none

def merge (union nodes values : List Value) : Outcome Value :=
  if nodes.length = values.length then .ok (.list (valuesInOrder union nodes values))
  else .error (.operation (.misaligned values.length nodes.length))

def gather (left right : Option Root) (n : Value) : Outcome (List Value × List Value) :=
  match left, right with
  | some a, some b => do
    let union ← Query.run n (unionQuery a.query b.query)
    let xs ← a.nodes n
    let ys ← b.nodes n
    return (union, xs ++ ys)
  | _, _ => .error (.operation .noRootQuery)

mutual

def Matcher.eval : Matcher → Value → Option Extractor → Outcome Value
  | .multi p, n, e =>
    match p with
    | .query q => do
      let vs ← Query.run n q
      return .list (← vs.mapM (Extractor.resolve e).apply)
    | p => p.eval n (Extractor.resolve e)
  | .single p, n, e => p.eval n (Extractor.resolve e)
  | .constant v, _, _ => .ok v
  | .bind m e, n, _ => m.eval n (some e)
  | .map m f, n, e => do f (← m.eval n e)
  | .deepMap m f, n, e => do (← m.eval n e).replaceNodes fun x => f.eval x e
  | .flatMap m f, n, e => do
    let v ← m.eval n (some .identity)
    (f v).eval n e
  | .parse m markup e config, n, _ => do
    let root ← markup.parse n config
    m.eval root (some (Extractor.resolve e))
  | .seqOr l r, n, e => do
    let (union, nodes) ← gather l.root? r.root? n
    let v ← l.eval n e
    let w ← r.eval n e
    merge union nodes (v.asList ++ w.asList)
  | .seqOrPath l r, n, e => do
    let _ ← gather l.root? r.root? n
    let _ ← l.eval n e
    .error (.notCallable "FunctionPath")

def Path.eval : Path → Value → Extractor → Outcome Value
  | .query q, n, e => do
    match ← Query.run n q with
    | [] => return .none
    | v :: _ => e.apply v
  | .index i, n, e => do e.apply (← childAt n i)
  | .keyed es sequence, n, e => do
    let items ← evalEntries es n e
    return assemble (Path.keyed es sequence).isListShaped items
  | .function f, n, e => f.eval n (some e)
  | .malformed v, _, _ => .error (.path (.unknownShape v))

def Evaluator.eval : Evaluator → Value → Option Extractor → Outcome Value
  | .matcher m, n, e => m.eval n e
  | .plain _ run, n, e => run n e

def evalEntries : List (Value × Path) → Value → Extractor → Outcome (List (Value × Value))
  | [], _, _ => .ok []
  | (k, p) :: es, n, e => do
    let v ← p.eval n e
    let here ← pieces k p v
    let rest ← evalEntries es n e
    return here ++ rest

end

end Quarry
