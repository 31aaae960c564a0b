import Quarry.Proofs.Value.Replaced

namespace Quarry.Value

mutual

/-- The nodes inside a value, depth first and from left to right. -/
def nodes : Value → List Value
  | .node n => [.node n]
  | .dict es => nodesOfEntries es
  | .list vs | .tuple vs => nodesOfAll vs
  | _ => []

def nodesOfAll : List Value → List Value
  | [] => []
  | v :: vs => nodes v ++ nodesOfAll vs

def nodesOfEntries : List (Value × Value) → List Value
  | [] => []
  | (_, v) :: es => nodes v ++ nodesOfEntries es

end

open Outcome (FailsLike)

section

variable (f : Value → Outcome Value)

mutual

/-- A walk fails like the steps for the nodes inside the value, one after the other. -/
theorem replaceNodes_failsLike : (v : Value) → FailsLike (replaceNodes f v) (v.nodes.mapM f)
  | .node n => .singleton fun _ => by rw [replaceNodes]
  | .dict es => (replaceInEntries_failsLike es).bind_ok _
  | .list vs | .tuple vs => (replaceInAll_failsLike vs).bind_ok _
  | .none | .bool _ | .int _ | .float _ | .str _ _ | .bytes _ | .foreign _ _ => .of_ok _ _

theorem replaceInAll_failsLike :
    (vs : List Value) → FailsLike (replaceInAll f vs) ((nodesOfAll vs).mapM f)
  | [] => .of_ok _ _
  | v :: vs => (replaceNodes_failsLike v).append (replaceInAll_failsLike vs) _

theorem replaceInEntries_failsLike :
    (es : List (Value × Value)) → FailsLike (replaceInEntries f es) ((nodesOfEntries es).mapM f)
  | [] => .of_ok _ _
  | (_, v) :: es => (replaceNodes_failsLike v).append (replaceInEntries_failsLike es) _

end

end

theorem exists_replaceNodes_eq_ok_iff {f : Value → Outcome Value} {v : Value} :
    (∃ w, replaceNodes f v = .ok w) ↔ ∀ x ∈ v.nodes, ∃ y, f x = .ok y :=
  (replaceNodes_failsLike f v).exists_ok_iff.trans Outcome.exists_mapM_eq_ok_iff

/-- The cause of failure of a walk is that of the first node on which it fails. -/
theorem replaceNodes_eq_error {f : Value → Outcome Value} {v : Value} {φ : Fault} :
    replaceNodes f v = .error φ ↔ ∃ xs x ys, v.nodes = xs ++ x :: ys ∧
      (∀ y ∈ xs, ∃ w, f y = .ok w) ∧ f x = .error φ :=
  (replaceNodes_failsLike f v φ).trans Outcome.mapM_eq_error

mutual

/-- A value with lists in place of tuples; the keys of a mapping stay. -/
def untupled : Value → Value
  | .dict es => .dict (untupledEntries es)
  | .list vs | .tuple vs => .list (untupledAll vs)
  | v => v

def untupledAll : List Value → List Value
  | [] => []
  | v :: vs => untupled v :: untupledAll vs

def untupledEntries : List (Value × Value) → List (Value × Value)
  | [] => []
  | (k, v) :: es => (k, untupled v) :: untupledEntries es

end

mutual

theorem replaceNodes_ok : (v : Value) → replaceNodes .ok v = .ok v.untupled
  | .dict es => by rw [replaceNodes, replaceInEntries_ok es]; rfl
  | .list vs | .tuple vs => by rw [replaceNodes, replaceInAll_ok vs]; rfl
  | .none | .bool _ | .int _ | .float _ | .str _ _ | .bytes _ | .node _ | .foreign _ _ => rfl

theorem replaceInAll_ok : (vs : List Value) → replaceInAll .ok vs = .ok (untupledAll vs)
  | [] => rfl
  | v :: vs => by rw [replaceInAll, replaceNodes_ok v, replaceInAll_ok vs]; rfl

theorem replaceInEntries_ok :
    (es : List (Value × Value)) → replaceInEntries .ok es = .ok (untupledEntries es)
  | [] => rfl
  | (k, v) :: es => by rw [replaceInEntries, replaceNodes_ok v, replaceInEntries_ok es]; rfl

end

end Quarry.Value
