import Quarry.Fault

namespace Quarry.Value

mutual

/-- Replaces the nodes inside a value from left to right; the first failure ends the walk. -/
def replaceNodes (f : Value → Outcome Value) : Value → Outcome Value
  | .node n => f (.node n)
  | .dict es => do return .dict (← replaceInEntries f es)
  | .list vs => do return .list (← replaceInAll f vs)
  | .tuple vs => do return .list (← replaceInAll f vs)
  | v => .ok v

def replaceInAll (f : Value → Outcome Value) : List Value → Outcome (List Value)
  | [] => .ok []
  | v :: vs => do
    let w ← replaceNodes f v
    let ws ← replaceInAll f vs
    return w :: ws

def replaceInEntries (f : Value → Outcome Value) :
    List (Value × Value) → Outcome (List (Value × Value))
  | [] => .ok []
  | (k, v) :: es => do
    let w ← replaceNodes f v
    let fs ← replaceInEntries f es
    return (k, w) :: fs

end

end Quarry.Value
