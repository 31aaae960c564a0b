import Quarry.Fault
import Quarry.Query.Evaluate
import Quarry.Query.Parser

namespace Quarry.Query

def values? (n : Node) (q : String) : Option (List Value) := do
  let e ← Expr.parse? q
  let r ← e.eval n.document ⟨.item n.path, none⟩
  return r.values n.document

def run (v : Value) (q : String) : Outcome (List Value) :=
  match v with
  | .node n =>
    if !q.toList.all Markup.isDocumentChar then .error .queryCharacters
    else match values? n q with
      | some vs => .ok vs
      | none => .error (.query q)
  | v => .error (.operation (.queryTarget q v.typeName))

end Quarry.Query
