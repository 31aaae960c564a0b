import Quarry.Pattern
import Quarry.Pattern.Parser
import Quarry.Pattern.Search

namespace Quarry.Pattern

def compile (p : String) : Outcome Pattern :=
  match Expr.parse p with
  | .error flaw => .error (.pattern p (Text.quotedBytes flaw.message.toUTF8.toList))
  | .ok parsed =>
    let code := parsed.expr.program
    .ok ⟨parsed.names, firstMatch code parsed.groups⟩

def ofValue (v : Value) : Outcome Pattern :=
  match v with
  | .str s _ => compile s
  | v => match v.text? with
    | some s => .error (.pattern s
      ("expected a pattern string or compiled pattern, got " ++ v.typeName))
    | none => .error .unwritable

end Quarry.Pattern
