import Quarry.Matcher.Basic

namespace Quarry

/-- A root query, and whether all of its matches count or the first alone. -/
structure Root where
  query : String
  all : Bool
  deriving DecidableEq, Repr

def unionQuery (a b : String) : String := a ++ " | " ++ b

mutual

def Matcher.root? : Matcher → Option Root
  | .multi p => p.root? true
  | .single p => p.root? false
  | .constant _ => none
  | .bind m _ | .map m _ | .deepMap m _ | .flatMap m _ | .parse m _ _ _ => m.root?
  | .seqOr l r | .seqOrPath l r =>
    match l.root?, r.root? with
    | some a, some b => some ⟨unionQuery a.query b.query, true⟩
    | _, _ => none

def Path.root? : Path → Bool → Option Root
  | .query q, all => some ⟨q, all⟩
  | .function f, _ => f.root?
  | _, _ => none

def Evaluator.root? : Evaluator → Option Root
  | .matcher m => m.root?
  | .plain _ _ => none

end

end Quarry
