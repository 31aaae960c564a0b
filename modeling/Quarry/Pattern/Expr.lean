import Quarry.Pattern.CharSet

namespace Quarry.Pattern

inductive Condition
  | textStart
  | textEnd
  | lineStart
  | lineEnd
  | wordEdge
  | noWordEdge
  deriving DecidableEq, Repr

/-- A pattern. Repetitions prefer more rounds when they are greedy, fewer otherwise; groups are
counted from zero. -/
inductive Expr
  | empty
  | set (s : CharSet)
  | byte
  | condition (c : Condition)
  | both (a b : Expr)
  | either (a b : Expr)
  | star (e : Expr) (greedy : Bool)
  | plus (e : Expr) (greedy : Bool)
  | optional (e : Expr) (greedy : Bool)
  | counted (low : Nat) (high : Option Nat) (e : Expr) (greedy : Bool)
  | group (index : Nat) (e : Expr)
  deriving Repr

instance : Inhabited Expr := ⟨.empty⟩

namespace Expr

def ofSequence : List Expr → Expr
  | [] => .empty
  | [e] => e
  | e :: es => .both e (ofSequence es)

def ofBranches : List Expr → Expr
  | [] => .empty
  | [e] => e
  | e :: es => .either e (ofBranches es)

def nullable : Expr → Bool
  | .empty | .condition _ | .star _ _ | .optional _ _ => true
  | .set _ | .byte => false
  | .both a b => a.nullable && b.nullable
  | .either a b => a.nullable || b.nullable
  | .plus e _ | .group _ e => e.nullable
  | .counted low _ e _ => low = 0 || e.nullable

/-- What is left of an allowance of copies, which every counted repetition divides among its
rounds. -/
def allowance (n : Nat) : Expr → Nat
  | .empty | .set _ | .byte | .condition _ => n
  | .both a b | .either a b => min (a.allowance n) (b.allowance n)
  | .star e _ | .plus e _ | .optional e _ | .group _ e => e.allowance n
  | .counted low high e _ =>
    let rounds := high.getD low
    e.allowance (if rounds = 0 then n else n / rounds)

end Expr

end Quarry.Pattern
