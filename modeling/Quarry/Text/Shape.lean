namespace Quarry.Text

variable {α : Type}

inductive Shape
  | one (p : Char → Bool)
  | run (p : Char → Bool)
  | both (a b : Shape)
  | either (a b : Shape)
  | optional (a : Shape)

namespace Shape

def runOfSome (p : Char → Bool) : Shape := .both (.one p) (.run p)

def behindRun (p : Char → Bool) (next : List Char → Option α) : List Char → Option α
  | [] => next []
  | c :: s => if p c then (behindRun p next s).or (next (c :: s)) else next (c :: s)

/-- Goes on behind the most preferred fit that allows it. -/
def behind : Shape → (List Char → Option α) → List Char → Option α
  | .one _, _, [] => none
  | .one p, next, c :: s => if p c then next s else none
  | .run p, next, s => behindRun p next s
  | .both a b, next, s => a.behind (b.behind next) s
  | .either a b, next, s => (a.behind next s).or (b.behind next s)
  | .optional a, next, s => (a.behind next s).or (next s)

def fit? (a : Shape) (s : List Char) : Option (List Char) :=
  (a.behind some s).map fun rest => s.take (s.length - rest.length)

end Shape

end Quarry.Text
