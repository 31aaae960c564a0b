namespace Quarry.Query

inductive Axis
  | ancestor
  | ancestorOrSelf
  | attribute
  | child
  | descendant
  | descendantOrSelf
  | following
  | followingSibling
  | scope
  | parent
  | preceding
  | precedingSibling
  | self
  deriving DecidableEq, Repr

def Axis.ofName? : String → Option Axis
  | "ancestor" => some .ancestor
  | "ancestor-or-self" => some .ancestorOrSelf
  | "attribute" => some .attribute
  | "child" => some .child
  | "descendant" => some .descendant
  | "descendant-or-self" => some .descendantOrSelf
  | "following" => some .following
  | "following-sibling" => some .followingSibling
  | "namespace" => some .scope
  | "parent" => some .parent
  | "preceding" => some .preceding
  | "preceding-sibling" => some .precedingSibling
  | "self" => some .self
  | _ => none

/-- What a step keeps of the places on its axis: those of any name, those of one name, or those of
one kind. Names may be limited to the namespace of a qualifier. -/
inductive Test
  | anyName (qualifier : Option String)
  | name (qualifier : Option String) (base : String)
  | node
  | text
  | comment
  | instruction (target : Option String)
  deriving DecidableEq, Repr

inductive Arithmetic
  | add
  | subtract
  | multiply
  | divide
  | remainder
  deriving DecidableEq, Repr

/-- An expression. A step starts from the places of another expression and keeps those that pass
its test and then each of its predicates; `here` is the place where the expression is evaluated. -/
inductive Expr
  | root
  | here
  | step (origin : Expr) (axis : Axis) (test : Test) (predicates : List Expr)
  | filter (origin predicate : Expr)
  | either (a b : Expr)
  | both (a b : Expr)
  | equal (a b : Expr)
  | different (a b : Expr)
  | less (a b : Expr)
  | atMost (a b : Expr)
  | arithmetic (op : Arithmetic) (a b : Expr)
  /-- A number behind signs: it changes sign when their count is odd. -/
  | signed (odd : Bool) (a : Expr)
  | union (a b : Expr)
  | literal (s : String)
  | number (x : Float)
  | variable (qualifier : Option String) (name : String)
  | call (qualifier : Option String) (name : String) (args : List Expr)

instance : Inhabited Expr := ⟨.here⟩

def Expr.anywhere (origin : Expr) : Expr :=
  .step origin .descendantOrSelf .node []

end Quarry.Query
