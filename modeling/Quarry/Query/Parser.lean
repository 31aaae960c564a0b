import Quarry.Markup.Character
import Quarry.Query.Expr
import Quarry.Query.Numeral

namespace Quarry.Query

open Markup (skipBlanks splitLocalName? splitName? after?)

def nestingLimit : Nat := 500

/-- Operators that bind alike, each a word and what it makes of its operands; of two that begin
alike the longer stands first. -/
abbrev Operators := List (String × (Expr → Expr → Expr))

def operators : List Operators :=
  [[("or", .either)],
   [("and", .both)],
   [("=", .equal), ("!=", .different)],
   [("<=", .atMost), ("<", .less), (">=", fun a b => .atMost b a), (">", fun a b => .less b a)],
   [("+", .arithmetic .add), ("-", .arithmetic .subtract)],
   [("*", .arithmetic .multiply), ("div", .arithmetic .divide),
    ("mod", .arithmetic .remainder)]]

def operator? (ops : Operators) (s : List Char) :
    Option ((Expr → Expr → Expr) × List Char) :=
  ops.findSome? fun (word, make) => (after? word.toList s).map fun r => (make, r)

def splitSigns : Option Bool → List Char → Option Bool × List Char
  | odd, '-' :: s => splitSigns (some !(odd.getD false)) s
  | odd, c :: s => if Text.isMarkupBlank c then splitSigns odd s else (odd, c :: s)
  | odd, [] => (odd, [])

def literal? : List Char → Option (String × List Char)
  | q :: s =>
    if q = '\'' ∨ q = '"' then
      (Markup.splitBefore? [q] s).map fun (t, r) => (String.ofList t, r)
    else none
  | [] => none

def qualifiedName? (s : List Char) : Option ((Option String × String) × List Char) := do
  let (name, r) ← splitLocalName? s
  match r with
  | ':' :: t =>
    let (base, u) ← splitLocalName? t
    return ((some name, base), u)
  | _ => return ((none, name), r)

def kindTest? : String → Option Test
  | "node" => some .node
  | "text" => some .text
  | "comment" => some .comment
  | "processing-instruction" => some (.instruction none)
  | _ => none

inductive Beginning
  | path
  | primary

/-- Tells a path from anything else. A name followed by an opening parenthesis begins a call
unless it names a kind of place or an axis stands in front. -/
def beginning? (s : List Char) : Option Beginning :=
  match s with
  | [] => none
  | c :: t =>
    if c = '$' ∨ c = '(' ∨ c = '\'' ∨ c = '"' ∨ c.isDigit then some .primary
    else if c = '.' then some (if (t.head?).any Char.isDigit then .primary else .path)
    else if c = '*' ∨ c = '/' ∨ c = '@' then some .path
    else do
      let (name, r) ← splitName? s
      let isCall := (name.splitOn "::").length = 1 && (skipBlanks r).head? = some '(' &&
        (kindTest? name).isNone
      return if isCall then .primary else .path

def beginsStep (s : List Char) : Bool :=
  (s.head?).any fun c => c.isAlpha || c.toNat ≥ 0x80 || c = '_' || c = '.' || c = '@' || c = '*'

def axis? (s : List Char) : (Axis × Option String) × List Char :=
  match splitLocalName? s with
  | some (name, r) => match Axis.ofName? name, after? [':', ':'] (skipBlanks r) with
    | some axis, some u => ((axis, none), u)
    | _, _ => ((.child, some name), r)
  | none => match s with
    | '@' :: t => ((.attribute, none), t)
    | _ => ((.child, none), s)

def kindBody? (name : String) (s : List Char) : Option (Test × List Char) := do
  let kind ← kindTest? name
  match kind, skipBlanks s with
  | kind, ')' :: r => return (kind, r)
  | .instruction _, t =>
    let (target, r) ← literal? t
    let u ← after? [')'] (skipBlanks r)
    return (.instruction (some target), u)
  | _, _ => none

def test? (name? : Option String) (s : List Char) : Option (Test × List Char) :=
  match name?, skipBlanks s with
  | none, '*' :: r => some (.anyName none, r)
  | _, _ => do
    let (name, r) ← match name? with
      | some name => some (name, s)
      | none => splitLocalName? (skipBlanks s)
    match r, skipBlanks r with
    | _, '(' :: u => kindBody? name u
    | ':' :: '*' :: u, _ => return (.anyName (some name), u)
    | ':' :: u, _ =>
      let (base, v) ← splitLocalName? u
      return (.name (some name) base, v)
    | _, u => return (.name none name, u)

mutual

def expr? : Nat → Nat → List Char → Option (Expr × List Char)
  | 0, _, _ => none
  | fuel + 1, depth, s =>
    if nestingLimit ≤ depth then none else level? fuel depth operators s

def level? : Nat → Nat → List Operators → List Char → Option (Expr × List Char)
  | 0, _, _, _ => none
  | fuel + 1, depth, [], s =>
    match splitSigns none s with
    | (none, t) => union? fuel depth t
    | (some odd, t) => do
      let (e, r) ← union? fuel depth t
      return (.signed odd e, r)
  | fuel + 1, depth, ops :: tighter, s => do
    let (e, r) ← level? fuel depth tighter s
    operands? fuel depth ops tighter e (skipBlanks r)

def operands? : Nat → Nat → Operators → List Operators → Expr → List Char →
    Option (Expr × List Char)
  | 0, _, _, _, _, _ => none
  | fuel + 1, depth, ops, tighter, e, s =>
    match operator? ops s with
    | none => some (e, s)
    | some (make, t) => do
      let (e', r) ← level? fuel depth tighter t
      operands? fuel depth ops tighter (make e e') (skipBlanks r)

def union? : Nat → Nat → List Char → Option (Expr × List Char)
  | 0, _, _ => none
  | fuel + 1, depth, s => do
    let (e, r) ← operand? fuel depth (skipBlanks s)
    members? fuel depth e (skipBlanks r)

def members? : Nat → Nat → Expr → List Char → Option (Expr × List Char)
  | 0, _, _, _ => none
  | fuel + 1, depth, e, s =>
    match s with
    | '|' :: t => do
      let (e', r) ← operand? fuel depth (skipBlanks t)
      members? fuel depth (.union e e') (skipBlanks r)
    | _ => some (e, s)

def operand? : Nat → Nat → List Char → Option (Expr × List Char)
  | 0, _, _ => none
  | fuel + 1, depth, s =>
    match beginning? s with
    | none => none
    | some .path => match s with
      | '/' :: _ => absolute? fuel depth .root s
      | _ => relative? fuel depth .here s
    | some .primary => do
      let (e, r) ← primary? fuel depth s
      let (e, r) ← filters? fuel depth e (skipBlanks r)
      match r with
      | '/' :: '/' :: t => relative? fuel depth e.anywhere t
      | '/' :: _ => relative? fuel depth e r
      | _ => return (e, r)

def primary? : Nat → Nat → List Char → Option (Expr × List Char)
  | 0, _, _ => none
  | fuel + 1, depth, s =>
    match s with
    | '$' :: t => do
      let ((q, name), r) ← qualifiedName? t
      return (.variable q name, r)
    | '(' :: t => do
      let (e, r) ← expr? fuel (depth + 1) t
      let u ← after? [')'] (skipBlanks r)
      return (e, u)
    | c :: _ =>
      if c.isDigit ∨ c = '.' then do
        let ((x, e), r) ← splitNumber? s
        return (.number (x * tenTo e), r)
      else if c = '\'' ∨ c = '"' then do
        let (t, r) ← literal? s
        return (.literal t, r)
      else do
        let ((q, name), r) ← qualifiedName? s
        let t ← after? ['('] (skipBlanks r)
        match skipBlanks t with
        | ')' :: u => return (.call q name [], u)
        | u =>
          let (args, v) ← arguments? fuel depth u
          return (.call q name args, v)
    | [] => none

/-- Arguments apart by commas, up to the closing parenthesis. The end of the text closes a list
where an argument might begin. -/
def arguments? : Nat → Nat → List Char → Option (List Expr × List Char)
  | 0, _, _ => none
  | fuel + 1, depth, s =>
    match s with
    | [] => some ([], [])
    | _ => do
      let (e, r) ← expr? fuel (depth + 1) s
      match r with
      | ')' :: t => return ([e], t)
      | ',' :: t =>
        let (es, u) ← arguments? fuel depth (skipBlanks t)
        return (e :: es, u)
      | _ => none

def filters? : Nat → Nat → Expr → List Char → Option (Expr × List Char)
  | 0, _, _, _ => none
  | fuel + 1, depth, e, s =>
    match s with
    | '[' :: t => do
      let (p, r) ← predicate? fuel depth t
      filters? fuel depth (.filter e p) (skipBlanks r)
    | _ => some (e, s)

def predicate? : Nat → Nat → List Char → Option (Expr × List Char)
  | 0, _, _ => none
  | fuel + 1, depth, s => do
    let (e, r) ← expr? fuel (depth + 1) (skipBlanks s)
    let t ← after? [']'] r
    return (e, t)

def absolute? : Nat → Nat → Expr → List Char → Option (Expr × List Char)
  | 0, _, _, _ => none
  | fuel + 1, depth, e, s =>
    match s with
    | '/' :: '/' :: t => do
      let (e', r) ← relative? fuel depth e.anywhere t
      absolute? fuel depth e' r
    | '/' :: t =>
      let u := skipBlanks t
      if beginsStep u then do
        let (e', r) ← relative? fuel depth e u
        absolute? fuel depth e' r
      else absolute? fuel depth e u
    | _ => some (e, s)

def relative? : Nat → Nat → Expr → List Char → Option (Expr × List Char)
  | 0, _, _, _ => none
  | fuel + 1, depth, e, s =>
    match skipBlanks s with
    | '/' :: '/' :: t => steps? fuel depth e.anywhere (skipBlanks t)
    | '/' :: t => steps? fuel depth e (skipBlanks t)
    | t => steps? fuel depth e t

def steps? : Nat → Nat → Expr → List Char → Option (Expr × List Char)
  | 0, _, _, _ => none
  | fuel + 1, depth, e, s => do
    let (e', r) ← step? fuel depth e s
    match skipBlanks r with
    | '/' :: '/' :: t => steps? fuel depth e'.anywhere (skipBlanks t)
    | '/' :: t => steps? fuel depth e' (skipBlanks t)
    | t => return (e', t)

def step? : Nat → Nat → Expr → List Char → Option (Expr × List Char)
  | 0, _, _, _ => none
  | fuel + 1, depth, e, s =>
    match s with
    | '.' :: '.' :: t => some (.step e .parent .node [], t)
    | '.' :: t => some (e, t)
    | _ => do
      let ((axis, name), r) := axis? s
      let (test, t) ← test? name r
      let (ps, u) ← predicates? fuel depth (skipBlanks t)
      return (.step e axis test ps, u)

def predicates? : Nat → Nat → List Char → Option (List Expr × List Char)
  | 0, _, _ => none
  | fuel + 1, depth, s =>
    match s with
    | '[' :: t => do
      let (p, r) ← predicate? fuel depth t
      let (ps, u) ← predicates? fuel depth (skipBlanks r)
      return (p :: ps, u)
    | _ => some ([], s)

end

/-- The expression that a whole text writes. Every character takes part in fewer than thirty-two
nested readings. -/
def wholeExpr? (s : List Char) : Option Expr :=
  match expr? (32 * (s.length + 2)) 0 s with
  | some (e, []) => some e
  | _ => none

def plainOrigin? : Expr → Option Expr
  | .root => some .root
  | .here => some .here
  | .step e .child (.name none _) [] | .step e .child (.anyName none) []
  | .step e .descendantOrSelf .node [] => plainOrigin? e
  | .union a b => match plainOrigin? a, plainOrigin? b with
    | some .root, some .root => some .root
    | some .here, some .here => some .here
    | _, _ => none
  | _ => none

/-- Reads a query. Behind plain paths written with names, stars, dots and slashes alone a bar at
the end is passed over. -/
def Expr.parse? (s : String) : Option Expr :=
  let cs := s.toList
  match wholeExpr? cs, cs.reverse with
  | none, '|' :: front =>
    if cs.any fun c => c = '[' || c = '(' || c = '@' || c = ':' then none
    else (wholeExpr? front.reverse).filter fun e => (plainOrigin? e).isSome
  | r, _ => r

end Quarry.Query
