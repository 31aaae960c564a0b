import Quarry.Pattern.Escape
import Quarry.Pattern.Expr

namespace Quarry.Pattern

structure Flags where
  ignoreCase : Bool
  multiline : Bool
  dotAll : Bool
  lazy : Bool
  deriving DecidableEq, Repr

def Flags.plain : Flags := ⟨false, false, false, false⟩

structure OpenGroup where
  index : Option Nat
  flags : Flags
  branches : List Expr
  items : List Expr

/-- What has been read so far. Branches and items are those of the innermost open group, the latest
first; `repeated` is the text from a repetition on, directly behind it. -/
structure Reading where
  flags : Flags
  branches : List Expr
  items : List Expr
  outer : List OpenGroup
  groups : Nat
  names : List (String × Nat)
  repeated : Option (List Char)

namespace Reading

def start : Reading := ⟨.plain, [], [], [], 0, [], none⟩

def push (r : Reading) (e : Expr) : Reading :=
  { r with items := e :: r.items, repeated := none }

def pushCode (r : Reading) (n : Nat) : Reading :=
  r.push (.set (.single n r.flags.ignoreCase))

def body (r : Reading) : Expr :=
  .ofBranches ((.ofSequence r.items.reverse :: r.branches).reverse)

def bar (r : Reading) : Reading :=
  { r with branches := .ofSequence r.items.reverse :: r.branches, items := [], repeated := none }

def openGroup (r : Reading) (index : Option Nat) : Reading :=
  { r with
    branches := [], items := [], repeated := none
    outer := ⟨index, r.flags, r.branches, r.items⟩ :: r.outer }

/-- Opens a group that captures; of several with one name the first has it. -/
def openCapture (r : Reading) (name : Option String) : Reading :=
  let named := match name with
    | some n => if r.names.any fun e => e.1 = n then r.names else r.names ++ [(n, r.groups)]
    | none => r.names
  { r.openGroup (some r.groups) with groups := r.groups + 1, names := named }

def close? (r : Reading) : Option Reading :=
  match r.outer with
  | [] => none
  | g :: outer =>
    let e := match g.index with
      | some k => .group k r.body
      | none => r.body
    some { r with
      flags := g.flags, branches := g.branches, items := e :: g.items, outer := outer
      repeated := none }

end Reading

def nameCategories : List String :=
  ["Lu", "Ll", "Lt", "Lm", "Lo", "Nl", "Mn", "Mc", "Nd", "Pc"]

def isGroupName (name : List Char) : Bool :=
  !name.isEmpty && name.all fun c =>
    nameCategories.any fun k => ((Text.category? k).getD []).contains c.toNat

def Flags.set? (f : Flags) (on : Bool) : Char → Option Flags
  | 'i' => some { f with ignoreCase := on }
  | 'm' => some { f with multiline := on }
  | 's' => some { f with dotAll := on }
  | 'U' => some { f with lazy := on }
  | _ => none

/-- Flags up to the sign that ends them: a colon opens a group for them, a parenthesis lets them
hold on. Behind a minus they are cleared, and there must be one. -/
def readFlags (s : List Char) (f : Flags) (on cleared : Bool) :
    List Char → Except Flaw ((Flags × Bool) × List Char)
  | [] => fail .badOperator s
  | c :: t =>
    if c = ':' ∨ c = ')' then
      if on || cleared then .ok ((f, c = ':'), t) else fail .badOperator (readUpTo s t)
    else if c = '-' then
      if on then readFlags s f false false t else fail .badOperator (readUpTo s t)
    else match f.set? on c with
      | some f => readFlags s f on true t
      | none => fail .badOperator (readUpTo s t)

def readExtension (r : Reading) (s : List Char) : Except Flaw (Reading × List Char) :=
  let named (inside : List Char) : Except Flaw (Reading × List Char) :=
    match Markup.splitBefore? ['>'] inside with
    | none => fail .badName s
    | some (name, rest) =>
      if isGroupName name then .ok (r.openCapture (some (String.ofList name)), rest)
      else fail .badName (readUpTo s rest)
  match s.drop 2 with
  | '=' :: _ | '!' :: _ => fail .badOperator (s.take 3)
  | '<' :: '=' :: _ :: _ | '<' :: '!' :: _ :: _ => fail .badOperator (s.take 4)
  | 'P' :: '<' :: c :: t => named (c :: t)
  | '<' :: c :: t => named (c :: t)
  | t => do
    let ((flags, opens), rest) ← readFlags s r.flags true false t
    if opens then return ({ r.openGroup none with flags := flags }, rest)
    return ({ r with flags := flags, repeated := none }, rest)

def readCount? (s : List Char) : Option (Nat × List Char) :=
  let ds := s.takeWhile Char.isDigit
  let n := ds.foldl (fun n d => 10 * n + (d.toNat - 48)) 0
  if ds.isEmpty || (ds.head? = some '0' && 1 < ds.length) || 1000000000 ≤ n then none
  else some (n, s.dropWhile Char.isDigit)

/-- The counts of a repetition between braces. Anything else there is literal text. -/
def readCounts? (s : List Char) : Option ((Nat × Option Nat) × List Char) := do
  let (low, t) ← readCount? (s.drop 1)
  match t with
  | '}' :: u => return ((low, some low), u)
  | ',' :: '}' :: u => return ((low, none), u)
  | ',' :: u =>
    let (high, v) ← readCount? u
    let w ← Markup.after? ['}'] v
    return ((low, some high), w)
  | _ => none

/-- The most rounds that a repetition may count, those of nested ones multiplied. -/
def roundLimit : Nat := 1000

inductive Repetition
  | star
  | plus
  | optional
  | counted (low : Nat) (high : Option Nat)

def Repetition.apply (r : Repetition) (e : Expr) (greedy : Bool) : Expr :=
  match r with
  | star => .star e greedy
  | plus => .plus e greedy
  | optional => .optional e greedy
  | counted low high => .counted low high e greedy

def Repetition.inRange : Repetition → Bool
  | counted low high =>
    low ≤ roundLimit && match high with
      | some h => low ≤ h && h ≤ roundLimit
      | none => true
  | _ => true

def Repetition.copies : Repetition → Bool
  | counted low high => 2 ≤ low || match high with
    | some h => 2 ≤ h
    | none => false
  | _ => false

/-- Repeats the latest item. The text of the repetition is `s` without `t`, to which a mark may
belong. -/
def Reading.repeatLast (r : Reading) (op : Repetition) (s t : List Char) :
    Except Flaw (Reading × List Char) :=
  let (marked, rest) := match t with
    | '?' :: u => (true, u)
    | _ => (false, t)
  match r.repeated with
  | some first => fail .stackedRepeat (readUpTo first rest)
  | none =>
    let text := readUpTo s rest
    if !op.inRange then fail .repeatSize text
    else match r.items with
      | [] => fail .nothingToRepeat text
      | e :: items =>
        let repeated := op.apply e (marked == r.flags.lazy)
        if op.copies && repeated.allowance roundLimit = 0 then fail .repeatSize text
        else .ok ({ r with items := repeated :: items, repeated := some s }, rest)

def Reading.quoted (r : Reading) : List Char → Reading × List Char
  | [] => (r, [])
  | '\\' :: 'E' :: t => (r, t)
  | c :: t => quoted (r.pushCode c.toNat) t

def readEscape (r : Reading) (s : List Char) : Except Flaw (Reading × List Char) :=
  let unmarked : Reading := { r with repeated := none }
  match s.drop 1 with
  | 'b' :: t => .ok (r.push (.condition .wordEdge), t)
  | 'B' :: t => .ok (r.push (.condition .noWordEdge), t)
  | 'A' :: t => .ok (r.push (.condition .textStart), t)
  | 'z' :: t => .ok (r.push (.condition .textEnd), t)
  | 'C' :: t => .ok (r.push .byte, t)
  | 'Q' :: t => .ok (unmarked.quoted t)
  | 'p' :: _ | 'P' :: _ => do
    let (part, t) ← propertyPart r.flags.ignoreCase s
    return (r.push (.set (.ofPart part)), t)
  | _ => match letterPart? r.flags.ignoreCase s with
    | some (part, t) => .ok (r.push (.set (.ofPart part)), t)
    | none => do
      let (n, t) ← escapedCode s
      return (r.pushCode n, t)

def readPiece (whole : List Char) (r : Reading) (c : Char) (t : List Char) :
    Except Flaw (Reading × List Char) :=
  let s := c :: t
  match c with
  | '(' => match t with
    | '?' :: _ => readExtension r s
    | _ => .ok (r.openCapture none, t)
  | ')' => match r.close? with
    | some r => .ok (r, t)
    | none => fail .unexpectedParen whole
  | '|' => .ok (r.bar, t)
  | '^' => .ok (r.push (.condition (if r.flags.multiline then .lineStart else .textStart)), t)
  | '$' => .ok (r.push (.condition (if r.flags.multiline then .lineEnd else .textEnd)), t)
  | '.' => .ok (r.push (.set (if r.flags.dotAll then .all else .inLine)), t)
  | '[' => do
    let (set, t) ← bracket r.flags.ignoreCase s
    return (r.push (.set set), t)
  | '*' => r.repeatLast .star s t
  | '+' => r.repeatLast .plus s t
  | '?' => r.repeatLast .optional s t
  | '\x7b' => match readCounts? s with
    | some ((low, high), t) => r.repeatLast (.counted low high) s t
    | none => .ok (r.pushCode c.toNat, t)
  | '\\' => readEscape r s
  | c => .ok (r.pushCode c.toNat, t)

structure Parsed where
  expr : Expr
  groups : Nat
  names : List (String × Nat)

def readPieces (whole : List Char) : Nat → Reading → List Char → Except Flaw Parsed
  | _, r, [] =>
    if r.outer.isEmpty then .ok ⟨r.body, r.groups, r.names⟩ else fail .missingParen whole
  | 0, _, _ => fail .missingParen whole
  | fuel + 1, r, c :: t => do
    let (r, rest) ← readPiece whole r c t
    readPieces whole fuel r rest

def Expr.parse (s : String) : Except Flaw Parsed :=
  readPieces s.toList s.length .start s.toList

end Quarry.Pattern
