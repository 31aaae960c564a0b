import Quarry.Matcher.Root

namespace Quarry

def derivedFrom (s : String) : String := "Matcher(parent=" ++ s ++ ")"

def queryShown (q : String) : String := "QueryPath(query=" ++ Text.quoted q ++ ")"

def mergedShown (r : Option Root) : String :=
  match r with
  | some r => derivedFrom (derivedFrom (queryShown r.query))
  | none => "None"

mutual

def Matcher.shown : Matcher → String
  | .multi p | .single p => derivedFrom p.shown
  | .constant _ => derivedFrom "None"
  | .bind m _ | .map m _ | .deepMap m _ | .flatMap m _ | .parse m _ _ _ => derivedFrom m.shown
  | .seqOr l r => derivedFrom (mergedShown (Matcher.seqOr l r).root?)
  | .seqOrPath l r => derivedFrom (mergedShown (Matcher.seqOrPath l r).root?)

def Path.shown : Path → String
  | .query q => queryShown q
  | .index i => "IndexPath(index=" ++ toString i ++ ")"
  | .keyed es sequence =>
    "KeyedPaths(entries=" ++ Value.tupleText (entriesShown es) ++ ", sequence=" ++
      Value.boolText sequence ++ ")"
  | .function f => "FunctionPath(fn=" ++ f.shown ++ ")"
  | .malformed v => v.shown

def Evaluator.shown : Evaluator → String
  | .matcher m => m.shown
  | .plain name _ => "<fn " ++ name ++ ">"

def entriesShown : List (Value × Path) → List String
  | [] => []
  | (k, p) :: es => Value.tupleText [k.shown, p.shown] :: entriesShown es

end

mutual

/-- Whether no number that is shown of a matcher has too many digits. -/
def Matcher.isWritable : Matcher → Bool
  | .multi p | .single p => p.isWritable
  | .bind m _ | .map m _ | .deepMap m _ | .flatMap m _ | .parse m _ _ _ => m.isWritable
  | .constant _ | .seqOr _ _ | .seqOrPath _ _ => true

def Path.isWritable : Path → Bool
  | .query _ => true
  | .index i => Number.isWritable i
  | .keyed es _ => entriesWritable es
  | .function f => f.isWritable
  | .malformed v => v.isWritable

def Evaluator.isWritable : Evaluator → Bool
  | .matcher m => m.isWritable
  | .plain _ _ => true

def entriesWritable : List (Value × Path) → Bool
  | [] => true
  | (k, p) :: es => k.isWritable && p.isWritable && entriesWritable es

end

def Matcher.text? (m : Matcher) : Option String := if m.isWritable then some m.shown else none

def Path.text? (p : Path) : Option String := if p.isWritable then some p.shown else none

def Path.kind : Path → String
  | .query _ => "QueryPath"
  | .index _ => "IndexPath"
  | .keyed _ _ => "KeyedPaths"
  | .function _ => "FunctionPath"
  | .malformed v => v.typeName

/-- The names of the bound extractors from a matcher down to the path it was built on. -/
def Matcher.chain : Matcher → List (Option String)
  | .multi _ | .single _ | .constant _ => [none]
  | .bind m e => some e.name :: m.chain
  | .map m _ | .deepMap m _ | .flatMap m _ | .parse m _ _ _ => none :: m.chain
  | .seqOr _ _ | .seqOrPath _ _ => [none, some Extractor.identity.name, none]

def Matcher.base? : Matcher → Option Path
  | .multi p | .single p => some p
  | .constant _ => none
  | .bind m _ | .map m _ | .deepMap m _ | .flatMap m _ | .parse m _ _ _ => m.base?
  | .seqOr l r => (Matcher.seqOr l r).root?.map fun a => .query a.query
  | .seqOrPath l r => (Matcher.seqOrPath l r).root?.map fun a => .query a.query

end Quarry
