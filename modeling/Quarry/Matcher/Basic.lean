import Quarry.Extractor
import Quarry.Markup

namespace Quarry

mutual

inductive Matcher
  /-- Every match of a query, or else the value of the path. -/
  | multi (path : Path)
  /-- The first match of a query, or else the value of the path. -/
  | single (path : Path)
  | constant (v : Value)
  /-- Fixes the extractor, so that one given later has no effect. -/
  | bind (m : Matcher) (e : Extractor)
  | map (m : Matcher) (f : Value → Outcome Value)
  | deepMap (m : Matcher) (f : Evaluator)
  /-- Chooses by the unextracted value what is evaluated in its place. -/
  | flatMap (m : Matcher) (f : Value → Evaluator)
  | parse (m : Matcher) (markup : Markup) (e : Option Extractor) (config : Config)
  | seqOr (left right : Matcher)
  /-- A merger with a path around the right matcher: its root query takes part, but a path cannot
  be evaluated in the matcher's place. -/
  | seqOrPath (left right : Matcher)

inductive Path
  | query (q : String)
  | index (i : Nat)
  | keyed (entries : List (Value × Path)) (sequence : Bool)
  | function (f : Evaluator)
  | malformed (v : Value)

/-- A matcher, or a named function of a node and the extractor in force. -/
inductive Evaluator
  | matcher (m : Matcher)
  | plain (name : String) (run : Value → Option Extractor → Outcome Value)

end

instance : Inhabited Path := ⟨.query ""⟩
instance : Inhabited Matcher := ⟨.constant .none⟩
instance : Inhabited Evaluator := ⟨.matcher default⟩

namespace Matcher

def raw (m : Matcher) : Matcher := m.bind .identity

def withExtractor (m : Matcher) (e : Option Extractor) : Matcher := m.bind (Extractor.resolve e)

def multiChain (p : Path) : List Path → Matcher
  | [] => .multi p
  | q :: qs => (raw (.multi p)).deepMap (.matcher (multiChain q qs))

def singleChain (p : Path) : List Path → Matcher
  | [] => .single p
  | q :: qs => (raw (.single p)).deepMap (.matcher (singleChain q qs))

end Matcher

end Quarry
