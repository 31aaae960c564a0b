import Quarry.Matcher.Shown

namespace Quarry

inductive Parent
  | matcher (m : Matcher)
  | path (p : Path)
  | nothing

/-- A merger is derived from the unextracted matches of its joined query. -/
def Parent.ofMerger : Option Root → Parent
  | some r => .matcher (Matcher.multi (.query r.query)).raw
  | none => .nothing

namespace Matcher

def parent : Matcher → Parent
  | .multi p | .single p => .path p
  | .constant _ => .nothing
  | .bind m _ | .map m _ | .deepMap m _ | .flatMap m _ | .parse m _ _ _ => .matcher m
  | .seqOr l r => .ofMerger (Matcher.seqOr l r).root?
  | .seqOrPath l r => .ofMerger (Matcher.seqOrPath l r).root?

def bound? : Matcher → Option Extractor
  | .bind _ e => some e
  | _ => none

end Matcher

def Parent.shown : Parent → String
  | .matcher m => m.shown
  | .path p => p.shown
  | .nothing => "None"

def Parent.base? : Parent → Option Path
  | .matcher m => m.base?
  | .path p => some p
  | .nothing => none

@[simp]
theorem Parent.shown_ofMerger (r : Option Root) : (Parent.ofMerger r).shown = mergedShown r := by
  cases r with
  | none => rfl
  | some r => rfl

@[simp]
theorem Parent.base?_ofMerger (r : Option Root) :
    (Parent.ofMerger r).base? = r.map fun a => .query a.query := by
  cases r with
  | none => rfl
  | some r => rfl

theorem Matcher.shown_eq (m : Matcher) : m.shown = derivedFrom m.parent.shown := by
  cases m with
  | seqOr l r | seqOrPath l r => simp only [shown, parent, Parent.shown_ofMerger]
  | _ => simp only [shown, parent, Parent.shown]

theorem Matcher.base?_eq (m : Matcher) : m.base? = m.parent.base? := by
  cases m with
  | seqOr l r | seqOrPath l r => simp only [base?, parent, Parent.base?_ofMerger]
  | _ => simp only [base?, parent, Parent.base?]

/-- A walk under way has the matcher that it met last and what it looks at; in the end it has found
that matcher and its query, or nothing. -/
inductive Walk
  | going (innermost : Matcher) (current : Parent)
  | found (innermost : Matcher) (query : String)
  | lost

namespace Walk

def start (m : Matcher) : Walk := .going m (.matcher m)

def step : Walk → Walk
  | .going _ (.matcher m) => .going m m.parent
  | .going i (.path (.function (.matcher m))) => .going i (.matcher m)
  | .going i (.path (.query q)) => .found i q
  | .going _ _ => .lost
  | w => w

end Walk

end Quarry
