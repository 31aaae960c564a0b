import Quarry.Markup.Xml.Scope
import Quarry.Query.Result

namespace Quarry.Query

/-- Where an expression is evaluated: a place and, inside a predicate, its position among the
places that are tested and their number. -/
structure Focus where
  place : Place
  extent : Option (Nat × Nat)

def joinBlanks (s : String) : String :=
  String.ofList (go false s.toList)
where
  go : Bool → List Char → List Char
    | _, [] => []
    | inside, c :: s =>
      if Text.isMarkupBlank c then
        if inside && s.any (!Text.isMarkupBlank ·) then ' ' :: go false s else go false s
      else c :: go true s

/-- Characters of `source` replaced by those at the same place of `target`, or dropped if there is
none. The first occurrence in `source` counts. -/
def translate (s source target : List Char) : List Char :=
  s.filterMap fun c => match source.findIdx? (· = c) with
    | none => some c
    | some k => target[k]?

/-- `x` to the nearest integer, a half upwards; what is next to zero keeps its sign. -/
def round (x : Float) : Float :=
  if -0.5 ≤ x && x < 0.5 then x * 0.0
  else if x - x.floor ≥ 0.5 then x.floor + 1.0
  else x.floor

def position (x : Float) : Nat :=
  if x < 2147483647.0 then x.toUInt64.toNat else 2147483647

/-- The characters from a position on, counted from one, and at most up to a length. Both are
rounded, and what is not a number lies beyond every text as a start and before it as an end. -/
def substring (s : String) (start : Float) (length : Option Float) : String :=
  let near (x : Float) : Float := if x - x.floor ≥ 0.5 then x.floor + 1.0 else x.floor
  let first := if start < 1.0 then 1 else position (near start)
  let last := match length with
    | none => 2147483647
    | some l =>
      let stop := near start + near l
      if stop ≥ 1.0 then position stop else 1
  String.ofList ((s.toList.take (last - 1)).drop (first - 1))

def language? (d : Document) (p : Place) : Option String :=
  (p :: p.ancestors).findSome? fun q => do
    let i ← q.item? d
    let a ← i.attributes.find? fun a =>
      a.name.space = some Markup.Xml.xmlSpace && a.name.base = "lang"
    return a.value

def isLanguage (given actual : String) : Bool :=
  let lower (s : String) : List Char := s.toList.map Char.toLower
  match Markup.after? (lower given) (lower actual) with
  | some [] => true
  | some (c :: _) => c = '-'
  | none => false

/-- The elements that an identifier in a list of some names: each name is that of the first one in
the document. -/
def identified (d : Document) (names : List String) : List Place :=
  let elements := (Place.document.descendants d).filter fun p => (p.item? d).any Item.isElement
  let hasId (name : String) (p : Place) : Bool :=
    (p.item? d).any fun i => i.attributes.any fun a => a.isId && a.value = name
  Place.inOrder (names.filterMap fun name => elements.find? (hasId name))

def words (s : String) : List String :=
  ((joinBlanks s).splitOn " ").filter (· ≠ "")

def baseName (d : Document) (p : Place) : String :=
  match p.binding? d, p.name? d, (p.item? d).map Item.label with
  | some (q, _), _, _ => q.getD ""
  | _, some n, _ => n.base
  | _, _, some (.instruction target) => target
  | _, _, _ => ""

def fullName (d : Document) (p : Place) : String :=
  match p.name? d with
  | some n => n.qualified
  | none => baseName d p

def spaceName (d : Document) (p : Place) : String :=
  (((p.name? d).map Name.space).join).getD ""

/-- The functions that need an argument about a place look at the place of evaluation without it. -/
def defaultsToHere : List String :=
  ["string", "number", "string-length", "normalize-space", "local-name", "namespace-uri", "name"]

def call (d : Document) (f : Focus) (name : String) (args : List Result) : Option Result :=
  let args := if args.isEmpty && defaultsToHere.contains name then [.places [f.place]] else args
  let ofFirst (ps : List Place) (g : Place → String) : Option Result :=
    some (.text ((ps.head?.map g).getD ""))
  match name, args with
  | "last", [] => f.extent.map fun e => .number (Float.ofNat e.2)
  | "position", [] => f.extent.map fun e => .number (Float.ofNat e.1)
  | "count", [.places ps] => some (.number (Float.ofNat ps.length))
  | "id", [.places ps] => some (.places (identified d (ps.flatMap fun p => words (p.content d))))
  | "id", [r] => some (.places (identified d (words (r.toText d))))
  | "local-name", [.places ps] => ofFirst ps (baseName d)
  | "namespace-uri", [.places ps] => ofFirst ps (spaceName d)
  | "name", [.places ps] => ofFirst ps (fullName d)
  | "string", [r] => some (.text (r.toText d))
  | "concat", r :: s :: rs => some (.text (String.join ((r :: s :: rs).map (toText d))))
  | "starts-with", [r, s] => some (.truth ((s.toText d).toList.isPrefixOf (r.toText d).toList))
  | "contains", [r, s] =>
    some (.truth (Markup.splitBefore? (s.toText d).toList (r.toText d).toList).isSome)
  | "substring-before", [r, s] =>
    let parts := Markup.splitBefore? (s.toText d).toList (r.toText d).toList
    some (.text (String.ofList ((parts.map Prod.fst).getD [])))
  | "substring-after", [r, s] =>
    let parts := Markup.splitBefore? (s.toText d).toList (r.toText d).toList
    some (.text (String.ofList ((parts.map Prod.snd).getD [])))
  | "substring", [r, s] => some (.text (substring (r.toText d) (s.toNumber d) none))
  | "substring", [r, s, l] =>
    some (.text (substring (r.toText d) (s.toNumber d) (some (l.toNumber d))))
  | "string-length", [r] => some (.number (Float.ofNat (r.toText d).length))
  | "normalize-space", [r] => some (.text (joinBlanks (r.toText d)))
  | "translate", [r, s, t] =>
    let cs := translate (r.toText d).toList (s.toText d).toList (t.toText d).toList
    some (.text (String.ofList cs))
  | "boolean", [r] => some (.truth r.toTruth)
  | "not", [r] => some (.truth !r.toTruth)
  | "true", [] => some (.truth true)
  | "false", [] => some (.truth false)
  | "lang", [r] =>
    some (.truth ((language? d f.place).any (isLanguage (r.toText d))))
  | "number", [r] => some (.number (r.toNumber d))
  | "sum", [.places ps] =>
    some (.number (ps.foldl (fun x p => x + readNumber (p.content d)) 0.0))
  | "floor", [r] => some (.number (r.toNumber d).floor)
  | "ceiling", [r] => some (.number (r.toNumber d).ceil)
  | "round", [r] => some (.number (round (r.toNumber d)))
  | _, _ => none
where
  toText (d : Document) (r : Result) : String := r.toText d

end Quarry.Query
