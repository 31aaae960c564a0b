import Quarry.Markup.Xml.Scope
import Quarry.Value.Basic

namespace Quarry.Query

/-- A place of a document. Attributes and namespaces are counted within their element; an item, a
text and a tail are given by the path of the item that they belong to. -/
inductive Place
  | document
  | item (path : List Nat)
  | text (path : List Nat)
  | tail (path : List Nat)
  | attribute (path : List Nat) (index : Nat)
  | scope (path : List Nat) (index : Nat)
  deriving DecidableEq, Repr

namespace Place

def itemKey (path : List Nat) : List Nat :=
  path.map fun k => 2 * k + 3

def tailKey : List Nat → List Nat
  | [] => []
  | [k] => [2 * k + 4]
  | k :: path => (2 * k + 3) :: tailKey path

/-- Keys order places as the document does, and a place inside another has its key in front. -/
def key : Place → List Nat
  | .document => []
  | .item path => itemKey path
  | .text path => itemKey path ++ [2]
  | .tail path => tailKey path
  | .attribute path i => itemKey path ++ [1, i]
  | .scope path i => itemKey path ++ [0, i]

def inOrder (ps : List Place) : List Place :=
  let keyed := (ps.map fun p => (p.key, p)).mergeSort fun a b => !(b.1 < a.1 : Bool)
  dropRepeats (keyed.map Prod.snd)
where
  dropRepeats : List Place → List Place
    | [] => []
    | [p] => [p]
    | p :: q :: ps => if p = q then dropRepeats (q :: ps) else p :: dropRepeats (q :: ps)

def carrier : Place → Place
  | .attribute path _ | .scope path _ => item path
  | p => p

def item? (d : Document) : Place → Option Item
  | .item path => d.itemAt? path
  | _ => none

def attribute? (d : Document) : Place → Option Attribute
  | .attribute path i => do (← d.itemAt? path).attributes[i]?
  | _ => none

/-- The namespaces that hold for an element, each qualifier once: those in scope are listed from
the innermost declaration outwards and counted from the last one, after the one that always
holds. -/
def bindings (d : Document) (path : List Nat) : List Binding :=
  let owners := (List.range path.length).map fun n => path.take (path.length - n)
  let declared := owners.flatMap fun p => ((d.itemAt? p).map Item.bindings).getD []
  let distinct := declared.foldl
    (fun bs b => if bs.any fun c => c.1 = b.1 then bs else bs ++ [b]) []
  (some "xml", Markup.Xml.xmlSpace) :: distinct.reverse

def binding? (d : Document) : Place → Option Binding
  | .scope path i => (bindings d path)[i]?
  | _ => none

def name? (d : Document) (p : Place) : Option Name :=
  match p.attribute? d with
  | some a => some a.name
  | none => (p.item? d).bind Item.name?

/-- The characters that stand for a place: those of a document are the characters of its root. -/
def content (d : Document) (p : Place) : String :=
  match p with
  | .document => d.root.content
  | .item path => ((d.itemAt? path).map Item.content).getD ""
  | .text path => ((d.itemAt? path).map Item.text).getD ""
  | .tail path => ((d.itemAt? path).map Item.tail).getD ""
  | .attribute .. => ((p.attribute? d).map Attribute.value).getD ""
  | .scope .. => ((p.binding? d).map Prod.snd).getD ""

def parent? : Place → Option Place
  | .document => none
  | .item path | .tail path => some (if path.length ≤ 1 then document else item path.dropLast)
  | .text path | .attribute path _ | .scope path _ => some (item path)

def ancestors (p : Place) : List Place :=
  match p.parent? with
  | none => []
  | some document => [document]
  | some (item path) => outward path.length path ++ [document]
  | some q => [q]
where
  outward : Nat → List Nat → List Place
    | 0, _ => []
    | n + 1, path => item (path.take (n + 1)) :: outward n path

def withTail (path : List Nat) (i : Item) (inside : List Place) : List Place :=
  inside ++ if i.tail.isEmpty then [] else [tail path]

def textInside (path : List Nat) (i : Item) : List Place :=
  if i.isElement && !i.text.isEmpty then [text path] else []

def children (d : Document) : Place → List Place
  | .document => (List.range d.items.length).map fun k => item [k]
  | .item path => match d.itemAt? path with
    | none => []
    | some i => textInside path i ++ i.children.zipIdx.flatMap fun (c, k) =>
        withTail (path ++ [k]) c [item (path ++ [k])]
  | _ => []

mutual

def inside (path : List Nat) : Item → List Place
  | .mk l t cs u => textInside path (.mk l t cs u) ++ insideAll path 0 cs

def insideAll (path : List Nat) (k : Nat) : List Item → List Place
  | [] => []
  | c :: cs =>
    withTail (path ++ [k]) c (item (path ++ [k]) :: inside (path ++ [k]) c) ++
      insideAll path (k + 1) cs

end

def descendants (d : Document) : Place → List Place
  | .document => insideAll [] 0 d.items
  | .item path => ((d.itemAt? path).map (inside path)).getD []
  | _ => []

/-- The result that a place stands for: a text remembers its place, a namespace is a pair, and the
document itself is none. -/
def value? (d : Document) (p : Place) : Option Value :=
  let node path : Node := ⟨path, d⟩
  match p with
  | .document => none
  | .item path => some (.node (node path))
  | .text path => some (.str (p.content d) (.text (node path)))
  | .tail path => some (.str (p.content d) (.tail (node path)))
  | .attribute path _ => do
    let a ← p.attribute? d
    return .str a.value (.attribute (node path) a.name.expanded)
  | .scope _ _ => do
    let (q, space) ← p.binding? d
    return .tuple [(q.map Value.ofString).getD .none, .ofString space]

end Place

end Quarry.Query
