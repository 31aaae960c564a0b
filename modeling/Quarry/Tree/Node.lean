import Quarry.Tree.Basic

namespace Quarry

/-- A place in a document. The first index of the path counts the items of the document, each
further one the children of the item before. -/
structure Node where
  path : List Nat
  document : Document
  deriving DecidableEq

namespace Node

def root (d : Document) : Node := ⟨[d.before.length], d⟩

def item? (n : Node) : Option Item :=
  n.document.itemAt? n.path

def isElement (n : Node) : Bool :=
  n.item?.any Item.isElement

def tag (n : Node) : String :=
  (n.item?.map Item.tag).getD ""

def childNodes (n : Node) : List Node :=
  match n.item? with
  | none => []
  | some i => (List.range i.children.length).map fun k => ⟨n.path ++ [k], n.document⟩

def children (n : Node) : List Node :=
  n.childNodes.filter isElement

def parent? (n : Node) : Option Node :=
  if n.path.length ≤ 1 then none else some ⟨n.path.dropLast, n.document⟩

def attribute? (n : Node) (name : String) : Option String := do
  let i ← n.item?
  let a ← i.attributes.find? fun a => a.name.expanded = name
  return a.value

def content (n : Node) : String :=
  (n.item?.map Item.content).getD ""

/-- Where a node stands: the child indices below the root, or the distance from the root of an
item beside it. -/
def address (n : Node) : String :=
  let lead := n.document.before.length
  match n.path with
  | [] => ""
  | k :: rest =>
    if k < lead then "root-" ++ toString (lead - k)
    else if lead < k then "root+" ++ toString (k - lead)
    else if rest.isEmpty then "/"
    else rest.foldl (fun s i => s ++ "/" ++ toString i) ""

end Node

end Quarry
